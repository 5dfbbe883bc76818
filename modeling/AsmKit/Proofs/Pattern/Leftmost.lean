import AsmKit.Proofs.Pattern.Greedy

/-! # The leftmost match

A search tries the places of a text in order. So it finds a match that no other
one starts in front of, and it finds none just where no match starts anywhere. -/
namespace AsmKit.Pattern

/-- The place in a text behind the characters of `front`; those of `before`, the nearest first,
stand in front of them. -/
def placeBehind (before front back : List Char) : Place := .between (front.reverse ++ before) back

/-- No match of the node starts anywhere in what comes after a place. -/
def Misses (node : Node) (before after : List Char) : Prop :=
  ∀ front back, after = front ++ back → node.run some (placeBehind before front back) = none

/-- A match of the node that no other one starts in front of. It skips what is in front of its
start. -/
inductive Leftmost (node : Node) (before after : List Char) : Match → Prop
  | found {front back : List Char} {stop : Place} : after = front ++ back →
      node.run some (placeBehind before front back) = some stop →
      (∀ front' back', after = front' ++ back' → front'.length < front.length →
        node.run some (placeBehind before front' back') = none) →
      Leftmost node before after ⟨front, (placeBehind before front back).textTo stop, stop⟩

section Search
variable {node : Node} {before after rest : List Char} {c : Char} {m : Match}

theorem placeBehind_cons (before : List Char) (c : Char) (front back : List Char) :
    placeBehind before (c :: front) back = placeBehind (c :: before) front back := by
  rw [placeBehind, List.reverse_cons, List.append_assoc]
  rfl

theorem misses_cons (hhere : node.run some (.between before (c :: rest)) = none)
    (h : Misses node (c :: before) rest) : Misses node before (c :: rest) := by
  intro front back hsplit
  rcases List.cons_eq_append_iff.mp hsplit with ⟨rfl, rfl⟩ | ⟨more, rfl, hmore⟩
  · exact hhere
  · rw [placeBehind_cons]
    exact h more back hmore

theorem leftmost_here {stop : Place} (h : node.run some (.between before after) = some stop) :
    Leftmost node before after ⟨[], (Place.between before after).textTo stop, stop⟩ := by
  have hsplit : after = [] ++ after := rfl
  exact .found hsplit h fun _ _ _ hshort => absurd hshort (Nat.not_lt_zero _)

theorem Leftmost.cons (hhere : node.run some (.between before (c :: rest)) = none)
    (h : Leftmost node (c :: before) rest m) :
    Leftmost node before (c :: rest) { m with skipped := c :: m.skipped } := by
  obtain ⟨hsplit, hrun, hfirst⟩ := h
  rw [← placeBehind_cons] at hrun ⊢
  refine .found (congrArg (c :: ·) hsplit) hrun fun front' back' hsplit' hshort => ?_
  rcases List.cons_eq_append_iff.mp hsplit' with ⟨rfl, rfl⟩ | ⟨more, rfl, hmore⟩
  · exact hhere
  · rw [placeBehind_cons]
    exact hfirst more back' hmore (Nat.lt_of_succ_lt_succ hshort)

/-- There is one leftmost match. -/
theorem Leftmost.unique {m' : Match} (h : Leftmost node before after m)
    (h' : Leftmost node before after m') : m = m' := by
  obtain @⟨front, _, _, hsplit, hrun, hfirst⟩ := h
  obtain @⟨front', _, _, hsplit', hrun', hfirst'⟩ := h'
  rcases Nat.lt_trichotomy front.length front'.length with hlt | heq | hlt
  · cases hrun.symm.trans (hfirst' _ _ hsplit hlt)
  · obtain ⟨rfl, rfl⟩ := List.append_inj (hsplit.symm.trans hsplit') heq
    rw [Option.some.inj (hrun.symm.trans hrun')]
  · cases hrun'.symm.trans (hfirst _ _ hsplit' hlt)

theorem Leftmost.not_misses (h : Leftmost node before after m) : ¬ Misses node before after := by
  obtain ⟨hsplit, hrun, -⟩ := h
  intro hmisses
  cases hrun.symm.trans (hmisses _ _ hsplit)

/-- The search tries the places of a text from the first on. -/
theorem firstMatch_cases (node : Node) (before after : List Char) :
    (firstMatch node false before after after.length = none ∧ Misses node before after) ∨
      ∃ m, firstMatch node false before after after.length = some m ∧
        Leftmost node before after m := by
  induction after generalizing before with
  | nil =>
    have hfirst : firstMatch node false before [] 0 =
      matchAt node false (.between before []) := rfl
    rw [List.length_nil, hfirst, matchAt_false]
    cases hhere : node.run some (.between before []) with
    | some stop => exact .inr ⟨_, rfl, leftmost_here hhere⟩
    | none =>
      refine .inl ⟨rfl, fun front back hsplit => ?_⟩
      obtain ⟨rfl, rfl⟩ := List.nil_eq_append_iff.mp hsplit
      exact hhere
  | cons c rest ih =>
    have hplace : Place.amid before (c :: rest) = .between before (c :: rest) := rfl
    rw [firstMatch_cons, hplace, matchAt_false]
    cases hhere : node.run some (.between before (c :: rest)) with
    | some stop => exact .inr ⟨_, rfl, leftmost_here hhere⟩
    | none =>
      rcases ih (c :: before) with ⟨hnone, hmisses⟩ | ⟨m, hsome, hleftmost⟩
      · exact .inl ⟨by rw [hnone]; rfl, misses_cons hhere hmisses⟩
      · exact .inr ⟨_, by rw [hsome]; rfl, hleftmost.cons hhere⟩

end Search

section Patterns
variable {pattern : Pattern} {text : List Char}

theorem find?_eq_none_iff : pattern.find? text = none ↔ Misses pattern.body [] text := by
  unfold find?
  rcases firstMatch_cases pattern.body [] text with ⟨hnone, hmisses⟩ | ⟨m, hsome, hleftmost⟩
  · rw [hnone]
    exact iff_of_true rfl hmisses
  · rw [hsome]
    exact iff_of_false nofun hleftmost.not_misses

theorem find?_eq_some_iff {m : Match} :
    pattern.find? text = some m ↔ Leftmost pattern.body [] text m := by
  unfold find?
  rcases firstMatch_cases pattern.body [] text with ⟨hnone, hmisses⟩ | ⟨found, hsome, hleftmost⟩
  · rw [hnone]
    exact iff_of_false nofun fun hm => hm.not_misses hmisses
  · rw [hsome, Option.some.injEq]
    constructor
    · rintro rfl
      exact hleftmost
    · exact hleftmost.unique

end Patterns
end AsmKit.Pattern
