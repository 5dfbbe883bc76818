import AsmKit.Proofs.Pattern.Carrying

/-! # Matching goes forward

Whatever a node does on its way, it hands over to what follows at a place
behind the one it was run at, in the same text. So a match takes what stands
between two places, and taking the matches out of a text leaves only characters
of the text. -/
namespace AsmKit.Pattern

/-- A place of the same text at or behind this one: the characters between the two have moved
from one side to the other. -/
def Place.Onward (p later : Place) : Prop :=
  ∃ passed, p.after = passed ++ later.after ∧ later.before = passed.reverse ++ p.before ∧
    later.left = p.left - passed.length

namespace Place

theorem Onward.refl (p : Place) : p.Onward p := ⟨[], rfl, rfl, rfl⟩

theorem Onward.trans {p q r : Place} (h : p.Onward q) (h' : q.Onward r) : p.Onward r := by
  obtain ⟨first, hafter, hbefore, hleft⟩ := h
  obtain ⟨second, hafter', hbefore', hleft'⟩ := h'
  refine ⟨first ++ second, ?_, ?_, ?_⟩
  · rw [hafter, hafter', List.append_assoc]
  · rw [hbefore', hbefore, List.reverse_append, List.append_assoc]
  · rw [hleft', hleft, List.length_append, Nat.sub_sub]

theorem onward_advance {p : Place} {c : Char} {rest : List Char} (h : p.after = c :: rest) :
    p.Onward (p.advance c rest) := ⟨[c], h, rfl, rfl⟩

/-- What the groups have taken does not say where a place is. -/
theorem Onward.withTaken {p q : Place} (h : p.Onward q) (taken : List (Nat × List Char)) :
    p.Onward { q with taken } := h

theorem Onward.close {p q : Place} (h : p.Onward q) (index : Nat) (start : Place) :
    p.Onward (q.close index start) := h

theorem onward_skip? {folding : Folding} {text : List Char} {p q : Place}
    (h : skip? folding text p = some q) : p.Onward q := by
  induction text generalizing p with
  | nil => cases h; exact .refl _
  | cons c rest ih =>
    unfold skip? at h
    split at h
    · cases h
    · rename_i d after hafter
      split at h
      · exact (onward_advance hafter).trans (ih h)
      · cases h

end Place

/-- The part of a pattern hands over to what follows at a place further on. -/
def Forward (body : Next → Next) : Prop :=
  ∀ next p stop, body next p = some stop → ∃ q, p.Onward q ∧ next q = some stop

/-- Places further on are those that the moves of a node lead to. -/
theorem allows_onward : Allows Place.Onward where
  refl := .refl
  trans := .trans
  advance := Place.onward_advance
  skip _ hskip := Place.onward_skip? hskip
  close index h := h.close index _
  look {p} _ _ _ _ := (Place.Onward.refl p).withTaken _

/-- Every node goes forward. A look-around may look elsewhere, but goes on from where it is. -/
theorem forward_run (node : Node) : Forward node.run := carries_run allows_onward node

/-! ## Matches -/

theorem Place.Onward.textTo {p q : Place} (h : p.Onward q) (hleft : p.left = p.after.length) :
    p.after = p.textTo q ++ q.after ∧ q.left = q.after.length := by
  obtain ⟨passed, hafter, -, hlater⟩ := h
  have hlength := congrArg List.length hafter
  rw [List.length_append] at hlength
  have hpassed : p.left - q.left = passed.length := by omega
  constructor
  · rw [Place.textTo, hpassed, hafter, List.take_left]
  · omega

theorem matchAt_parts {node : Node} {mustTake : Bool} {start : Place} {m : Match}
    (h : matchAt node mustTake start = some m) (hleft : start.left = start.after.length) :
    start.after = m.skipped ++ m.text ++ m.stop.after ∧ m.stop.left = m.stop.after.length := by
  obtain ⟨hstop, hskipped, htext⟩ := Carries.of_matchAt (forward_run node) h
  rw [hskipped, htext]
  exact hstop.textTo hleft

/-- A match, what was skipped in front of it and what stands behind it make up the text. -/
theorem firstMatch_parts {node : Node} {mustTake : Bool} {before after : List Char} {left : Nat}
    {m : Match} (h : firstMatch node mustTake before after left = some m)
    (hleft : left = after.length) :
    after = m.skipped ++ m.text ++ m.stop.after ∧ m.stop.left = m.stop.after.length := by
  induction after generalizing before left mustTake m with
  | nil => exact matchAt_parts h hleft
  | cons c rest ih =>
    unfold firstMatch at h
    split at h
    · rename_i hhere
      cases h
      exact matchAt_parts hhere hleft
    · obtain ⟨later, hlater, rfl⟩ := Option.map_eq_some_iff.mp h
      obtain ⟨hrest, hstop⟩ := ih hlater (by rw [hleft]; rfl)
      exact ⟨congrArg (c :: ·) hrest, hstop⟩

theorem matchesFrom_parts {node : Node} (fuel : Nat) (mustTake : Bool) (p : Place)
    (hleft : p.left = p.after.length) :
    p.after = (matchesFrom node fuel mustTake p).1.flatMap (fun m => m.skipped ++ m.text) ++
      (matchesFrom node fuel mustTake p).2 := by
  induction fuel generalizing mustTake p with
  | zero => rfl
  | succ fuel ih =>
    unfold matchesFrom
    split
    · rfl
    · rename_i m hfirst
      obtain ⟨hafter, hstop⟩ := firstMatch_parts hfirst hleft
      have hmore := ih m.text.isEmpty m.stop hstop
      rw [List.flatMap_cons, List.append_assoc, ← hmore]
      exact hafter

/-- The matches in a text and what stands between them make up the text. -/
theorem matchesIn_parts (node : Node) (text : List Char) :
    text = (matchesIn node text).1.flatMap (fun m => m.skipped ++ m.text) ++
      (matchesIn node text).2 :=
  matchesFrom_parts _ _ (.between [] text) rfl

/-- Without its matches a text has only characters of its own, in their order. -/
theorem removeAll_sublist (pattern : Pattern) (text : List Char) :
    (pattern.removeAll text).Sublist text := by
  have hskipped : ∀ found : List Match, (found.flatMap (·.skipped)).Sublist
      (found.flatMap fun m => m.skipped ++ m.text) := by
    intro found
    induction found with
    | nil => exact .slnil
    | cons m rest ih =>
      rw [List.flatMap_cons, List.flatMap_cons]
      exact (List.sublist_append_left m.skipped m.text).append ih
  have hkept := (hskipped (matchesIn pattern.body text).1).append
    (List.Sublist.refl (matchesIn pattern.body text).2)
  rw [← matchesIn_parts pattern.body text] at hkept
  exact hkept

end AsmKit.Pattern
