import AsmKit.Pattern.Match

/-! # What every node carries along

On its way a node moves past a character, or past a text that a group has taken;
it closes a group, or goes on from where it was with what a look-around has
taken. A relation between places that allows these moves holds between the place
where a node is run and the place where it hands over to what follows. -/
namespace AsmKit.Pattern

/-- A relation between places that allows the moves of a node. -/
structure Allows (R : Place → Place → Prop) : Prop where
  refl : ∀ p, R p p
  trans : ∀ {p q r}, R p q → R q r → R p r
  advance : ∀ {p : Place} {c : Char} {rest : List Char}, p.after = c :: rest →
    R p (p.advance c rest)
  skip : ∀ {p q : Place} {index : Nat} {folding : Folding} {text : List Char},
    p.group? index = some text → Place.skip? folding text p = some q → R p q
  close : ∀ {p q : Place} (index : Nat), R p q → R p (q.close index p)
  look : ∀ {p start stop : Place}, start = p ∨ (∃ n, p.back? n = some start) → R start stop →
    R p { p with taken := stop.taken }

/-- The part of a pattern hands over to what follows at a place that stands in the relation to the
place where the part is run. -/
def Carries (R : Place → Place → Prop) (body : Next → Next) : Prop :=
  ∀ next p stop, body next p = some stop → ∃ q, R p q ∧ next q = some stop

section Parts
variable {R : Place → Place → Prop} (hR : Allows R) {body : Next → Next}
include hR

theorem Carries.comp {first second : Next → Next} (h : Carries R first) (h' : Carries R second) :
    Carries R fun next => first (second next) := by
  intro next p stop hrun
  obtain ⟨q, hq, hsecond⟩ := h _ _ _ hrun
  obtain ⟨r, hr, hstop⟩ := h' _ _ _ hsecond
  exact ⟨r, hR.trans hq hr, hstop⟩

omit hR in
/-- Run by itself, a part of a pattern ends at a place in the relation. -/
theorem Carries.ends {p stop : Place} (h : Carries R body) (hrun : body some p = some stop) :
    R p stop := by
  obtain ⟨q, hq, hstop⟩ := h _ _ _ hrun
  cases hstop
  exact hq

/-! ## Loops -/

theorem carries_greedyLoop (hbody : Carries R body) (fuel : Nat) (n : LoopCount) :
    Carries R fun next => greedyLoop body next fuel n := by
  induction fuel generalizing n with
  | zero => exact fun next p stop h => ⟨p, hR.refl p, h⟩
  | succ fuel ih =>
    intro next p stop h
    have hround := fun m => hbody.comp hR (ih m) next p stop
    change greedyLoop body next (fuel + 1) n p = some stop at h
    unfold greedyLoop at h
    split at h
    · exact hround _ h
    · split at h
      · split at h
        · rename_i htaken
          cases h
          exact hround _ htaken
        · exact ⟨p, hR.refl p, h⟩
      · exact ⟨p, hR.refl p, h⟩

theorem carries_lazyLoop (hbody : Carries R body) (fuel : Nat) (n : LoopCount) :
    Carries R fun next => lazyLoop body next fuel n := by
  induction fuel generalizing n with
  | zero => exact fun next p stop h => ⟨p, hR.refl p, h⟩
  | succ fuel ih =>
    intro next p stop h
    have hround := fun m => hbody.comp hR (ih m) next p stop
    change lazyLoop body next (fuel + 1) n p = some stop at h
    unfold lazyLoop at h
    split at h
    · exact hround _ h
    · split at h
      · rename_i hnext
        cases h
        exact ⟨p, hR.refl p, hnext⟩
      · split at h
        · exact hround _ h
        · cases h

theorem possessiveLoop_ends (hbody : Carries R body) {fuel : Nat} {n : LoopCount}
    {p stop : Place} (h : possessiveLoop body fuel n p = some stop) : R p stop := by
  induction fuel generalizing n p with
  | zero => cases h; exact hR.refl _
  | succ fuel ih =>
    unfold possessiveLoop at h
    split at h
    · split at h
      · rename_i hround
        exact hR.trans (hbody.ends hround) (ih h)
      · cases h
    · split at h
      · split at h
        · rename_i hround
          exact hR.trans (hbody.ends hround) (ih h)
        · cases h; exact hR.refl _
      · cases h; exact hR.refl _

/-! ## Nodes -/

theorem carries_run (node : Node) : Carries R node.run := by
  induction node with
  | empty => exact fun next p stop h => ⟨p, hR.refl p, h⟩
  | single test =>
    intro next p stop h
    unfold Node.run at h
    split at h
    · cases h
    · rename_i c rest hafter
      split at h
      · exact ⟨_, hR.advance hafter, h⟩
      · cases h
  | anchor test =>
    intro next p stop h
    unfold Node.run at h
    split at h
    · exact ⟨p, hR.refl p, h⟩
    · cases h
  | seq first second ihfirst ihsecond => exact ihfirst.comp hR ihsecond
  | either first second ihfirst ihsecond =>
    intro next p stop h
    unfold Node.run at h
    split at h
    · rename_i hfirst
      cases h
      exact ihfirst _ _ _ hfirst
    · exact ihsecond _ _ _ h
  | loop greed low high body ih =>
    intro next p stop h
    unfold Node.run at h
    dsimp only at h
    split at h
    · exact carries_greedyLoop hR ih _ _ _ _ _ h
    · exact carries_lazyLoop hR ih _ _ _ _ _ h
    · split at h
      · rename_i hloop
        exact ⟨_, possessiveLoop_ends hR ih hloop, h⟩
      · cases h
  | group index body ih =>
    intro next p stop h
    cases index with
    | none => exact ih _ _ _ h
    | some index =>
      obtain ⟨q, hq, hstop⟩ := ih _ _ _ h
      exact ⟨_, hR.close index hq, hstop⟩
  | sameAs folding index =>
    intro next p stop h
    unfold Node.run at h
    split at h
    · cases h
    · rename_i text hgroup
      split at h
      · rename_i hskip
        exact ⟨_, hR.skip hgroup hskip, h⟩
      · cases h
  | look direction negated body ih =>
    intro next p stop h
    have hhere : next p = some stop → ∃ q, R p q ∧ next q = some stop :=
      fun hnext => ⟨p, hR.refl p, hnext⟩
    unfold Node.run at h
    dsimp only at h
    split at h
    · split at h
      · exact hhere h
      · cases h
    · rename_i start hstart
      split at h
      · rename_i looked hlooked
        split at h
        · cases h
        · refine ⟨_, hR.look ?_ (ih.ends hlooked), h⟩
          cases direction with
          | ahead => cases hstart; exact .inl rfl
          | behind width => exact .inr ⟨width.low, hstart⟩
      · split at h
        · exact hhere h
        · cases h
  | atomic body ih =>
    intro next p stop h
    unfold Node.run at h
    split at h
    · rename_i hbody
      exact ⟨_, ih.ends hbody, h⟩
    · cases h
  | ifGroup index present absent ihpresent ihabsent =>
    intro next p stop h
    unfold Node.run at h
    split at h
    · exact ihpresent _ _ _ h
    · exact ihabsent _ _ _ h

end Parts

/-- A match ends at a place that stands in the relation to its start. -/
theorem Carries.of_matchAt {R : Place → Place → Prop} {node : Node} {mustTake : Bool}
    {start : Place} {m : Match} (hnode : Carries R node.run)
    (h : matchAt node mustTake start = some m) :
    R start m.stop ∧ m.skipped = [] ∧ m.text = start.textTo m.stop := by
  obtain ⟨stop, hrun, rfl⟩ := Option.map_eq_some_iff.mp h
  obtain ⟨q, hq, hfinish⟩ := hnode _ _ _ hrun
  have hstop : q = stop := by
    split at hfinish
    · cases hfinish
    · exact Option.some.inj hfinish
  rw [hstop] at hq
  exact ⟨hq, rfl, rfl⟩

/-! ## The empty text -/

/-- The place of the empty text, with nothing taken by the groups that have matched. -/
structure Place.Bare (p : Place) : Prop where
  before : p.before = []
  after : p.after = []
  taken : ∀ entry ∈ p.taken, entry.2 = []

theorem Place.Bare.group? {p : Place} (h : p.Bare) {index : Nat} {text : List Char}
    (hgroup : p.group? index = some text) : text = [] := by
  obtain ⟨front, back, htaken, -⟩ := List.lookup_eq_some_iff.mp hgroup
  exact h.taken (index, text) (by rw [htaken]; simp)

/-- On the empty text a node can go nowhere. -/
theorem allows_bare : Allows fun p q => p.Bare → q.Bare where
  refl _ h := h
  trans h h' hp := h' (h hp)
  advance hafter hp := by
    rw [hp.after] at hafter
    cases hafter
  skip hgroup hskip hp := by
    rw [hp.group? hgroup] at hskip
    cases hskip
    exact hp
  close := by
    intro p q index h hp
    refine ⟨(h hp).before, (h hp).after, List.forall_mem_cons.mpr ⟨?_, (h hp).taken⟩⟩
    simp [Place.textTo, hp.after]
  look := by
    intro p start stop hstart h hp
    have hbare : start.Bare := by
      rcases hstart with rfl | ⟨n, hback⟩
      · exact hp
      · unfold Place.back? at hback
        simp only [hp.before, hp.after, List.take_nil, List.drop_nil, List.reverse_nil] at hback
        split at hback
        · cases hback
          exact ⟨rfl, rfl, hp.taken⟩
        · cases hback
    exact ⟨hp.before, hp.after, (h hbare).taken⟩

/-- On the empty text no group takes anything. -/
theorem group?_of_findAtStart?_nil {pattern : Pattern} {m : Match}
    (h : pattern.findAtStart? [] = some m) {index : Nat} {text : List Char}
    (hgroup : m.group? index = some text) : text = [] := by
  obtain ⟨hbare, -⟩ := (carries_run allows_bare pattern.body).of_matchAt h
  exact (hbare ⟨rfl, rfl, nofun⟩).group? hgroup

end AsmKit.Pattern
