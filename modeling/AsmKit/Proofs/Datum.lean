import AsmKit.Datum

/-! # Showing data

A datum is shown with all that it holds. What keeps it from being shown is a
number of too many digits in it, or something that stands deeper in it than
there is room for. -/
namespace AsmKit.Datum

/-- The data right below a datum. -/
def children : Datum → List Datum
  | .list items => items
  | .record fields => fields.map (·.2)
  | _ => []

/-- What a datum holds, with the number of levels that it stands below the datum. -/
inductive Holds : Datum → Nat → Datum → Prop
  | self (datum : Datum) : Holds datum 0 datum
  | inside {datum child part : Datum} {level : Nat} : child ∈ datum.children →
      Holds child level part → Holds datum (level + 1) part

/-- An obstacle to showing a datum where there is room for so many levels. -/
inductive Hinders (room : Nat) (datum : Datum) : Unshown → Prop
  | longNumber {level : Nat} {n : Int} : datum.Holds level (.int n) → level < room →
      ¬ Integer.IsShort n → Hinders room datum .longNumber
  | deep {part : Datum} : datum.Holds room part → Hinders room datum .deep

variable {room : Nat} {obstacle : Unshown}

/-- What hinders a datum hinders it below, unless the datum is a number itself. -/
theorem hinders_succ_iff {datum : Datum} (hint : ∀ n, datum ≠ .int n) :
    Hinders (room + 1) datum obstacle ↔ ∃ child ∈ datum.children, Hinders room child obstacle := by
  constructor
  · intro h
    cases h with
    | longNumber hholds hlevel hlong =>
      cases hholds with
      | self => exact absurd rfl (hint _)
      | inside hmem hholds =>
        exact ⟨_, hmem, .longNumber hholds (Nat.lt_of_succ_lt_succ hlevel) hlong⟩
    | deep hholds =>
      cases hholds with
      | inside hmem hholds => exact ⟨_, hmem, .deep hholds⟩
  · intro h
    obtain ⟨child, hmem, hchild⟩ := h
    cases hchild with
    | longNumber hholds hlevel hlong =>
      exact .longNumber (.inside hmem hholds) (Nat.succ_lt_succ hlevel) hlong
    | deep hholds => exact .deep (.inside hmem hholds)

/-! ## What is found -/

/-- A search that finds one of the obstacles there are, if there is any. -/
structure Finds (found : Option Unshown) (There : Unshown → Prop) : Prop where
  there : ∀ {obstacle}, found = some obstacle → There obstacle
  clear : found = none → ∀ obstacle, ¬ There obstacle

theorem finds_none {There : Unshown → Prop} (h : ∀ obstacle, ¬ There obstacle) :
    Finds none There := ⟨nofun, fun _ => h⟩

theorem finds_some {There : Unshown → Prop} (h : There obstacle) : Finds (some obstacle) There :=
  ⟨fun heq => Option.some.inj heq ▸ h, nofun⟩

theorem Finds.cons {first : Datum} {rest : List Datum} {found later : Option Unshown}
    (h : Finds found (Hinders room first))
    (hrest : Finds later fun obstacle => ∃ item ∈ rest, Hinders room item obstacle) :
    Finds (found.or later) fun obstacle => ∃ item ∈ first :: rest, Hinders room item obstacle := by
  simp only [List.mem_cons, exists_eq_or_imp]
  constructor
  · intro obstacle hfound
    rcases Option.or_eq_some_iff.mp hfound with hfirst | ⟨-, hlater⟩
    · exact .inl (h.there hfirst)
    · exact .inr (hrest.there hlater)
  · intro hnone obstacle hthere
    obtain ⟨hfirst, hlater⟩ := Option.or_eq_none_iff.mp hnone
    rcases hthere with hhinders | hhinders
    · exact h.clear hfirst obstacle hhinders
    · exact hrest.clear hlater obstacle hhinders

theorem Finds.succ {datum : Datum} {found : Option Unshown} (hint : ∀ n, datum ≠ .int n)
    (h : Finds found fun obstacle => ∃ child ∈ datum.children, Hinders room child obstacle) :
    Finds found (Hinders (room + 1) datum) :=
  ⟨fun hfound => (hinders_succ_iff hint).mpr (h.there hfound),
    fun hnone obstacle hhinders => h.clear hnone obstacle ((hinders_succ_iff hint).mp hhinders)⟩

mutual

theorem finds_unshown? (room : Nat) (datum : Datum) :
    Finds (datum.unshown? room) (Hinders room datum) := by
  cases room with
  | zero =>
    rw [unshown?]
    exact finds_some (.deep (.self datum))
  | succ room =>
    cases datum with
    | int n =>
      rw [unshown?]
      split
      · rename_i hshort
        refine finds_none fun obstacle hhinders => ?_
        cases hhinders with
        | longNumber hholds _ hlong =>
          cases hholds with
          | self => exact hlong hshort
          | inside hmem => cases hmem
        | deep hholds =>
          cases hholds with
          | inside hmem => cases hmem
      · exact finds_some (.longNumber (.self _) (Nat.succ_pos room) ‹_›)
    | list items => exact (finds_unshownItem? room items).succ nofun
    | record fields => exact (finds_unshownField? room fields).succ nofun
    | null | bool _ | float _ | text _ =>
      exact Finds.succ nofun (finds_none fun _ h => by obtain ⟨_, ⟨⟩, -⟩ := h)

theorem finds_unshownItem? (room : Nat) (items : List Datum) :
    Finds (unshownItem? room items) fun obstacle => ∃ item ∈ items, Hinders room item obstacle := by
  cases items with
  | nil => exact finds_none fun _ h => by obtain ⟨_, ⟨⟩, -⟩ := h
  | cons item rest => exact (finds_unshown? room item).cons (finds_unshownItem? room rest)

theorem finds_unshownField? (room : Nat) (fields : List (String × Datum)) :
    Finds (unshownField? room fields) fun obstacle =>
      ∃ value ∈ fields.map (·.2), Hinders room value obstacle := by
  match fields with
  | [] => exact finds_none fun _ h => by obtain ⟨_, ⟨⟩, -⟩ := h
  | (name, value) :: rest => exact (finds_unshown? room value).cons (finds_unshownField? room rest)

end

/-- A datum is shown if nothing hinders that, and else one of the obstacles is found. -/
theorem shown_cases (room : Nat) (datum : Datum) :
    (datum.shown room = .ok datum.literal ∧ ∀ obstacle, ¬ Hinders room datum obstacle) ∨
      ∃ obstacle, datum.shown room = .error obstacle ∧ Hinders room datum obstacle := by
  have hfinds := finds_unshown? room datum
  unfold shown
  cases h : datum.unshown? room with
  | none => exact .inl ⟨rfl, hfinds.clear h⟩
  | some obstacle => exact .inr ⟨obstacle, rfl, hfinds.there h⟩

end AsmKit.Datum
