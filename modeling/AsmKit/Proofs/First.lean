/-! # The first of several items

A walk along a list that skips some items stops at the first of the others.
Which item that is does not depend on what stands behind it. -/
namespace AsmKit

/-- Of the items in their order, this one is the first that is not skipped. -/
def StopsAt {β : Type} (skips : β → Prop) (items : List β) (item : β) : Prop :=
  ∃ front back, items = front ++ item :: back ∧ (∀ earlier ∈ front, skips earlier) ∧ ¬ skips item

namespace StopsAt
variable {β : Type} {skips : β → Prop} {items : List β} {item : β}

theorem head (h : ¬ skips item) : StopsAt skips (item :: items) item :=
  ⟨[], items, rfl, nofun, h⟩

theorem cons {first : β} (hfirst : skips first) (h : StopsAt skips items item) :
    StopsAt skips (first :: items) item := by
  obtain ⟨front, back, rfl, hfront, hitem⟩ := h
  exact ⟨first :: front, back, rfl, List.forall_mem_cons.mpr ⟨hfirst, hfront⟩, hitem⟩

theorem append (h : StopsAt skips items item) (more : List β) :
    StopsAt skips (items ++ more) item := by
  obtain ⟨front, back, rfl, hfront, hitem⟩ := h
  exact ⟨front, back ++ more, by simp, hfront, hitem⟩

theorem behind {front : List β} (hfront : ∀ earlier ∈ front, skips earlier)
    (h : StopsAt skips items item) : StopsAt skips (front ++ items) item := by
  induction front with
  | nil => exact h
  | cons first rest ih =>
    obtain ⟨hfirst, hrest⟩ := List.forall_mem_cons.mp hfront
    exact (ih hrest).cons hfirst

theorem cons_iff {first : β} : StopsAt skips (first :: items) item ↔
    item = first ∧ ¬ skips first ∨ skips first ∧ StopsAt skips items item := by
  constructor
  · rintro ⟨front, back, hitems, hfront, hitem⟩
    cases front with
    | nil =>
      obtain ⟨rfl, rfl⟩ := List.cons.inj hitems
      exact .inl ⟨rfl, hitem⟩
    | cons skipped more =>
      obtain ⟨rfl, rfl⟩ := List.cons.inj hitems
      obtain ⟨hskipped, hmore⟩ := List.forall_mem_cons.mp hfront
      exact .inr ⟨hskipped, more, back, rfl, hmore, hitem⟩
  · rintro (⟨rfl, hitem⟩ | ⟨hfirst, hrest⟩)
    · exact .head hitem
    · exact hrest.cons hfirst

theorem not_skips (h : StopsAt skips items item) : ¬ skips item := by
  obtain ⟨front, back, -, -, hitem⟩ := h
  exact hitem

theorem mem (h : StopsAt skips items item) : item ∈ items := by
  obtain ⟨front, back, rfl, -⟩ := h
  simp

theorem unique {other : β} (h : StopsAt skips items item) (h' : StopsAt skips items other) :
    item = other := by
  induction items with
  | nil => cases h.mem
  | cons first rest ih =>
    rcases cons_iff.mp h with ⟨rfl, hstop⟩ | ⟨hskip, hrest⟩
    · rcases cons_iff.mp h' with ⟨rfl, -⟩ | ⟨hskip', -⟩
      · rfl
      · exact absurd hskip' hstop
    · rcases cons_iff.mp h' with ⟨rfl, hstop'⟩ | ⟨-, hrest'⟩
      · exact absurd hskip hstop'
      · exact ih hrest hrest'

/-- The first item that is not skipped stands at the first such place. -/
theorem iff_getElem? : StopsAt skips items item ↔ ∃ j : Nat, items[j]? = some item ∧ ¬ skips item ∧
    ∀ i < j, ∀ earlier, items[i]? = some earlier → skips earlier := by
  constructor
  · rintro ⟨front, back, rfl, hfront, hitem⟩
    refine ⟨front.length, by simp, hitem, fun i hi earlier hearlier => hfront earlier ?_⟩
    rw [List.getElem?_append_left hi] at hearlier
    exact List.mem_of_getElem? hearlier
  · rintro ⟨j, hj, hitem, hearlier⟩
    obtain ⟨hlt, rfl⟩ := List.getElem?_eq_some_iff.mp hj
    refine ⟨items.take j, items.drop (j + 1), by simp, fun earlier hmem => ?_, hitem⟩
    obtain ⟨i, hi, hget⟩ := List.mem_take_iff_getElem.mp hmem
    exact hearlier i (by omega) earlier (List.getElem?_eq_some_iff.mpr ⟨_, hget⟩)

theorem exists_or_all (skips : β → Prop) (items : List β) :
    (∀ item ∈ items, skips item) ∨ ∃ item, StopsAt skips items item := by
  induction items with
  | nil => exact .inl nofun
  | cons first rest ih =>
    by_cases hfirst : skips first
    · rcases ih with hall | ⟨item, hstops⟩
      · exact .inl (List.forall_mem_cons.mpr ⟨hfirst, hall⟩)
      · exact .inr ⟨item, hstops.cons hfirst⟩
    · exact .inr ⟨first, .head hfirst⟩

end StopsAt
end AsmKit
