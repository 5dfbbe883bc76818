/-! Tables: named entries in the order in which the names first came, each name once. Setting an
entry changes what its own name gives and nothing else. -/

namespace AsmKit.Table

variable {β : Type}

/-- The table with an entry set: a new name goes to the end, a known one keeps its place. -/
def put (name : String) (value : β) : List (String × β) → List (String × β)
  | [] => [(name, value)]
  | (known, old) :: rest =>
    if known == name then (name, value) :: rest else (known, old) :: put name value rest

def erase (name : String) (table : List (String × β)) : List (String × β) :=
  table.filter fun entry => entry.1 != name

theorem lookup_put_self (name : String) (value : β) (table : List (String × β)) :
    (put name value table).lookup name = some value := by
  induction table with
  | nil => simp [put]
  | cons entry rest ih =>
    obtain ⟨known, old⟩ := entry
    by_cases h : known = name
    · simp [put, h]
    · have h' : (name == known) = false := by simpa using fun e => h e.symm
      simp [put, h, List.lookup_cons, h', ih]

theorem lookup_put_of_ne {name other : String} (value : β) (table : List (String × β))
    (h : other ≠ name) : (put name value table).lookup other = table.lookup other := by
  induction table with
  | nil =>
    have h' : (other == name) = false := by simpa using h
    simp [put, List.lookup_cons, h']
  | cons entry rest ih =>
    obtain ⟨known, old⟩ := entry
    by_cases hk : known = name
    · have h' : (other == name) = false := by simpa using h
      simp [put, hk, List.lookup_cons, h']
    · simp [put, hk, List.lookup_cons, ih]

/-- A name that the front of a table lacks is set behind it. -/
theorem put_append {name : String} (value : β) {front : List (String × β)}
    (back : List (String × β)) (h : front.lookup name = none) :
    put name value (front ++ back) = front ++ put name value back := by
  induction front with
  | nil => rfl
  | cons entry rest ih =>
    obtain ⟨known, old⟩ := entry
    rw [List.lookup_cons] at h
    split at h
    · cases h
    · rename_i hne
      have hk : (known == name) = false := by
        rw [BEq.comm]
        simpa using hne
      simp [put, hk, ih h]

theorem put_of_lookup_eq_none {name : String} (value : β) {table : List (String × β)}
    (h : table.lookup name = none) : put name value table = table ++ [(name, value)] := by
  have happend := put_append value [] h
  rwa [List.append_nil] at happend

def mapValues {γ : Type} (f : β → γ) (table : List (String × β)) : List (String × γ) :=
  table.map fun entry => (entry.1, f entry.2)

theorem lookup_mapValues {γ : Type} (f : β → γ) (name : String) (table : List (String × β)) :
    (mapValues f table).lookup name = (table.lookup name).map f := by
  induction table with
  | nil => rfl
  | cons entry rest ih =>
    obtain ⟨known, old⟩ := entry
    unfold mapValues at ih ⊢
    rw [List.map_cons, List.lookup_cons, List.lookup_cons, ih]
    cases name == known <;> rfl

theorem put_mapValues {γ : Type} (f : β → γ) (name : String) (value : β)
    (table : List (String × β)) :
    put name (f value) (mapValues f table) = mapValues f (put name value table) := by
  induction table with
  | nil => rfl
  | cons entry rest ih =>
    obtain ⟨known, old⟩ := entry
    unfold mapValues at ih ⊢
    rw [List.map_cons, put, put]
    split
    · rfl
    · rw [ih]
      rfl

end AsmKit.Table
