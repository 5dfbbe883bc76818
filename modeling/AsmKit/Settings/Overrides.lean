import AsmKit.Settings.Draft

/-! What a caller may give where settings are wanted: nothing, a draft, or settings by name. -/

namespace AsmKit.Settings

/-- What a caller gives for settings. -/
inductive Overrides where
  | none
  | draft (draft : Draft)
  | named (fields : List (String × Given))
  | datum (datum : Datum)
  deriving Repr, Inhabited

def names : List String := ["separator", "label", "comment", "syntax"]

/-- The names among the given ones that no setting has, sorted. -/
def unknownNames (given : List String) : List String :=
  (given.filter fun name => !names.contains name).mergeSort fun a b => !(b < a)

def Draft.ofFields (fields : List (String × Given)) : Draft :=
  let field (name : String) : Given := (fields.lookup name).getD .absent
  { separator := field "separator", label := field "label", comment := field "comment"
    operandRules := field "syntax" }

def Overrides.resolve [Text.CharacterNames] : Overrides → Except Fault Settings
  | .none => ({} : Draft).resolve
  | .draft given => given.resolve
  | .named fields =>
    match unknownNames (fields.map (·.1)) with
    | [] => (Draft.ofFields fields).resolve
    | unknown => .error (.unknownNames unknown)
  | .datum _ => .error .notSettings

end AsmKit.Settings
