import AsmKit.FaultKind
import AsmKit.Number.Binary64
import AsmKit.Number.Integer
import AsmKit.Text.Quoted

/-!
Data whose shape is known only when it is looked at: what the stack and the heap hold, what an
instruction hands back, and what settings are given as.
-/

namespace AsmKit

/-- A datum. The fields of a record have distinct names and keep their order. -/
inductive Datum where
  | null
  | bool (b : Bool)
  | int (n : Int)
  | float (x : Binary64)
  | text (s : String)
  | list (items : List Datum)
  | record (fields : List (String × Datum))
  deriving Repr, Inhabited

namespace Datum

/-- Whether a datum counts as true: all do but null, false, a zero and what is empty. -/
def isTrue : Datum → Bool
  | .null => false
  | .bool b => b
  | .int n => n != 0
  | .float x => !x.isZero
  | .text s => s != ""
  | .list items => !items.isEmpty
  | .record fields => !fields.isEmpty

mutual

/-- The literal of a datum, as messages show it. -/
def literal : Datum → String
  | .null => "None"
  | .bool b => if b then "True" else "False"
  | .int n => toString n
  | .float x => x.text
  | .text s => Text.quoted s
  | .list items => "[" ++ listLiteral items ++ "]"
  | .record fields => "\x7b" ++ recordLiteral fields ++ "\x7d"

def listLiteral : List Datum → String
  | [] => ""
  | [item] => literal item
  | item :: rest => literal item ++ ", " ++ listLiteral rest

def recordLiteral : List (String × Datum) → String
  | [] => ""
  | [(name, value)] => Text.quoted name ++ ": " ++ literal value
  | (name, value) :: rest =>
    Text.quoted name ++ ": " ++ literal value ++ ", " ++ recordLiteral rest

end

/-- What keeps a datum from being shown: a number of too many digits, or data nested too deep. -/
inductive Unshown where
  | longNumber
  | deep
  deriving DecidableEq, Repr

def Unshown.message : Unshown → String
  | .longNumber => Integer.tooManyDigits ++ Integer.raiseLimitHint
  | .deep => "maximum recursion depth exceeded while getting the repr of an object"

def Unshown.kind : Unshown → FaultKind
  | .longNumber => .badValue
  | .deep => .tooDeep

mutual

/-- The first thing that keeps a datum from being shown where there is room for so many levels. -/
def unshown? : Nat → Datum → Option Unshown
  | 0, _ => some .deep
  | _ + 1, .int n => if Integer.IsShort n then none else some .longNumber
  | room + 1, .list items => unshownItem? room items
  | room + 1, .record fields => unshownField? room fields
  | _ + 1, _ => none

def unshownItem? (room : Nat) : List Datum → Option Unshown
  | [] => none
  | item :: rest => (unshown? room item).or (unshownItem? room rest)

def unshownField? (room : Nat) : List (String × Datum) → Option Unshown
  | [] => none
  | (_, value) :: rest => (unshown? room value).or (unshownField? room rest)

end

def shown (room : Nat) (datum : Datum) : Except Unshown String :=
  match datum.unshown? room with
  | some obstacle => .error obstacle
  | none => .ok datum.literal

def shape : Datum → String
  | .null => "NoneType"
  | .bool _ => "bool"
  | .int _ => "int"
  | .float _ => "float"
  | .text _ => "str"
  | .list _ => "list"
  | .record _ => "dict"

def field? (name : String) : Datum → Option Datum
  | .record fields => fields.lookup name
  | _ => none

end Datum
end AsmKit
