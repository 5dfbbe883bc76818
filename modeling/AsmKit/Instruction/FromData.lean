import AsmKit.Instruction.Basic
import AsmKit.Log
import AsmKit.Text.Blank

/-! Forms from data of any shape, checked in this order: the mnemonic, the operand types, the
executor. -/

namespace AsmKit

inductive Offer (α : Type) where
  | nothing
  | executor (executor : α)
  | notCallable
  deriving DecidableEq, Repr

inductive FormFault where
  | badMnemonic
  | typesNotIterable (shape : String)
  | badOperandType (mnemonic literal : String)
  | unshown (obstacle : Datum.Unshown)
  | executorNotCallable (mnemonic : String)
  deriving DecidableEq, Repr

namespace FormFault

def message : FormFault → String
  | .badMnemonic => "Instruction mnemonic must be a non-empty string."
  | .typesNotIterable shape => "'" ++ shape ++ "' object is not iterable"
  | .badOperandType mnemonic literal =>
    "Instruction " ++ mnemonic ++ " has an invalid operand type: " ++ literal
  | .unshown obstacle => obstacle.message
  | .executorNotCallable mnemonic => "Executor for " ++ mnemonic ++ " must be callable."

def kind : FormFault → FaultKind
  | .typesNotIterable _ => .badType
  | .unshown obstacle => obstacle.kind
  | _ => .configuration

end FormFault

/-- The data in a datum that has several: the items of a list, the characters of a text, the names
of a record. -/
def Datum.members : Datum → Except FormFault (List Datum)
  | .list items => .ok items
  | .text s => .ok (s.toList.map fun c => .text c.toString)
  | .record fields => .ok (fields.map fun field => .text field.1)
  | datum => .error (.typesNotIterable datum.shape)

def badOperandType (room : Nat) (mnemonic : String) (datum : Datum) : FormFault :=
  match datum.shown room with
  | .ok literal => .badOperandType mnemonic literal
  | .error obstacle => .unshown obstacle

/-- The operand types in a list of data: texts that are not empty. -/
def operandTypesOf (room : Nat) (mnemonic : String) : List Datum → Except FormFault (List String)
  | [] => .ok []
  | datum :: rest =>
    match datum with
    | .text operandType =>
      if operandType == "" then .error (badOperandType room mnemonic datum)
      else (operandTypesOf room mnemonic rest).map (operandType :: ·)
    | _ => .error (badOperandType room mnemonic datum)

namespace InstructionForm

variable {α : Type}

/-- The form with the given parts; the mnemonic loses the blanks at its ends. -/
def ofData (room : Nat) (mnemonic types : Datum) (offer : Offer α) :
    Except FormFault (InstructionForm α) :=
  match mnemonic with
  | .text name =>
    let stripped := Text.trim name.toList
    if stripped.isEmpty then .error .badMnemonic
    else do
      let operandTypes ← operandTypesOf room name (← types.members)
      match offer with
      | .nothing => return { mnemonic := String.ofList stripped, operandTypes }
      | .executor executor =>
        return { mnemonic := String.ofList stripped, operandTypes, executor := some executor }
      | .notCallable => throw (.executorNotCallable name)
  | _ => .error .badMnemonic

def ofDataEvents (mnemonic : Datum) (form : Except FormFault (InstructionForm α)) :
    List Log.Event :=
  match mnemonic, form with
  | .text name, .ok form =>
    if form.executor.isNone then [.formWithoutExecutor name] else []
  | _, _ => []

end InstructionForm
end AsmKit
