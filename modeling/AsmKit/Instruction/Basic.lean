import AsmKit.Instruction.Problem
import AsmKit.Settings.Draft

/-!
Instructions and their forms. A form has a mnemonic, the types of its operands, and an executor of
some type `α`, which this module never looks into. Tokens fit a form when there is one for each type
and the rule of the type matches somewhere in it; the operand is then what the first group of the
rule took, or the whole match where the rule has no group.
-/

namespace AsmKit

/-- A line of a program that has been read: its number and text, the mnemonic, the operands and the
executor, if there is one. An operand is absent where the group that should take it took nothing. -/
structure Instruction (α : Type) where
  lineNumber : Int
  text : String
  mnemonic : String
  operands : List (Option String)
  executor : Option α
  deriving DecidableEq, Repr

/-- Whether two instructions are the same up to their executors. -/
def Instruction.agrees {α β : Type} (a : Instruction α) (b : Instruction β) : Bool :=
  a.lineNumber == b.lineNumber && a.text == b.text && a.mnemonic == b.mnemonic &&
    a.operands == b.operands

/-- What instructions with one mnemonic look like. -/
structure InstructionForm (α : Type) where
  mnemonic : String
  operandTypes : List String
  executor : Option α := none
  deriving DecidableEq, Repr

abbrev RuleLookup := String → Except Settings.Fault Pattern

/-- The operand that a rule reads from a token, if it matches: none inside means an absent one. -/
def decodeOperand (rule : Pattern) (token : String) : Option (Option String) :=
  (rule.find? token.toList).map fun found =>
    if rule.groups == 0 then some (String.ofList found.text)
    else (found.group? 1).map String.ofList

inductive Verdict (β : Type) where
  | accepted (value : β)
  | refused (problem : Problem)
  deriving DecidableEq, Repr

namespace InstructionForm

variable {α : Type}

def arity (form : InstructionForm α) : Nat := form.operandTypes.length

def signature (form : InstructionForm α) : String :=
  match form.operandTypes with
  | [] => form.mnemonic
  | types => form.mnemonic ++ " " ++ ", ".intercalate types

/-- Reads operands from tokens and their types, up to the first obstacle. -/
def readOperands (rules : RuleLookup) (mnemonic : String) :
    List (String × String) → Except Settings.Fault (Verdict (List (Option String)))
  | [] => .ok (.accepted [])
  | (token, operandType) :: rest =>
    match rules operandType with
    | .error fault => .error fault
    | .ok rule =>
      match decodeOperand rule token with
      | none => .ok (.refused (.badOperand mnemonic token operandType))
      | some operand =>
        match readOperands rules mnemonic rest with
        | .error fault => .error fault
        | .ok (.refused problem) => .ok (.refused problem)
        | .ok (.accepted operands) => .ok (.accepted (operand :: operands))

def read (form : InstructionForm α) (rules : RuleLookup) (tokens : List String)
    (lineNumber : Int) (text : String) : Except Settings.Fault (Verdict (Instruction α)) :=
  if tokens.length != form.arity then
    .ok (.refused (.wrongCount form.mnemonic form.arity tokens.length))
  else
    match readOperands rules form.mnemonic (tokens.zip form.operandTypes) with
    | .error fault => .error fault
    | .ok (.refused problem) => .ok (.refused problem)
    | .ok (.accepted operands) =>
      .ok (.accepted
        { lineNumber, text, mnemonic := form.mnemonic, operands, executor := form.executor })

end InstructionForm
end AsmKit
