import AsmKit.Instruction.Basic
import AsmKit.Table

/-! Programs that have been read: a slot for each line, and the labels with the slots they mark. -/

namespace AsmKit

structure Label where
  name : String
  location : Int
  deriving DecidableEq, Repr

/-- A program. Each line has a slot, empty where the line holds no instruction. The number of lines
exceeds that of the slots by one where the last line could not be read. Positions count from one. -/
structure Program (α : Type) where
  slots : List (Option (Instruction α)) := []
  labels : List (String × Label) := []
  lineCount : Nat := 0
  deriving DecidableEq, Repr

namespace Program

variable {α : Type}

def get? (program : Program α) (position : Int) : Option (Instruction α) :=
  if position < 1 then none else (program.slots[(position - 1).toNat]?).join

def instructionTotal (program : Program α) : Nat := program.slots.countP Option.isSome

def label? (program : Program α) (name : String) : Option Int :=
  (program.labels.lookup name).map Label.location

theorem label?_isSome (program : Program α) (name : String) :
    (program.label? name).isSome = (program.labels.lookup name).isSome := Option.isSome_map

theorem label?_eq_none_iff {program : Program α} {name : String} :
    program.label? name = none ↔ program.labels.lookup name = none := Option.map_eq_none_iff

def setLabel (program : Program α) (name : String) (location : Int) : Program α :=
  { program with labels := Table.put name ⟨name, location⟩ program.labels }

def dropLabel (program : Program α) (name : String) : Program α :=
  { program with labels := Table.erase name program.labels }

end Program

/-- Why a program could not be read to its end: the line and its problems. -/
structure BadLine where
  lineNumber : Nat
  text : String
  problems : List Problem
  deriving DecidableEq, Repr

namespace BadLine

def messages (bad : BadLine) : List String := bad.problems.map Problem.message

def message (bad : BadLine) : String :=
  "line " ++ toString bad.lineNumber ++ ": " ++ "; ".intercalate bad.messages

end BadLine
end AsmKit
