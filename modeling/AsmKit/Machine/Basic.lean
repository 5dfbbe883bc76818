import AsmKit.FaultKind
import AsmKit.Log
import AsmKit.Machine.Memory
import AsmKit.Number.Integer
import AsmKit.Program.Basic

/-!
A machine that steps through a program. The counter is the position of the line to go on with; a
step skips empty slots, moves the counter behind the instruction it finds and then calls the
executor, which may change the machine in any way, the counter included. A jump either moves the
counter into the program or leaves the machine as it is.
-/

namespace AsmKit

/-- A machine: the program, the memory, the counter, the instruction of the last step, what the
executors keep outside the machine, and what has been reported. -/
structure Machine (α σ : Type) where
  program : Program α
  memory : Memory := {}
  counter : Int := 1
  current : Option (Instruction α) := none
  host : σ
  journal : Array Log.Event := #[]

/-- Why a machine cannot go on. Faults of jumps carry the line and text of the current instruction,
or zero and an empty text. -/
inductive MachineFault where
  | badTarget (literal : String) (lineNumber : Int) (text : String)
  | targetOutside (position : Int) (last : Nat) (lineNumber : Int) (text : String)
  | targetUnread (target : String) (fault : Integer.Fault)
  | unshown (obstacle : Datum.Unshown)
  | noExecutor (mnemonic : String) (lineNumber : Int)
  | absentOperand (index : Nat)
  | raised (name message : String)
  deriving DecidableEq, Repr

namespace MachineFault

def message : MachineFault → String
  | .badTarget literal _ _ => "Invalid jump target: " ++ literal
  | .targetOutside position last _ _ =>
    "Jump target " ++ toString position ++ " outside program (0.." ++ toString last ++ ")"
  | .targetUnread target fault => fault.message .ten target
  | .unshown obstacle => obstacle.message
  | .noExecutor mnemonic lineNumber =>
    "Instruction '" ++ mnemonic ++ "' (line " ++ toString lineNumber ++ ") has no executor bound."
  | .absentOperand index =>
    "sequence item " ++ toString index ++ ": expected str instance, NoneType found"
  | .raised _ message => message

def kind : MachineFault → FaultKind
  | .badTarget _ _ _ | .targetOutside _ _ _ _ => .execution
  | .targetUnread _ _ => .badValue
  | .unshown obstacle => obstacle.kind
  | .noExecutor _ _ => .configuration
  | .absentOperand _ => .badType
  | .raised name _ => .raised name

end MachineFault

/-- The semantics of executors: each is called with its instruction and the machine, and hands back
a datum or a fault, and the machine as it leaves it. A fault does not undo what was done before it.
-/
abbrev Executors (α σ : Type) :=
  α → Instruction α → Machine α σ → Except MachineFault Datum × Machine α σ

/-- Whether a datum handed back by an executor lets the machine go on: all do but those that count
as false, and null does. -/
def Datum.goesOn : Datum → Bool
  | .null => true
  | datum => datum.isTrue

/-- A position that can be told from those of a program, by showing it and the last of them. -/
def Program.CanTell {α : Type} (program : Program α) (position : Int) : Prop :=
  Integer.IsShort position ∧ Integer.IsShort program.lineCount

instance {α : Type} (program : Program α) (position : Int) : Decidable (program.CanTell position) :=
  inferInstanceAs (Decidable (_ ∧ _))

namespace Machine

variable {α σ : Type}

def report (m : Machine α σ) (event : Log.Event) : Machine α σ :=
  { m with journal := m.journal.push event }

/-- The machine at the start of its program. The memory is kept unless it is to be cleared. -/
def reset (m : Machine α σ) (clearMemory : Bool := false) : Machine α σ :=
  { m with
    counter := 1
    current := none
    memory := if clearMemory then m.memory.reset else m.memory }

/-- The line and text of the current instruction, for faults. -/
def place (m : Machine α σ) : Int × String :=
  match m.current with
  | some instruction => (instruction.lineNumber, instruction.text)
  | none => (0, "")

/-- The position that a jump target stands for. A text is a label, or else a number where it is all
digits; a label that does not exist is a problem. All other data are bad targets, and are shown to
say so. -/
def target (m : Machine α σ) (room : Nat) : Datum → Except MachineFault (Except Problem Int)
  | .text name =>
    match m.program.label? name with
    | some position => .ok (.ok position)
    | none =>
      if name != "" && name.toList.all Text.isDigit then
        match Integer.read .ten name with
        | .ok position => .ok (.ok position)
        | .error fault => .error (.targetUnread name fault)
      else .ok (.error (.noSuchLabel name))
  | .int position => .ok (.ok position)
  | datum =>
    match datum.shown room with
    | .ok literal => .error (.badTarget literal m.place.1 m.place.2)
    | .error obstacle => .error (.unshown obstacle)

def targetText : Datum → String
  | .text name => name
  | datum => datum.literal

def outside (m : Machine α σ) (position : Int) : MachineFault :=
  if m.program.CanTell position then .targetOutside position m.program.lineCount m.place.1 m.place.2
  else .unshown .longNumber

/-- Moves the counter to a target inside the program, which also has a position zero in front. The
answer is the problem of an unknown label. Where there is room for so many levels, data nested
deeper cannot be shown. -/
def jump (m : Machine α σ) (room : Nat) (destination : Datum) :
    Except MachineFault (Option Problem) × Machine α σ :=
  match m.target room destination with
  | .error fault => (.error fault, m)
  | .ok (.error problem) => (.ok (some problem), m)
  | .ok (.ok position) =>
    if position < 0 ∨ (m.program.lineCount : Int) < position then (.error (m.outside position), m)
    else
      (.ok none, { m.report (.jumped (targetText destination) position) with counter := position })

/-- The position of the next instruction at or behind the counter. Without one it is the first
position behind the slots, or the counter where that is further. -/
def nextFilled (m : Machine α σ) : Int :=
  let start := (m.counter - 1).toNat
  match (m.program.slots.drop start).findIdx? Option.isSome with
  | some offset => start + offset + 1
  | none => max m.counter (m.program.slots.length + 1)

def upcoming (m : Machine α σ) : Option (Instruction α) :=
  m.program.get? m.nextFilled

/-- The operands, if none is absent, or else the index of the first that is. -/
def presentOperands : Nat → List (Option String) → Except Nat (List String)
  | _, [] => .ok []
  | index, none :: _ => .error index
  | index, some operand :: rest => (presentOperands (index + 1) rest).map (operand :: ·)

/-- Runs an instruction that the counter has moved behind already. -/
def execute (executors : Executors α σ) (m : Machine α σ) (instruction : Instruction α) :
    Except MachineFault Bool × Machine α σ :=
  match presentOperands 0 instruction.operands with
  | .error index => (.error (.absentOperand index), m)
  | .ok operands =>
    let m := m.report (.stepped instruction.lineNumber instruction.mnemonic operands)
    match instruction.executor with
    | none => (.error (.noExecutor instruction.mnemonic instruction.lineNumber), m)
    | some executor =>
      let (answer, m) := executors executor instruction m
      (answer.map Datum.goesOn, m)

/-- Runs the next instruction. The answer is whether the machine may go on; it is false where no
instruction is left, and then the counter moves behind the program. -/
def step (executors : Executors α σ) (m : Machine α σ) :
    Except MachineFault Bool × Machine α σ :=
  let position := m.nextFilled
  match m.program.get? position with
  | none => (.ok false, { m with counter := position })
  | some instruction =>
    execute executors { m with counter := position + 1, current := some instruction } instruction

/-- How a run ended: after a number of steps, at a fault, or not within the steps allowed. -/
inductive RunEnd where
  | finished (steps : Nat)
  | failed (fault : MachineFault)
  | unfinished
  deriving DecidableEq, Repr

/-- Steps, behind `done` of them, until no instruction is left or a step says to stop, at most
`limit` times. -/
def runFrom (executors : Executors α σ) : Nat → Nat → Machine α σ → RunEnd × Machine α σ
  | limit, done, m =>
    match m.upcoming, limit with
    | none, _ => (.finished done, m)
    | some _, 0 => (.unfinished, m)
    | some _, limit + 1 =>
      match m.step executors with
      | (.ok true, m) => runFrom executors limit (done + 1) m
      | (.ok false, m) => (.finished (done + 1), m)
      | (.error fault, m) => (.failed fault, m)

def run (executors : Executors α σ) (limit : Nat) (m : Machine α σ) : RunEnd × Machine α σ :=
  runFrom executors limit 0 m

end Machine
end AsmKit
