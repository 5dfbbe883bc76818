import AsmKit.Instruction.Search
import AsmKit.Program.Basic
import AsmKit.Source.Lines

/-!
Reading a program line by line. A line may start with a label, which marks its slot; the tokens of
the rest are a mnemonic and operands. A line without tokens leaves its slot empty. Reading stops at
the first line that repeats a label or that no form accepts.
-/

namespace AsmKit

namespace Settings

def tokens (settings : Settings) (text : String) : List String :=
  (settings.separator.findAll text.toList).map String.ofList

/-- The label of a line, if it has one, and the rest of the line. -/
def cutLabel (settings : Settings) (text : String) : Option String × String :=
  match settings.label with
  | none => (none, text)
  | some pattern =>
    match pattern.findAtStart? text.toList with
    | none => (none, text)
    | some found =>
      ((found.group? 1).map String.ofList,
        String.ofList (Text.trim ((found.group? 2).getD [])))

end Settings

/-- What comes of a line: the program goes on, stops at a bad line, or fails for its settings. The
program is the one up to and with the line. -/
inductive LineOutcome (α : Type) where
  | next (program : Program α)
  | stop (program : Program α) (bad : BadLine)
  | fail (program : Program α) (fault : Settings.Fault)
  deriving DecidableEq, Repr

inductive Ending where
  | complete
  | stopped (bad : BadLine)
  | failed (fault : Settings.Fault)
  deriving DecidableEq, Repr

/-- A program as far as it was read, how the reading ended, and what it reported. -/
structure Report (α : Type) where
  program : Program α
  ending : Ending
  events : List Log.Event
  deriving DecidableEq, Repr

namespace Program

variable {α : Type}

/-- Adds the slot of a line whose label is placed already, from the rest of the line. -/
def readStatement (forms : List (InstructionForm α)) (settings : Settings) (line rest : String)
    (program : Program α) : LineOutcome α × List Log.Event :=
  let empty : LineOutcome α := .next { program with slots := program.slots ++ [none] }
  let lineNumber := program.lineCount
  match if rest == "" then [] else settings.tokens rest with
  | [] => (empty, [])
  | mnemonic :: tokens =>
    let search := FormSearch.run settings.operandRule mnemonic tokens lineNumber line forms
    let events := search.events lineNumber
    match search.answer mnemonic with
    | .error fault => (.fail program fault, events)
    | .ok (.ok instruction) =>
      (.next { program with slots := program.slots ++ [some instruction] }, events)
    | .ok (.error problems) =>
      let bad : BadLine := ⟨lineNumber, line, problems⟩
      (.stop program bad, events ++ [.lineRefused lineNumber bad.messages])

def readLine (forms : List (InstructionForm α)) (settings : Settings) (program : Program α)
    (line : String) : LineOutcome α × List Log.Event :=
  let program := { program with lineCount := program.lineCount + 1 }
  let lineNumber := program.lineCount
  let (label, rest) := settings.cutLabel line
  match label with
  | none => program.readStatement forms settings line rest
  | some name =>
    if (program.label? name).isSome then
      (.stop program ⟨lineNumber, line, [.repeatedLabel name]⟩, [.labelRepeated lineNumber name])
    else
      let location := program.slots.length + 1
      let (outcome, events) :=
        (program.setLabel name location).readStatement forms settings line rest
      (outcome, .labelPlaced lineNumber name location :: events)

def readLines (forms : List (InstructionForm α)) (settings : Settings) :
    Program α → List String → Report α
  | program, [] =>
    ⟨program, .complete,
      [.parsed program.lineCount program.instructionTotal program.labels.length]⟩
  | program, line :: rest =>
    match readLine forms settings program line with
    | (.next program, events) =>
      let report := readLines forms settings program rest
      { report with events := events ++ report.events }
    | (.stop program bad, events) => ⟨program, .stopped bad, events⟩
    | (.fail program fault, events) => ⟨program, .failed fault, events⟩

/-- Reads a program from a source of lines. The source goes on behind the last line read. -/
def read (forms : List (InstructionForm α)) (settings : Settings) (source : LineSource) :
    Except LineFault (Report α × LineSource) := do
  let (lines, _) ← source.drain
  let report := readLines forms settings {} lines
  return (report, source.skip report.program.lineCount)

end Program
end AsmKit
