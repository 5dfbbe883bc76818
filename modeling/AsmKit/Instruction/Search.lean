import AsmKit.Instruction.Basic
import AsmKit.Log

/-!
Choosing among forms. Those with the mnemonic of a line are tried in order; the first that accepts
the tokens wins, and if none does, the problems of all of them are the answer.
-/

namespace AsmKit

inductive Choice (α : Type) where
  | found (instruction : Instruction α)
  | none
  | failed (fault : Settings.Fault)
  deriving DecidableEq, Repr

/-- The search for the form of a line: the forms that refused it, in order, each with the problem it
found, and how the search ended. -/
structure FormSearch (α : Type) where
  refusals : List (InstructionForm α × Problem)
  choice : Choice α
  deriving DecidableEq, Repr

namespace FormSearch

variable {α : Type}

def run (rules : RuleLookup) (mnemonic : String) (tokens : List String) (lineNumber : Int)
    (text : String) : List (InstructionForm α) → FormSearch α
  | [] => ⟨[], .none⟩
  | form :: rest =>
    if form.mnemonic != mnemonic then run rules mnemonic tokens lineNumber text rest
    else match form.read rules tokens lineNumber text with
      | .error fault => ⟨[], .failed fault⟩
      | .ok (.accepted instruction) => ⟨[], .found instruction⟩
      | .ok (.refused problem) =>
        let later := run rules mnemonic tokens lineNumber text rest
        { later with refusals := (form, problem) :: later.refusals }

def problems (mnemonic : String) (search : FormSearch α) : List Problem :=
  match search.refusals with
  | [] => [.noSuchMnemonic mnemonic]
  | refusals => refusals.map (·.2)

def events (lineNumber : Int) (search : FormSearch α) : List Log.Event :=
  search.refusals.map fun refusal =>
    .formRefused lineNumber refusal.1.signature refusal.2.message

/-- The instruction that was found, or the problems that kept all forms from fitting. -/
def answer (mnemonic : String) (search : FormSearch α) :
    Except Settings.Fault (Except (List Problem) (Instruction α)) :=
  match search.choice with
  | .found instruction => .ok (.ok instruction)
  | .none => .ok (.error (search.problems mnemonic))
  | .failed fault => .error fault

end FormSearch
end AsmKit
