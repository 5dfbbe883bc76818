import AsmKit.FaultKind
import AsmKit.Pattern.Fault

/-! What can be wrong with settings. -/

namespace AsmKit.Settings

/-- Why settings, or one rule of them, cannot be used. -/
inductive Fault where
  | notSettings
  | unknownNames (names : List String)
  | ruleNotText (rule : String)
  | badPattern (rule source : String) (fault : Pattern.Fault)
  | fewLabelGroups
  | rulesNotTable
  | rulesWithoutLookup (shape : String)
  | noRule (operandType : String)
  deriving DecidableEq, Repr

namespace Fault

def message : Fault → String
  | .notSettings => "Settings must be a Settings instance or a mapping."
  | .unknownNames names => "Unknown settings: " ++ ", ".intercalate names
  | .ruleNotText rule => "Rule '" ++ rule ++ "' must be a regular expression string."
  | .badPattern rule source fault =>
    match fault with
    | .malformed _ _ => "Invalid pattern for '" ++ rule ++ "': " ++ fault.message source
    | .modeClash | .repetitionTooLarge | .numberTooLong _ => fault.message source
  | .fewLabelGroups => "label pattern needs two groups: name and remainder."
  | .rulesNotTable => "syntax must be a mapping of operand type to pattern."
  | .rulesWithoutLookup shape => "'" ++ shape ++ "' object has no attribute 'get'"
  | .noRule operandType => "No syntax rule for operand type '" ++ operandType ++ "'."

/-- The kind of a fault. A pattern that asks for both classes of characters, or for too many
repetitions, or whose number of repetitions has too many digits, is not reported as a fault of the
configuration. -/
def kind : Fault → FaultKind
  | .badPattern _ _ .modeClash | .badPattern _ _ (.numberTooLong _) => .badValue
  | .badPattern _ _ .repetitionTooLarge => .tooLarge
  | .rulesWithoutLookup _ => .missingMember
  | _ => .configuration

end Fault
end AsmKit.Settings
