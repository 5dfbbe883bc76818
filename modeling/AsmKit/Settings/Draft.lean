import AsmKit.Datum
import AsmKit.Pattern.Match
import AsmKit.Settings.Fault

/-!
Settings as they are given, before their rules are read. A setting left out has its default. Reading
the rules of a draft gives settings that can be used, or the first fault in a fixed order: the table
of operand rules, the label rule, its groups, the separator, the comment rule, the operand rules.
-/

namespace AsmKit

/-- Settings in use: the pattern of a token, the pattern that splits a label off a line (none where
labels are off), the pattern of a comment and the pattern of each operand type. -/
structure Settings where
  separator : Pattern
  label : Option Pattern
  comment : Pattern
  operandRules : List (String × Pattern)
  deriving DecidableEq, Repr

namespace Settings

/-- A rule as it is given: a pattern, or a datum that should be the text of one. -/
inductive Rule where
  | pattern (pattern : Pattern)
  | datum (datum : Datum)
  deriving Repr, Inhabited

/-- A setting as it is given: a rule, or a table of rules. -/
inductive Given where
  | rule (rule : Rule)
  | table (entries : List (String × Rule))
  deriving Repr, Inhabited

/-- The setting that a datum gives; the fields of a record make a table. -/
def Given.ofDatum : Datum → Given
  | .record fields => .table (fields.map fun field => (field.1, .datum field.2))
  | datum => .rule (.datum datum)

def Given.absent : Given := .rule (.datum .null)

def standardSeparator : String := "[^,\\s]+"

def standardLabel : String := "^([A-Za-z_][\\w.]*):\\s*(.*)$"

def standardComment : String := "\\s*[;#].*$"

def standardOperandRules : List (String × String) :=
  [("imm", "^-?(?:0[xX][0-9A-Fa-f]+|\\d+)$"), ("reg", "^[A-Za-z_]\\w*$"),
    ("label", "^[A-Za-z_][\\w.]*$")]

/-- Reads one rule; `name` is its name in faults. -/
def readRule [Text.CharacterNames] (name : String) : Rule → Except Fault Pattern
  | .pattern pattern => .ok pattern
  | .datum (.text source) =>
    match Pattern.compile source with
    | .ok pattern => .ok pattern
    | .error fault => .error (.badPattern name source fault)
  | .datum _ => .error (.ruleNotText name)

/-- Reads the rule of a setting that is not a table, with the default where it is left out. -/
def readGiven [Text.CharacterNames] (name default : String) : Given → Except Fault Pattern
  | .rule (.datum .null) => readRule name (.datum (.text default))
  | .rule rule => readRule name rule
  | .table _ => .error (.ruleNotText name)

def operandRuleName (operandType : String) : String := "syntax." ++ operandType

def readTable [Text.CharacterNames] :
    List (String × Rule) → Except Fault (List (String × Pattern))
  | [] => .ok []
  | (operandType, rule) :: rest => do
    let pattern ← readRule (operandRuleName operandType) rule
    let patterns ← readTable rest
    return (operandType, pattern) :: patterns

/-- Reads the label rule: none where it is false, the default where it is true or left out. A rule
needs two groups, for the name and for the remainder of the line. -/
def readLabel [Text.CharacterNames] (given : Given) : Except Fault (Option Pattern) :=
  match given with
  | .rule (.datum (.bool false)) => .ok none
  | _ => do
    let given := match given with
      | .rule (.datum (.bool true)) => Given.absent
      | given => given
    let pattern ← readGiven "label" standardLabel given
    if pattern.groups < 2 then throw .fewLabelGroups
    return some pattern

/-- The entries of the table of operand rules, if it is one; the default where it is left out. -/
def tableEntries : Given → Except Fault (List (String × Rule))
  | .rule (.datum .null) =>
    .ok (standardOperandRules.map fun entry => (entry.1, .datum (.text entry.2)))
  | .rule _ => .error .rulesNotTable
  | .table entries => .ok entries

/-- Settings whose rules are still to be read. -/
structure Draft where
  separator : Given := .absent
  label : Given := .absent
  comment : Given := .absent
  operandRules : Given := .absent
  deriving Repr, Inhabited

def Draft.resolve [Text.CharacterNames] (draft : Draft) : Except Fault Settings := do
  let entries ← tableEntries draft.operandRules
  let label ← readLabel draft.label
  let separator ← readGiven "separator" standardSeparator draft.separator
  let comment ← readGiven "comment" standardComment draft.comment
  let operandRules ← readTable entries
  return { separator, label, comment, operandRules }

/-- Reads the rule of one operand type, which must be in the table. Here a table that is left out is
empty. -/
def Draft.operandRule [Text.CharacterNames] (draft : Draft) (operandType : String) :
    Except Fault Pattern :=
  match draft.operandRules with
  | .rule (.datum .null) => .error (.noRule operandType)
  | .rule (.datum datum) => .error (.rulesWithoutLookup datum.shape)
  | .rule (.pattern _) => .error (.rulesWithoutLookup "re.Pattern")
  | .table entries =>
    match entries.lookup operandType with
    | none | some (.datum .null) => .error (.noRule operandType)
    | some rule => readRule (operandRuleName operandType) rule

def Draft.hasLabels (draft : Draft) : Bool :=
  match draft.label with
  | .rule (.datum (.bool false)) => false
  | _ => true

def operandRule (settings : Settings) (operandType : String) : Except Fault Pattern :=
  match settings.operandRules.lookup operandType with
  | some pattern => .ok pattern
  | none => .error (.noRule operandType)

/-- Settings in use, as a draft whose rules are all read already. -/
def toDraft (settings : Settings) : Draft where
  separator := .rule (.pattern settings.separator)
  label := match settings.label with
    | some pattern => .rule (.pattern pattern)
    | none => .rule (.datum (.bool false))
  comment := .rule (.pattern settings.comment)
  operandRules := .table (settings.operandRules.map fun entry => (entry.1, .pattern entry.2))

end Settings
end AsmKit
