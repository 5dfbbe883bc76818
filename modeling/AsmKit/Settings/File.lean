import AsmKit.Files.Tree
import AsmKit.Json.Reader
import AsmKit.Log
import AsmKit.Settings.Overrides
import AsmKit.Table

/-!
Settings in a file: a JSON record whose fields are the settings by name. Rules are texts there, and
the label rule may also be true or false. The shape of all fields is checked before any rule is
read.
-/

namespace AsmKit.Settings

inductive FileFault where
  | zeroInPath
  | noHome
  | missing (path : Path)
  | unreadable (path : Path) (fault : FileTree.TextFault)
  | malformed (path : Path) (text : List Char) (fault : Json.Fault)
  | notRecord
  | unknownNames (names : List String)
  | notText (name : String)
  | labelNotRule
  | rulesNotRecord
  | rejected (fault : Fault)
  deriving DecidableEq, Repr

namespace FileFault

def message : FileFault → String
  | .zeroInPath => "embedded null byte"
  | .noHome => "Could not determine home directory."
  | .missing path => "Settings file not found: " ++ path.text
  | .unreadable path fault =>
    "Failed to read settings " ++ path.text ++ ": " ++ fault.message path
  | .malformed path text fault =>
    match fault with
    | .malformed _ _ => "Invalid JSON in " ++ path.text ++ ": " ++ fault.message text
    | _ => fault.message text
  | .notRecord => "Settings file must contain a JSON object."
  | .unknownNames names => (Fault.unknownNames names).message
  | .notText name => name ++ " must be a string."
  | .labelNotRule => "label must be a string or a boolean."
  | .rulesNotRecord => "syntax must be an object."
  | .rejected fault => fault.message

/-- The kind of a fault. A text that goes beyond what is read is not reported as a fault of the
configuration. -/
def kind : FileFault → FaultKind
  | .zeroInPath => .badValue
  | .noHome => .environment
  | .malformed _ _ (.malformed _ _) => .configuration
  | .malformed _ _ fault => fault.kind
  | .rejected fault => fault.kind
  | _ => .configuration

end FileFault

def checkNames (fields : List (String × Datum)) : Except FileFault Unit :=
  match unknownNames (fields.map (·.1)) with
  | [] => .ok ()
  | unknown => .error (.unknownNames unknown)

def isRuleText : Option Datum → Bool
  | none | some .null | some (.text _) => true
  | _ => false

def checkRule (name : String) (fields : List (String × Datum)) : Except FileFault Unit :=
  if isRuleText (fields.lookup name) then .ok () else .error (.notText name)

/-- Refuses the label field if it neither stands for a rule nor is true or false. -/
def checkLabel (fields : List (String × Datum)) : Except FileFault Unit :=
  match fields.lookup "label" with
  | some (.bool _) => .ok ()
  | label => if isRuleText label then .ok () else .error .labelNotRule

/-- Refuses the first entry of the table of operand rules that is no text. -/
def checkRules : List (String × Datum) → Except FileFault Unit
  | [] => .ok ()
  | (_, .text _) :: rest => checkRules rest
  | (name, _) :: _ => .error (.notText (operandRuleName name))

def checkTable (fields : List (String × Datum)) : Except FileFault Unit :=
  match fields.lookup "syntax" with
  | none | some .null => .ok ()
  | some (.record rules) => checkRules rules
  | _ => .error .rulesNotRecord

/-- The draft in a JSON value, if its fields have the right shapes. -/
def draftOf : Datum → Except FileFault Draft
  | .record fields => do
    checkNames fields
    checkRule "separator" fields
    checkRule "comment" fields
    checkLabel fields
    checkTable fields
    return Draft.ofFields (Table.mapValues Given.ofDatum fields)
  | _ => .error .notRecord

/-- Why a path that starts with a home directory leads nowhere, if it does not. -/
def homeFault? (homes : Path.Homes) (path : Path) : Option FileFault :=
  match path.home? with
  | none => none
  | some first =>
    if first.toList.contains '\x00' then some .zeroInPath
    else if (homes.lookup first).isNone then some .noHome
    else none

/-- The text of the settings file at a path, which may start with a home directory. -/
def textAt (files : FileTree) (path : Path) (homes : Path.Homes := []) :
    Except FileFault (List Char) :=
  match homeFault? homes path with
  | some fault => .error fault
  | none =>
    let located := path.locate homes
    match files.textAt located with
    | .ok text => .ok text
    | .error .zeroInPath => .error .zeroInPath
    | .error (.path .missing) => .error (.missing located)
    | .error fault => .error (.unreadable located fault)

/-- What is read of the text of a file where there is room for so many levels. -/
def readLimits (room : Nat) : Json.Limits := ⟨Integer.digitLimit, room⟩

def ofFileText [Text.CharacterNames] (room : Nat) (path : Path) (text : List Char) :
    Except FileFault Settings :=
  match Json.read (readLimits room) text with
  | .error fault => .error (.malformed path text fault)
  | .ok value =>
    match draftOf value with
    | .error fault => .error fault
    | .ok draft =>
      match draft.resolve with
      | .error fault => .error (.rejected fault)
      | .ok settings => .ok settings

def load [Text.CharacterNames] (room : Nat) (files : FileTree) (path : String)
    (homes : Path.Homes := []) : Except FileFault Settings :=
  match textAt files (.ofText path) homes with
  | .error fault => .error fault
  | .ok text => ofFileText room ((Path.ofText path).locate homes) text

def loadEvents (path : String) (outcome : Except FileFault Settings)
    (homes : Path.Homes := []) : List Log.Event :=
  match outcome with
  | .ok _ => [.settingsLoaded ((Path.ofText path).locate homes).text]
  | .error _ => []

end AsmKit.Settings
