import AsmKit.Pattern.Fault
import AsmKit.Pattern.Modes
import AsmKit.Pattern.Node
import AsmKit.Text.CharacterName

/-!
Reading the text of a pattern symbol by symbol. A backslash and the character behind it are one
symbol; a backslash at the end is a fault as soon as it comes next.
-/

namespace AsmKit.Pattern

/-- What has been read of a pattern: the rest of its text, the number of characters in front of it,
the modes set for the whole pattern, the groups (those still open have no width yet), their names,
the number of groups in front of the look-behind around, and the groups that conditions ask for by
number, with the place of the first such condition. The characters that can be given by name stay.
-/
structure Progress where
  characters : Text.CharacterNames
  rest : List Char
  position : Nat := 0
  modes : Modes
  groups : List (Option Width) := []
  names : List (String × Nat) := []
  lookBehindFrom : Option Nat := none
  asked : List (Nat × Nat) := []

/-- Reading that may fail. -/
abbrev ReadM := StateT Progress (Except Fault)

/-- A symbol of a pattern: a character, or one behind a backslash. -/
inductive Symbol where
  | plain (c : Char)
  | escaped (c : Char)
  deriving DecidableEq, Repr

def Symbol.text : Symbol → List Char
  | .plain c => [c]
  | .escaped c => ['\\', c]

def Symbol.toText (symbol : Symbol) : String := String.ofList symbol.text

def symbolAt? : List Char → Option Symbol
  | [] => none
  | '\\' :: c :: _ => some (.escaped c)
  | c :: _ => some (.plain c)

def complain {α : Type} (complaint : Complaint) (position : Nat) : ReadM α :=
  throw (.malformed complaint (some position))

/-- The number of characters in front of the next symbol. -/
def here : ReadM Nat := return (← get).position

def peek : ReadM (Option Symbol) := return symbolAt? (← get).rest

/-- Refuses a backslash that ends the pattern. -/
def checkEnd : ReadM Unit := do
  let p ← get
  if p.rest == ['\\'] then complain .escapeAtEnd p.position

def take : ReadM (Option Symbol) := do
  let p ← get
  match symbolAt? p.rest with
  | none => return none
  | some symbol =>
    let size := symbol.text.length
    set { p with rest := p.rest.drop size, position := p.position + size }
    checkEnd
    return some symbol

def accept (c : Char) : ReadM Bool := do
  if (← peek) == some (.plain c) then
    let _ ← take
    return true
  else return false

/-- Takes up to `n` characters that pass a test. -/
def takeUpTo (test : Char → Bool) : Nat → ReadM (List Char)
  | 0 => return []
  | n + 1 => do
    match ← peek with
    | some (.plain c) =>
      if test c then
        let _ ← take
        return c :: (← takeUpTo test n)
      else return []
    | _ => return []

def takeWhile (test : Char → Bool) : ReadM (List Char) := do
  takeUpTo test (← get).rest.length

/-- Takes the symbols up to the character `closing` and that too, at most `n` of them. The answer is
their text, and whether `closing` was there. -/
def takeUntil (closing : Char) : Nat → ReadM (List Char × Bool)
  | 0 => return ([], false)
  | n + 1 => do
    match ← take with
    | none => return ([], false)
    | some symbol =>
      if symbol == .plain closing then return ([], true)
      else
        let (text, closed) ← takeUntil closing n
        return (symbol.text ++ text, closed)

/-- Takes the symbols up to the character `closing` and that too, however many there are. -/
def takeThrough (closing : Char) : ReadM (List Char × Bool) := do
  takeUntil closing ((← get).rest.length + 1)

/-- Takes a name that ends at the character `closing`; `what` is the word for it. -/
def takeName (closing : Char) (what : String) : ReadM String := do
  let (text, closed) ← takeThrough closing
  let position ← here
  match text, closed with
  | [], true => complain (.missing what) (position - 1)
  | [], false => complain (.missing what) position
  | _, true => return String.ofList text
  | _, false => complain (.unterminatedName closing) (position - text.length)

end AsmKit.Pattern
