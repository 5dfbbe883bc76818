import AsmKit.Number.Integer
import AsmKit.Text.Quoted

/-! What can be wrong with the text of a pattern, and where. -/

namespace AsmKit.Pattern

/-- What a pattern is blamed for. Texts are the parts of the pattern that the wording shows. -/
inductive Complaint where
  | escapeAtEnd
  | missing (what : String)
  | unterminatedName (closing : Char)
  | badNameCharacter (name : String)
  | unknownName (name : String)
  | reusedName (name : String) (index first : Nat)
  | incompleteEscape (escape : String)
  | badEscape (escape : String)
  | unknownCharacterName (name : String)
  | octalTooLarge (escape : String)
  | openGroup
  | groupInsideLookBehind
  | noSuchGroup (index : Nat)
  | badGroupNumber
  | unterminatedSet
  | badRange (low high : String)
  | leastAboveMost
  | nothingToRepeat
  | repeatedRepeat
  | unexpectedEnd
  | unknownExtension (text : String)
  | unterminatedGroup
  | unterminatedComment
  | extraBranch
  | lateModes
  | unbalancedParenthesis
  | localeMode
  | clashingModes
  | unknownMode
  | globalModeOn
  | globalModeOff
  | classModeOff
  | modeOnAndOff
  | wideLookBehind
  | longLookBehind
  | repeatForbidden (operator : String)
  deriving DecidableEq, Repr

def Complaint.message : Complaint → String
  | .escapeAtEnd => "bad escape (end of pattern)"
  | .missing what => "missing " ++ what
  | .unterminatedName closing => "missing " ++ closing.toString ++ ", unterminated name"
  | .badNameCharacter name => "bad character in group name " ++ Text.quoted name
  | .unknownName name => "unknown group name " ++ Text.quoted name
  | .reusedName name index first =>
    "redefinition of group name " ++ Text.quoted name ++ " as group " ++ toString index ++
      "; was group " ++ toString first
  | .incompleteEscape escape => "incomplete escape " ++ escape
  | .badEscape escape => "bad escape " ++ escape
  | .unknownCharacterName name => "undefined character name " ++ Text.quoted name
  | .octalTooLarge escape => "octal escape value " ++ escape ++ " outside of range 0-0o377"
  | .openGroup => "cannot refer to an open group"
  | .groupInsideLookBehind =>
    "cannot refer to group defined in the same lookbehind subpattern"
  | .noSuchGroup index => "invalid group reference " ++ toString index
  | .badGroupNumber => "bad group number"
  | .unterminatedSet => "unterminated character set"
  | .badRange low high => "bad character range " ++ low ++ "-" ++ high
  | .leastAboveMost => "min repeat greater than max repeat"
  | .nothingToRepeat => "nothing to repeat"
  | .repeatedRepeat => "multiple repeat"
  | .unexpectedEnd => "unexpected end of pattern"
  | .unknownExtension text => "unknown extension " ++ text
  | .unterminatedGroup => "missing ), unterminated subpattern"
  | .unterminatedComment => "missing ), unterminated comment"
  | .extraBranch => "conditional backref with more than two branches"
  | .lateModes => "global flags not at the start of the expression"
  | .unbalancedParenthesis => "unbalanced parenthesis"
  | .localeMode => "bad inline flags: cannot use 'L' flag with a str pattern"
  | .clashingModes => "bad inline flags: flags 'a', 'u' and 'L' are incompatible"
  | .unknownMode => "unknown flag"
  | .globalModeOn => "bad inline flags: cannot turn on global flag"
  | .globalModeOff => "bad inline flags: cannot turn off global flag"
  | .classModeOff => "bad inline flags: cannot turn off flags 'a', 'u' and 'L'"
  | .modeOnAndOff => "bad inline flags: flag turned on and off"
  | .wideLookBehind => "look-behind requires fixed-width pattern"
  | .longLookBehind => "looks too much behind"
  | .repeatForbidden operator => "internal: unsupported template operator " ++ operator

/-- Why a text is not a pattern. Most complaints have a position, the number of characters in front
of the fault. Three causes are of another kind: both classes of characters asked for, and a number
of repetitions that is too large or has too many digits to be read. -/
inductive Fault where
  | malformed (complaint : Complaint) (position : Option Nat)
  | modeClash
  | repetitionTooLarge
  | numberTooLong (digits : Nat)
  deriving DecidableEq, Repr

/-- The place of a position in words. A text of several lines has its line and column too. -/
def placeMessage (source : List Char) (position : Nat) : String :=
  let before := source.take position
  let lineAndColumn :=
    if source.contains '\n' then
      " (line " ++ toString (before.count '\n' + 1) ++ ", column " ++
        toString ((before.reverse.takeWhile (· != '\n')).length + 1) ++ ")"
    else ""
  " at position " ++ toString position ++ lineAndColumn

def Fault.message (fault : Fault) (source : String) : String :=
  match fault with
  | .malformed complaint none => complaint.message
  | .malformed complaint (some position) =>
    complaint.message ++ placeMessage source.toList position
  | .modeClash => "ASCII and UNICODE flags are incompatible"
  | .repetitionTooLarge => "the repetition number is too large"
  | .numberTooLong digits => Integer.tooLongMessage digits

end AsmKit.Pattern
