import AsmKit.FaultKind
import AsmKit.Number.Integer

/-! What can be wrong with a JSON text, and where. -/

namespace AsmKit.Json

inductive Cause where
  | expectingValue
  | expectingName
  | expectingColon
  | expectingComma
  | extraData
  | unterminatedString
  | controlCharacter
  | badEscape
  | badUnicodeEscape
  | byteOrderMark
  deriving DecidableEq, Repr

def Cause.message : Cause → String
  | .expectingValue => "Expecting value"
  | .expectingName => "Expecting property name enclosed in double quotes"
  | .expectingColon => "Expecting ':' delimiter"
  | .expectingComma => "Expecting ',' delimiter"
  | .extraData => "Extra data"
  | .unterminatedString => "Unterminated string starting at"
  | .controlCharacter => "Invalid control character at"
  | .badEscape => "Invalid \\escape"
  | .badUnicodeEscape => "Invalid \\uXXXX escape"
  | .byteOrderMark => "Unexpected UTF-8 BOM (decode using utf-8-sig)"

/-- Why no value is read from a text. It is malformed behind so many characters, or it goes beyond
what is read: numbers of too many digits, values nested too deep, and escapes for one half of a
pair, which stands for no character. -/
inductive Fault where
  | malformed (cause : Cause) (position : Nat)
  | longNumber (digits : Nat)
  | deepList
  | deepRecord
  | halfCharacter
  deriving DecidableEq, Repr

/-- The line of a position and its column, both counted from one; lines end at a line feed. -/
def lineAndColumn : Nat → List Char → Nat × Nat
  | position, cs =>
    let before := cs.take position
    (before.count '\n' + 1, (before.reverse.takeWhile (· != '\n')).length + 1)

namespace Fault

def message (text : List Char) : Fault → String
  | .malformed cause position =>
    let (line, column) := lineAndColumn position text
    cause.message ++ ": line " ++ toString line ++ " column " ++ toString column ++
      " (char " ++ toString position ++ ")"
  | .longNumber digits => Integer.tooLongMessage digits
  | .deepList =>
    "maximum recursion depth exceeded while decoding a JSON array from a unicode string"
  | .deepRecord =>
    "maximum recursion depth exceeded while decoding a JSON object from a unicode string"
  | .halfCharacter => "half of a surrogate pair"

def kind : Fault → FaultKind
  | .malformed _ _ | .longNumber _ => .badValue
  | .deepList | .deepRecord => .tooDeep
  | .halfCharacter => .unsupported

end Fault
end AsmKit.Json
