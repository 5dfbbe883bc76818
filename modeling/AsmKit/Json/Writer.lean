import AsmKit.Datum

/-! Writing a datum as JSON, without spaces and on one line: characters that some readers take for
line ends are escaped. -/

namespace AsmKit.Json

/-- Whether a code point is a control or separates lines or paragraphs. -/
def isBreaking (n : Nat) : Bool := n < 32 || (127 ≤ n && n ≤ 159) || n == 0x2028 || n == 0x2029

def writeChar (c : Char) : String :=
  if c == '"' then "\\\""
  else if c == '\\' then "\\\\"
  else if c == '\n' then "\\n"
  else if c == '\r' then "\\r"
  else if c == '\t' then "\\t"
  else if isBreaking c.toNat then
    String.ofList ('\\' :: 'u' :: Text.hexDigits 4 c.toNat)
  else c.toString

def writeString (s : String) : String :=
  "\"" ++ s.foldl (fun done c => done ++ writeChar c) "" ++ "\""

/-- A number with a fraction or an exponent; the undefined and the infinite ones are words. -/
def writeFloat : Binary64 → String
  | .undefined => "NaN"
  | .infinite negative => if negative then "-Infinity" else "Infinity"
  | x => x.text

mutual

def write : Datum → String
  | .null => "null"
  | .bool b => if b then "true" else "false"
  | .int n => toString n
  | .float x => writeFloat x
  | .text s => writeString s
  | .list items => "[" ++ writeItems items ++ "]"
  | .record fields => "\x7b" ++ writeFields fields ++ "\x7d"

def writeItems : List Datum → String
  | [] => ""
  | [item] => write item
  | item :: rest => write item ++ "," ++ writeItems rest

def writeFields : List (String × Datum) → String
  | [] => ""
  | [(name, value)] => writeString name ++ ":" ++ write value
  | (name, value) :: rest =>
    writeString name ++ ":" ++ write value ++ "," ++ writeFields rest

end

end AsmKit.Json
