import AsmKit.Datum
import AsmKit.Json.Fault
import AsmKit.Table

/-!
Reading JSON. The reader takes `NaN`, `Infinity` and `-Infinity` for numbers, keeps integers exact,
and lets the last of several fields of one name win, at the place of the first. It stops at the
first fault and says where that is. Numbers of too many digits and values nested too deep are faults
where they start. Every call below reads a character or is followed by one that does, so twice the
length of the text bounds the depth of the calls.
-/

namespace AsmKit.Json

/-- The rest of a text and the number of characters in front of it. -/
structure Cursor where
  rest : List Char
  position : Nat
  deriving Repr

def Cursor.skip (cur : Cursor) (n : Nat) : Cursor := ⟨cur.rest.drop n, cur.position + n⟩

def Cursor.fault (cur : Cursor) (cause : Cause) : Fault := .malformed cause cur.position

def isSpace (c : Char) : Bool := c == ' ' || c == '\t' || c == '\n' || c == '\r'

def Cursor.skipSpaces (cur : Cursor) : Cursor :=
  cur.skip (cur.rest.takeWhile isSpace).length

def hexQuad? (a b c d : Char) : Option Nat := do
  let w ← Text.hexValue? a
  let x ← Text.hexValue? b
  let y ← Text.hexValue? c
  let z ← Text.hexValue? d
  return ((w * 16 + x) * 16 + y) * 16 + z

/-- Whether a number is the first half of a pair that stands for one character. -/
def isHighHalf (n : Nat) : Bool := 0xD800 ≤ n && n ≤ 0xDBFF

def isLowHalf (n : Nat) : Bool := 0xDC00 ≤ n && n ≤ 0xDFFF

def joinHalves (high low : Nat) : Char :=
  Char.ofNat (0x10000 + (high - 0xD800) * 0x400 + (low - 0xDC00))

def shortEscape? (c : Char) : Option Char :=
  if c == '"' || c == '\\' || c == '/' then some c
  else if c == 'b' then some '\x08'
  else if c == 'f' then some '\x0c'
  else if c == 'n' then some '\n'
  else if c == 'r' then some '\r'
  else if c == 't' then some '\t'
  else none

/-- Reads a string whose opening quote stands at `start`, from position `here` on, behind the
characters `done` in reverse order. A `\u` escape needs at least one character behind it, as the
closing quote is. -/
def readString (start : Nat) : List Char → Nat → List Char → Except Fault (String × Cursor)
  | [], _, _ => .error (.malformed .unterminatedString start)
  | '"' :: rest, here, done => .ok (String.ofList done.reverse, ⟨rest, here + 1⟩)
  | '\\' :: [], _, _ => .error (.malformed .unterminatedString start)
  | '\\' :: 'u' :: a :: b :: c :: d :: '\\' :: 'u' :: e :: f :: g :: h :: next :: rest, here, done =>
    match hexQuad? a b c d with
    | none => .error (.malformed .badUnicodeEscape (here + 1))
    | some n =>
      if isHighHalf n then
        match hexQuad? e f g h with
        | none => .error (.malformed .badUnicodeEscape (here + 7))
        | some m =>
          if isLowHalf m then readString start (next :: rest) (here + 12) (joinHalves n m :: done)
          else .error .halfCharacter
      else if isLowHalf n then .error .halfCharacter
      else readString start ('\\' :: 'u' :: e :: f :: g :: h :: next :: rest) (here + 6)
        (Char.ofNat n :: done)
  | '\\' :: 'u' :: a :: b :: c :: d :: next :: rest, here, done =>
    match hexQuad? a b c d with
    | none => .error (.malformed .badUnicodeEscape (here + 1))
    | some n =>
      if isHighHalf n || isLowHalf n then .error .halfCharacter
      else readString start (next :: rest) (here + 6) (Char.ofNat n :: done)
  | '\\' :: 'u' :: _, here, _ => .error (.malformed .badUnicodeEscape (here + 1))
  | '\\' :: c :: rest, here, done =>
    match shortEscape? c with
    | none => .error (.malformed .badEscape here)
    | some x => readString start rest (here + 2) (x :: done)
  | c :: rest, here, done =>
    if c.toNat < 32 then .error (.malformed .controlCharacter here)
    else readString start rest (here + 1) (c :: done)

def isNumberDigit (c : Char) : Bool := '0' ≤ c && c ≤ '9'

def digitsValue (cs : List Char) : Nat := cs.foldl (fun n c => n * 10 + (c.toNat - 48)) 0

/-- Whether a number has a minus sign, and what follows it. -/
def signPart : List Char → Bool × List Char
  | '-' :: rest => (true, rest)
  | rest => (false, rest)

/-- The whole part of a number: a zero alone, or digits that do not start with one. -/
def wholePart : List Char → Option (List Char)
  | '0' :: _ => some ['0']
  | cs =>
    let digits := cs.takeWhile isNumberDigit
    if digits.isEmpty then none else some digits

/-- The digits after a point, with no digits where no point with digits follows. -/
def fractionPart : List Char → List Char
  | '.' :: rest => rest.takeWhile isNumberDigit
  | _ => []

/-- The value of an exponent and the characters it takes, where one follows. -/
def exponentPart : List Char → Option (Int × Nat)
  | mark :: rest =>
    if mark == 'e' || mark == 'E' then
      let (negative, signed, digits) := match rest with
        | '-' :: more => (true, 1, more.takeWhile isNumberDigit)
        | '+' :: more => (false, 1, more.takeWhile isNumberDigit)
        | more => (false, 0, more.takeWhile isNumberDigit)
      if digits.isEmpty then none
      else
        let value : Int := digitsValue digits
        some (if negative then -value else value, 1 + signed + digits.length)
    else none
  | [] => none

/-- Reads a number at the cursor. Without a fraction and an exponent it is exact, and may have at
most so many digits. -/
def readNumber (digits : Nat) (cur : Cursor) : Except Fault (Datum × Cursor) :=
  let (negative, body) := signPart cur.rest
  match wholePart body with
  | none => .error (cur.fault .expectingValue)
  | some whole =>
    let signSize := if negative then 1 else 0
    let afterWhole := body.drop whole.length
    let fraction := fractionPart afterWhole
    let fractionSize := if fraction.isEmpty then 0 else fraction.length + 1
    let afterFraction := afterWhole.drop fractionSize
    let size := signSize + whole.length + fractionSize
    match fraction, exponentPart afterFraction with
    | [], none =>
      if digits < whole.length then .error (.longNumber whole.length)
      else
        let n : Int := digitsValue whole
        .ok (.int (if negative then -n else n), cur.skip size)
    | _, exponent =>
      let power := (exponent.map (·.1)).getD 0
      let exponentSize := (exponent.map (·.2)).getD 0
      let x := Binary64.ofDecimal negative (digitsValue (whole ++ fraction))
        (power - fraction.length)
      .ok (.float x, cur.skip (size + exponentSize))

def words : List (List Char × Datum) :=
  [("null".toList, .null), ("true".toList, .bool true), ("false".toList, .bool false),
    ("NaN".toList, .float .undefined), ("Infinity".toList, .float (.infinite false)),
    ("-Infinity".toList, .float (.infinite true))]

def wordAt? (cs : List Char) : Option (List Char × Datum) :=
  words.find? fun w => w.1.isPrefixOf cs

/-- What is read of a text: numbers of at most so many digits, and lists and records at most so many
levels deep. -/
structure Limits where
  digits : Nat
  depth : Nat

mutual

/-- Reads the value at the cursor, where there is room for `room` levels. -/
def readValue (digits : Nat) : Nat → Nat → Cursor → Except Fault (Datum × Cursor)
  | 0, _, cur => .error (cur.fault .expectingValue)
  | fuel + 1, room, cur =>
    match cur.rest with
    | '"' :: rest =>
      match readString cur.position rest (cur.position + 1) [] with
      | .ok (s, next) => .ok (.text s, next)
      | .error fault => .error fault
    | '[' :: _ =>
      match room with
      | 0 => .error .deepList
      | room + 1 =>
        let next := (cur.skip 1).skipSpaces
        match next.rest with
        | ']' :: _ => .ok (.list [], next.skip 1)
        | _ => readItems digits fuel room next []
    | '\x7b' :: _ =>
      match room with
      | 0 => .error .deepRecord
      | room + 1 =>
        let next := (cur.skip 1).skipSpaces
        match next.rest with
        | '\x7d' :: _ => .ok (.record [], next.skip 1)
        | _ => readFields digits fuel room next []
    | rest =>
      match wordAt? rest with
      | some (word, value) => .ok (value, cur.skip word.length)
      | none => readNumber digits cur

/-- Reads the items of a list from the cursor on, behind the items `done` in reverse order. -/
def readItems (digits : Nat) : Nat → Nat → Cursor → List Datum → Except Fault (Datum × Cursor)
  | 0, _, cur, _ => .error (cur.fault .expectingValue)
  | fuel + 1, room, cur, done =>
    match readValue digits fuel room cur with
    | .error fault => .error fault
    | .ok (value, next) =>
      let next := next.skipSpaces
      match next.rest with
      | ']' :: _ => .ok (.list (value :: done).reverse, next.skip 1)
      | ',' :: _ => readItems digits fuel room (next.skip 1).skipSpaces (value :: done)
      | _ => .error (next.fault .expectingComma)

/-- Reads the fields of a record from the cursor on, behind the fields `done`. -/
def readFields (digits : Nat) :
    Nat → Nat → Cursor → List (String × Datum) → Except Fault (Datum × Cursor)
  | 0, _, cur, _ => .error (cur.fault .expectingName)
  | fuel + 1, room, cur, done =>
    match cur.rest with
    | '"' :: rest =>
      match readString cur.position rest (cur.position + 1) [] with
      | .error fault => .error fault
      | .ok (name, next) =>
        let next := next.skipSpaces
        match next.rest with
        | ':' :: _ =>
          match readValue digits fuel room (next.skip 1).skipSpaces with
          | .error fault => .error fault
          | .ok (value, next) =>
            let next := next.skipSpaces
            let done := Table.put name value done
            match next.rest with
            | '\x7d' :: _ => .ok (.record done, next.skip 1)
            | ',' :: _ => readFields digits fuel room (next.skip 1).skipSpaces done
            | _ => .error (next.fault .expectingComma)
        | _ => .error (next.fault .expectingColon)
    | _ => .error (cur.fault .expectingName)

end

/-- Reads a text that is one JSON value, with spaces around it. -/
def read (limits : Limits) (cs : List Char) : Except Fault Datum :=
  match cs with
  | '\uFEFF' :: _ => .error (.malformed .byteOrderMark 0)
  | _ =>
    let start : Cursor := ⟨cs, 0⟩
    match readValue limits.digits (2 * cs.length + 4) limits.depth start.skipSpaces with
    | .error fault => .error fault
    | .ok (value, next) =>
      let next := next.skipSpaces
      match next.rest with
      | [] => .ok value
      | _ => .error (next.fault .extraData)

end AsmKit.Json
