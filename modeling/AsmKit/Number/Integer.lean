import AsmKit.Text.Blank
import AsmKit.Text.Digit
import AsmKit.Text.Quoted

/-!
Reading integers. Blanks around the number and a sign in front of it are allowed, digits may be of
any script, and single underscores may stand between digits. Where the base is open, `0x`, `0o` and
`0b` choose one, and a decimal number has no leading zero unless it is zero. A decimal number of too
many digits is neither read nor shown; leading zeros count.
-/

namespace AsmKit.Integer

/-- How a number is read: in the base ten, or in the base that its own beginning names. -/
inductive Base where
  | ten
  | marked
  deriving DecidableEq, Repr

def Base.number : Base → Nat
  | .ten => 10
  | .marked => 0

/-- How many decimal digits a number may have. -/
@[irreducible]
def digitLimit : Nat := 4300

/-- A number that can be shown in decimal digits. -/
def IsShort (n : Int) : Prop := n.natAbs < Nat.pow 10 digitLimit

instance (n : Int) : Decidable (IsShort n) :=
  inferInstanceAs (Decidable (n.natAbs < Nat.pow 10 digitLimit))

inductive Fault where
  | notANumber
  | tooLong (digits : Nat)
  deriving DecidableEq, Repr

/-- The value of a digit up to `z`, of any letter case. -/
def digitValue (c : Char) : Option Nat :=
  match Text.decimalValue? c with
  | some v => some v
  | none =>
    if 'a' ≤ c ∧ c ≤ 'z' then some (c.toNat - 87)
    else if 'A' ≤ c ∧ c ≤ 'Z' then some (c.toNat - 55)
    else none

/-- Reads digits below `base` up to the end. `afterDigit` says that a digit stands right before,
so that an underscore may follow. -/
def readDigits (base : Nat) : Bool → Nat → List Char → Option Nat
  | afterDigit, value, [] => if afterDigit then some value else none
  | afterDigit, value, c :: rest =>
    if c == '_' then if afterDigit then readDigits base false value rest else none
    else match digitValue c with
      | some v => if v < base then readDigits base true (value * base + v) rest else none
      | none => none

/-- The digits after a base mark, where one underscore may stand in front. -/
def readMarked (base : Nat) : List Char → Option Nat
  | '_' :: rest => readDigits base false 0 rest
  | rest => readDigits base false 0 rest

/-- The number of decimal digits at the start of a text, with single underscores between them. There
is none where underscores stand otherwise. -/
def decimalRun : Bool → Nat → List Char → Option Nat
  | afterDigit, count, [] => if afterDigit then some count else none
  | afterDigit, count, c :: rest =>
    if c == '_' then if afterDigit then decimalRun false count rest else none
    else if Text.isDecimal c then decimalRun true (count + 1) rest
    else if afterDigit then some count else none

/-- Reads a decimal number. Too many digits are refused first, whatever stands behind them. -/
def readDecimal (cs : List Char) : Except Fault Nat :=
  match (decimalRun false 0 cs).filter (digitLimit < ·), readDigits 10 false 0 cs with
  | some digits, _ => .error (.tooLong digits)
  | none, some n => .ok n
  | none, none => .error .notANumber

/-- Whether a character is a zero of any script. -/
def isZero (c : Char) : Bool := Text.decimalValue? c == some 0

def readUnsigned (base : Base) (cs : List Char) : Except Fault Nat :=
  let marked (base : Nat) (digits : List Char) : Except Fault Nat :=
    (readMarked base digits).elim (.error .notANumber) .ok
  match base, cs with
  | .marked, z :: rest =>
    if isZero z then
      match rest with
      | m :: more =>
        if m == 'x' || m == 'X' then marked 16 more
        else if m == 'o' || m == 'O' then marked 8 more
        else if m == 'b' || m == 'B' then marked 2 more
        else match readDecimal cs with
          | .ok 0 => .ok 0
          | .ok _ => .error .notANumber
          | .error fault => .error fault
      | [] => .ok 0
    else readDecimal cs
  | _, _ => readDecimal cs

/-- Whether a blank may stand around a number: in a text of ASCII characters only the space and
the characters from tab to carriage return may. -/
def isPadding (ascii : Bool) (c : Char) : Bool :=
  if ascii then c == ' ' || ('\t' ≤ c && c ≤ '\r') else Text.isBlank c

def read (base : Base) (s : String) : Except Fault Int :=
  let cs := s.toList
  let padding := isPadding (cs.all (·.toNat < 128))
  let core := ((cs.dropWhile padding).reverse.dropWhile padding).reverse
  match core with
  | '-' :: rest => (readUnsigned base rest).map fun (n : Nat) => -(n : Int)
  | '+' :: rest => (readUnsigned base rest).map fun (n : Nat) => (n : Int)
  | _ => (readUnsigned base core).map fun (n : Nat) => (n : Int)

def tooManyDigits : String :=
  "Exceeds the limit (" ++ toString digitLimit ++ " digits) for integer string conversion"

def raiseLimitHint : String := "; use sys.set_int_max_str_digits() to increase the limit"

def tooLongMessage (digits : Nat) : String :=
  tooManyDigits ++ ": value has " ++ toString digits ++ " digits" ++ raiseLimitHint

/-- The wording of a fault in the given text, whose literal is cut after 200 characters. -/
def Fault.message (base : Base) (s : String) : Fault → String
  | .notANumber =>
    "invalid literal for int() with base " ++ toString base.number ++ ": " ++
      String.ofList ((Text.quoted s).toList.take 200)
  | .tooLong digits => tooLongMessage digits

end AsmKit.Integer
