import AsmKit.Text.Hex

/-!
UTF-8. Bytes are read strictly, and a fault names the bytes that cannot be read: the longest start
of a sequence that is still possible, or the rest of the text where that ends too early.
-/

namespace AsmKit.Text.Utf8

inductive Reason where
  | badStart
  | badContinuation
  | unexpectedEnd
  deriving DecidableEq, Repr

def Reason.message : Reason → String
  | .badStart => "invalid start byte"
  | .badContinuation => "invalid continuation byte"
  | .unexpectedEnd => "unexpected end of data"

/-- A fault: the number of bytes in front, the bad bytes' number and the first of them. -/
structure Fault where
  position : Nat
  size : Nat
  byte : UInt8
  reason : Reason
  deriving DecidableEq, Repr

def Fault.message (fault : Fault) : String :=
  let place :=
    if fault.size == 1 then
      "byte 0x" ++ String.ofList (Text.hexDigits 2 fault.byte.toNat) ++ " in position " ++
        toString fault.position
    else
      "bytes in position " ++ toString fault.position ++ "-" ++
        toString (fault.position + fault.size - 1)
  "'utf-8' codec can't decode " ++ place ++ ": " ++ fault.reason.message

def isTail (b : UInt8) : Bool := 0x80 ≤ b && b ≤ 0xBF

/-- Whether a byte may be the second of a sequence of three that starts with `first`: sequences that
are longer than needed, and halves of pairs, are left out. -/
def isSecondOfThree (first second : UInt8) : Bool :=
  isTail second && !(first == 0xE0 && second < 0xA0) && !(first == 0xED && 0xA0 ≤ second)

def isSecondOfFour (first second : UInt8) : Bool :=
  isTail second && !(first == 0xF0 && second < 0x90) && !(first == 0xF4 && 0x90 ≤ second)

def tailBits (b : UInt8) : Nat := b.toNat % 64

/-- Reads bytes; `position` of them stand in front. -/
def decodeFrom : Nat → List UInt8 → Except Fault (List Char)
  | _, [] => .ok []
  | position, a :: rest =>
    let fault (size : Nat) (reason : Reason) : Except Fault (List Char) :=
      .error ⟨position, size, a, reason⟩
    if a < 0x80 then
      match decodeFrom (position + 1) rest with
      | .ok cs => .ok (Char.ofNat a.toNat :: cs)
      | .error f => .error f
    else if a < 0xC2 || 0xF5 ≤ a then fault 1 .badStart
    else if a < 0xE0 then
      match rest with
      | [] => fault 1 .unexpectedEnd
      | b :: rest =>
        if isTail b then
          match decodeFrom (position + 2) rest with
          | .ok cs => .ok (Char.ofNat (a.toNat % 32 * 64 + tailBits b) :: cs)
          | .error f => .error f
        else fault 1 .badContinuation
    else if a < 0xF0 then
      match rest with
      | [] => fault 1 .unexpectedEnd
      | [b] => if isSecondOfThree a b then fault 2 .unexpectedEnd else fault 1 .badContinuation
      | b :: c :: rest =>
        if !isSecondOfThree a b then fault 1 .badContinuation
        else if !isTail c then fault 2 .badContinuation
        else
          match decodeFrom (position + 3) rest with
          | .ok cs =>
            .ok (Char.ofNat ((a.toNat % 16 * 64 + tailBits b) * 64 + tailBits c) :: cs)
          | .error f => .error f
    else
      match rest with
      | [] => fault 1 .unexpectedEnd
      | [b] => if isSecondOfFour a b then fault 2 .unexpectedEnd else fault 1 .badContinuation
      | [b, c] =>
        if !isSecondOfFour a b then fault 1 .badContinuation
        else if !isTail c then fault 2 .badContinuation
        else fault 3 .unexpectedEnd
      | b :: c :: d :: rest =>
        if !isSecondOfFour a b then fault 1 .badContinuation
        else if !isTail c then fault 2 .badContinuation
        else if !isTail d then fault 3 .badContinuation
        else
          match decodeFrom (position + 4) rest with
          | .ok cs =>
            .ok (Char.ofNat (((a.toNat % 8 * 64 + tailBits b) * 64 + tailBits c) * 64 +
              tailBits d) :: cs)
          | .error f => .error f

/-- Reads bytes behind an optional byte order mark, which the positions of faults do not count.
Bytes that are only the start of a mark are an empty text. -/
def decode (bytes : List UInt8) : Except Fault (List Char) :=
  match bytes with
  | 0xEF :: 0xBB :: 0xBF :: rest => decodeFrom 0 rest
  | [0xEF, 0xBB] | [0xEF] => .ok []
  | _ => decodeFrom 0 bytes

def encode (cs : List Char) : List UInt8 := cs.flatMap String.utf8EncodeChar

end AsmKit.Text.Utf8
