/-!
Binary floating-point numbers of 64 bits: reading a decimal, rounded to the nearest number, and
writing the fewest digits that read back.

A finite number is `mantissa · 2 ^ exponent`, the mantissa below `2 ^ 53` and the exponent from
`-1074` to `971`. The numbers that round to it fill an interval around it, which holds its ends iff
the mantissa is even. The text is found on the decimal grids of one digit, two digits and so on: the
first grid with a point in the interval wins, and of two points the nearer.
-/

namespace AsmKit

/-- A binary floating-point number of 64 bits. -/
inductive Binary64 where
  | finite (negative : Bool) (mantissa : Nat) (exponent : Int)
  | infinite (negative : Bool)
  | undefined
  deriving DecidableEq, Repr

namespace Binary64

def zero (negative : Bool) : Binary64 := .finite negative 0 (-1074)

def isZero : Binary64 → Bool
  | .finite _ mantissa _ => mantissa == 0
  | _ => false

/-- `num / den`, rounded to an integer; a half goes to the even neighbour. -/
def roundQuotient (num den : Nat) : Nat :=
  let floor := num / den
  let twice := 2 * (num % den)
  if twice < den then floor
  else if den < twice then floor + 1
  else floor + floor % 2

/-- `num / den` as a multiple of `2 ^ exponent`, rounded. -/
def scaled (num den : Nat) (exponent : Int) : Nat :=
  if exponent < 0 then roundQuotient (num * Nat.pow 2 exponent.natAbs) den
  else roundQuotient num (den * Nat.pow 2 exponent.natAbs)

/-- The number nearest to the quotient `num / den` of positive integers. -/
def ofQuotient (negative : Bool) (num den : Nat) : Binary64 :=
  let guess : Int := (Nat.log2 num : Int) - (Nat.log2 den : Int) - 53
  let exponent : Int :=
    if (if guess < 0 then num * Nat.pow 2 guess.natAbs else num) <
        (if guess < 0 then den else den * Nat.pow 2 guess.natAbs) * Nat.pow 2 53
    then guess else guess + 1
  let exponent := max exponent (-1074)
  let mantissa := scaled num den exponent
  let carried := mantissa == Nat.pow 2 53
  let mantissa := if carried then Nat.pow 2 52 else mantissa
  let exponent := if carried then exponent + 1 else exponent
  if 971 < exponent then .infinite negative
  else if mantissa == 0 then zero negative
  else .finite negative mantissa exponent

/-- The number nearest to `digits · 10 ^ exponent`. Far outside the range of the numbers the
answer is infinite or zero without looking at the digits. -/
def ofDecimal (negative : Bool) (digits : Nat) (exponent : Int) : Binary64 :=
  if digits == 0 then zero negative
  else
    let magnitude : Int := (Nat.log2 digits : Int) * 3 / 10 + exponent
    if 320 < magnitude then .infinite negative
    else if magnitude < -350 - (Nat.log2 digits : Int) / 300 then zero negative
    else if exponent < 0 then ofQuotient negative digits (Nat.pow 10 exponent.natAbs)
    else ofQuotient negative (digits * Nat.pow 10 exponent.natAbs) 1

/-- The decimal digits of a number and the place of its point: `0.d₁d₂… · 10 ^ point`. -/
structure Shortest where
  digits : Nat
  count : Nat
  point : Int
  deriving DecidableEq, Repr

/-- The numbers of an interval over one denominator, with the point in the middle. -/
structure Interval where
  low : Nat
  middle : Nat
  high : Nat
  den : Nat
  closed : Bool

/-- The interval of reals that round to `mantissa · 2 ^ exponent`. Below a power of two the next
number is only half as far. -/
def interval (mantissa : Nat) (exponent : Int) : Interval :=
  let up := Nat.pow 2 (max exponent 0).natAbs
  let down := Nat.pow 2 (max (-exponent) 0).natAbs
  let below := if mantissa == Nat.pow 2 52 && -1074 < exponent then 1 else 2
  ⟨(4 * mantissa - below) * up, 4 * mantissa * up, (4 * mantissa + 2) * up, 4 * down,
    mantissa % 2 == 0⟩

/-- Whether `point · 10 ^ unit` lies in the interval. -/
def Interval.holds (i : Interval) (unit : Int) (point : Nat) : Bool :=
  let value := if unit < 0 then point * i.den else point * i.den * Nat.pow 10 unit.natAbs
  let scale := if unit < 0 then Nat.pow 10 unit.natAbs else 1
  if i.closed then i.low * scale ≤ value && value ≤ i.high * scale
  else i.low * scale < value && value < i.high * scale

/-- The least `k` with `middle / den < 10 ^ k`, searched upwards. -/
def Interval.magnitude (i : Interval) : Nat → Int → Int
  | 0, k => k
  | fuel + 1, k =>
    let below := if k < 0 then i.middle * Nat.pow 10 k.natAbs < i.den
      else i.middle < i.den * Nat.pow 10 k.natAbs
    if below then k else i.magnitude fuel (k + 1)

/-- The shortest digits, from grids of `count` digits on. -/
def Interval.search (i : Interval) (point : Int) : Nat → Nat → Shortest
  | 0, count => ⟨0, count, point⟩
  | fuel + 1, count =>
    let unit := point - count
    let num := if unit < 0 then i.middle * Nat.pow 10 unit.natAbs else i.middle
    let den := if unit < 0 then i.den else i.den * Nat.pow 10 unit.natAbs
    let under := num / den
    let rest := num % den
    let pick (n : Nat) : Shortest :=
      if n == Nat.pow 10 count then ⟨Nat.pow 10 (count - 1), count, point + 1⟩ else ⟨n, count, point⟩
    match i.holds unit under, i.holds unit (under + 1) with
    | true, true =>
      pick (if 2 * rest < den || (2 * rest == den && under % 2 == 0) then under else under + 1)
    | true, false => pick under
    | false, true => pick (under + 1)
    | false, false => i.search point fuel (count + 1)

/-- The fewest digits that read back as `mantissa · 2 ^ exponent`, for a positive mantissa. -/
def shortest (mantissa : Nat) (exponent : Int) : Shortest :=
  let i := interval mantissa exponent
  i.search (i.magnitude 660 (-330)) 18 1

/-- The text of a finite positive number. The point stands among the digits from `0.0001` up to
below `10 ^ 16`, and always has a digit on each side; else an exponent of at least two digits and a
sign follows. -/
def positional (s : Shortest) : String :=
  let digits := toString s.digits
  if -4 < s.point ∧ s.point ≤ 16 then
    if s.point ≤ 0 then "0." ++ "".pushn '0' s.point.natAbs ++ digits
    else
      let n := s.point.toNat
      if s.count ≤ n then digits ++ "".pushn '0' (n - s.count) ++ ".0"
      else String.ofList (digits.toList.take n) ++ "." ++ String.ofList (digits.toList.drop n)
  else
    let power := s.point - 1
    let mark := if power < 0 then "e-" else "e+"
    let size := toString power.natAbs
    let size := if power.natAbs < 10 then "0" ++ size else size
    let head := String.ofList (digits.toList.take 1)
    let tail := String.ofList (digits.toList.drop 1)
    (if tail.isEmpty then head else head ++ "." ++ tail) ++ mark ++ size

/-- The text of a number: the fewest digits that read back. -/
def text : Binary64 → String
  | .undefined => "nan"
  | .infinite negative => if negative then "-inf" else "inf"
  | .finite negative mantissa exponent =>
    let magnitude := if mantissa == 0 then "0.0" else positional (shortest mantissa exponent)
    if negative then "-" ++ magnitude else magnitude

end Binary64
end AsmKit
