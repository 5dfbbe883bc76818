import AsmKit.Number.Integer
import AsmKit.Proofs.Text.Classes
import AsmKit.Text.Hex
import Mathlib.Data.List.TakeWhile
import Mathlib.Data.Nat.Digits.Lemmas

/-! # Numbers in digits

What digits denote is said by their places. A text of decimal digits, of any
scripts, is read as the number that it denotes. A text of digits that are not
all decimal, as superscripts are not, looks like a number but is not read as
one. Neither is a text that starts with more decimal digits than a number may
have. -/
namespace AsmKit
namespace Text

/-- The number that digits denote in a base, the highest place first. -/
def numberIn (base : Nat) (value? : Char → Option Nat) (digits : List Char) : Nat :=
  Nat.ofDigits base (digits.map fun c => (value? c).getD 0).reverse

/-- The number that decimal digits denote. -/
def decimalNumber (digits : List Char) : Nat := numberIn 10 decimalValue? digits

/-- A text of decimal digits, which may be of several scripts. -/
def IsDecimalNumber (s : String) : Prop := s ≠ "" ∧ ∀ c ∈ s.toList, isDecimal c = true

/-- A text of digits of which some have no place value. -/
def IsLooseNumber (s : String) : Prop :=
  (∀ c ∈ s.toList, isDigit c = true) ∧ ∃ c ∈ s.toList, isDecimal c = false

/-- How many decimal digits a text starts with. -/
def decimalFront (cs : List Char) : Nat := (cs.takeWhile isDecimal).length

theorem numberIn_cons (base : Nat) (value? : Char → Option Nat) (c : Char) (cs : List Char) :
    numberIn base value? (c :: cs) =
      (value? c).getD 0 * base ^ cs.length + numberIn base value? cs := by
  rw [numberIn, List.map_cons, Nat.ofDigits_reverse_cons, List.length_map, Nat.mul_comm,
    Nat.add_comm, numberIn]

/-! ## Digits with a place value and without -/

theorem decimalValueIn_isSome (ranges : List (Nat × Nat)) (n : Nat) :
    (decimalValueIn ranges n).isSome = Ranges.covers ranges n := by
  induction ranges with
  | nil => rfl
  | cons range rest ih =>
    obtain ⟨low, high⟩ := range
    rw [decimalValueIn, Ranges.covers]
    split
    · rfl
    · split
      · rename_i hhigh
        simp [hhigh]
      · rename_i hhigh
        simp [hhigh, ih]

theorem decimalValueIn_lt {ranges : List (Nat × Nat)} {n value : Nat}
    (h : decimalValueIn ranges n = some value) : value < 10 := by
  induction ranges with
  | nil => cases h
  | cons range rest ih =>
    obtain ⟨low, high⟩ := range
    rw [decimalValueIn] at h
    split at h
    · cases h
    · split at h
      · cases h
        omega
      · exact ih h

/-- The decimal digits are the characters with a place value. -/
theorem exists_decimalValue {c : Char} (h : isDecimal c = true) :
    ∃ value, decimalValue? c = some value ∧ value < 10 := by
  rw [isDecimal, ← decimalValueIn_isSome] at h
  obtain ⟨value, hvalue⟩ := Option.isSome_iff_exists.mp h
  exact ⟨value, hvalue, decimalValueIn_lt hvalue⟩

theorem decimalValue?_eq_none {c : Char} (h : isDecimal c = false) : decimalValue? c = none := by
  rw [isDecimal, ← decimalValueIn_isSome] at h
  simpa [decimalValue?] using h

theorem isDigit_of_isDecimal {c : Char} (h : isDecimal c = true) : isDigit c = true := by
  simp [isDigit, h]

theorem isBlank_of_isDigit {c : Char} (h : isDigit c = true) : isBlank c = false :=
  isBlank_of_isWord (by simp [isWord, isNumeral, h])

theorem IsLooseNumber.ne_empty {s : String} (h : IsLooseNumber s) : s ≠ "" := by
  obtain ⟨-, c, hc, -⟩ := h
  rintro rfl
  cases hc

theorem decimalFront_of_isDecimal {cs : List Char} (h : ∀ c ∈ cs, isDecimal c = true) :
    decimalFront cs = cs.length := by
  rw [decimalFront, List.takeWhile_eq_self_iff.mpr h]

/-- A text that is all digits is a number in decimal digits, or it looks like one. -/
theorem allDigits_iff {s : String} :
    (s != "" && s.toList.all isDigit) = true ↔ IsDecimalNumber s ∨ IsLooseNumber s := by
  simp only [Bool.and_eq_true, bne_iff_ne, List.all_eq_true]
  constructor
  · rintro ⟨hne, hdigits⟩
    by_cases hall : ∀ c ∈ s.toList, isDecimal c = true
    · exact .inl ⟨hne, hall⟩
    · simp only [not_forall, Bool.not_eq_true] at hall
      obtain ⟨c, hc, hloose⟩ := hall
      exact .inr ⟨hdigits, c, hc, hloose⟩
  · rintro (⟨hne, hall⟩ | hloose)
    · exact ⟨hne, fun c hc => isDigit_of_isDecimal (hall c hc)⟩
    · exact ⟨hloose.ne_empty, hloose.1⟩

end Text

namespace Integer
open Text

/-! ## Reading digits -/

theorem ne_underscore_of_isDigit {c : Char} (h : isDigit c = true) : (c == '_') = false := by
  rw [beq_eq_false_iff_ne]
  rintro rfl
  revert h
  decide +kernel

/-- A digit without a place value is none of the letters either, which count as digits beyond
ten. -/
theorem digitValue_eq_none {c : Char} (h : isDigit c = true) (hloose : isDecimal c = false) :
    digitValue c = none := by
  have hname : ¬ isNameStart c = true := by
    intro hstart
    rw [isDigit_of_isNameStart hstart] at h
    cases h
  have hlower : ¬ ('a' ≤ c ∧ c ≤ 'z') := fun hin => hname (by simp [isNameStart, hin])
  have hupper : ¬ ('A' ≤ c ∧ c ≤ 'Z') := fun hin => hname (by simp [isNameStart, hin])
  simp only [digitValue, decimalValue?_eq_none hloose, if_neg hlower, if_neg hupper]

/-- A decimal digit adds its place value to ten times what stands in front of it. -/
theorem readDigits_decimal_cons {c : Char} (h : isDecimal c = true) :
    ∃ place, decimalValue? c = some place ∧ ∀ afterDigit value rest,
      readDigits 10 afterDigit value (c :: rest) = readDigits 10 true (value * 10 + place) rest := by
  obtain ⟨place, hplace, hlt⟩ := exists_decimalValue h
  have hdigit : digitValue c = some place := by simp [digitValue, hplace]
  have hnot := ne_underscore_of_isDigit (isDigit_of_isDecimal h)
  refine ⟨place, hplace, fun afterDigit value rest => ?_⟩
  simp [readDigits, hnot, hdigit, hlt]

theorem readDigits_of_isDecimal {cs : List Char} (h : ∀ c ∈ cs, isDecimal c = true)
    (value : Nat) :
    readDigits 10 true value cs = some (value * 10 ^ cs.length + decimalNumber cs) := by
  induction cs generalizing value with
  | nil => simp [readDigits, decimalNumber, numberIn]
  | cons c rest ih =>
    obtain ⟨hc, hrest⟩ := List.forall_mem_cons.mp h
    obtain ⟨place, hplace, hread⟩ := readDigits_decimal_cons hc
    have hnumber : decimalNumber (c :: rest) = place * 10 ^ rest.length + decimalNumber rest := by
      rw [decimalNumber, numberIn_cons, hplace]
      rfl
    rw [hread, ih hrest, hnumber, List.length_cons, Nat.pow_succ]
    ring_nf

theorem readDigits_of_loose {cs : List Char} (h : ∀ c ∈ cs, isDigit c = true)
    (hloose : ∃ c ∈ cs, isDecimal c = false) (afterDigit : Bool) (value : Nat) :
    readDigits 10 afterDigit value cs = none := by
  induction cs generalizing afterDigit value with
  | nil => simp at hloose
  | cons c rest ih =>
    obtain ⟨hc, hrest⟩ := List.forall_mem_cons.mp h
    by_cases hdecimal : isDecimal c = true
    · have hlater : ∃ d ∈ rest, isDecimal d = false := by
        simpa [hdecimal] using hloose
      obtain ⟨place, -, hread⟩ := readDigits_decimal_cons hdecimal
      rw [hread]
      exact ih hrest hlater true _
    · have hnone := digitValue_eq_none hc (by simpa using hdecimal)
      simp [readDigits, ne_underscore_of_isDigit hc, hnone]

theorem isPadding_of_isDigit {c : Char} (h : isDigit c = true) (ascii : Bool) :
    isPadding ascii c = false := by
  have hblank := isBlank_of_isDigit h
  cases ascii with
  | false => exact hblank
  | true =>
    simp [isBlank, isBlankCode] at hblank
    simp [isPadding, Char.le_def, UInt32.le_iff_toNat_le, beq_eq_decide_toNat]
    omega

theorem decimalRun_of_isDigit {cs : List Char} (h : ∀ c ∈ cs, isDigit c = true) (count : Nat) :
    decimalRun true count cs = some (count + decimalFront cs) := by
  induction cs generalizing count with
  | nil => rfl
  | cons c rest ih =>
    obtain ⟨hc, hrest⟩ := List.forall_mem_cons.mp h
    have hnot := ne_underscore_of_isDigit hc
    by_cases hdecimal : isDecimal c = true
    · simp [decimalRun, hnot, hdecimal, ih hrest, decimalFront]
      omega
    · simp [decimalRun, hnot, hdecimal, decimalFront]

/-- Of a text of digits, the decimal ones in front are counted, and are refused if they are too
many. -/
theorem readDecimal_of_isDigit {cs : List Char} (h : ∀ c ∈ cs, isDigit c = true) :
    readDecimal cs =
      if digitLimit < decimalFront cs then .error (.tooLong (decimalFront cs))
      else (readDigits 10 false 0 cs).elim (.error .notANumber) .ok := by
  have hrun : (decimalRun false 0 cs).filter (digitLimit < ·) =
      if digitLimit < decimalFront cs then some (decimalFront cs) else none := by
    cases cs with
    | nil => rfl
    | cons c rest =>
      obtain ⟨hc, hrest⟩ := List.forall_mem_cons.mp h
      by_cases hdecimal : isDecimal c = true
      · have hfront : decimalFront (c :: rest) = 1 + decimalFront rest := by
          simp [decimalFront, hdecimal, Nat.add_comm]
        simp [decimalRun, ne_underscore_of_isDigit hc, hdecimal, decimalRun_of_isDigit hrest,
          hfront, Option.filter]
      · simp [decimalRun, ne_underscore_of_isDigit hc, hdecimal, decimalFront]
  rw [readDecimal, hrun]
  split_ifs
  · rfl
  · cases readDigits 10 false 0 cs <;> rfl

/-- Around digits there is nothing to leave out, neither blanks nor a sign. -/
theorem read_of_isDigit {s : String} (h : ∀ c ∈ s.toList, isDigit c = true) :
    read .ten s = (readDecimal s.toList).map fun (n : Nat) => (n : Int) := by
  have hkeep : ∀ (ascii : Bool) (cs : List Char), (∀ c ∈ cs, isDigit c = true) →
      cs.dropWhile (isPadding ascii) = cs := by
    intro ascii cs hcs
    cases cs with
    | nil => rfl
    | cons c rest => simp [isPadding_of_isDigit (hcs c List.mem_cons_self)]
  have hcore : ∀ ascii, ((s.toList.dropWhile (isPadding ascii)).reverse.dropWhile
      (isPadding ascii)).reverse = s.toList := by
    intro ascii
    rw [hkeep ascii _ h, hkeep ascii _ fun c hc => h c (List.mem_reverse.mp hc),
      List.reverse_reverse]
  rw [read, hcore]
  cases hs : s.toList with
  | nil => rfl
  | cons c rest =>
    have hc : isDigit c = true := h c (by simp [hs])
    have hsign : c ≠ '-' ∧ c ≠ '+' := by
      constructor <;> rintro rfl <;> revert hc <;> decide +kernel
    split
    · rename_i heq
      exact absurd (List.cons.inj heq).1 hsign.1
    · rename_i heq
      exact absurd (List.cons.inj heq).1 hsign.2
    · rfl

/-- A text of decimal digits that are not too many is read as the number that they denote. -/
theorem read_of_isDecimalNumber {s : String} (h : IsDecimalNumber s)
    (hlength : s.toList.length ≤ digitLimit) :
    read .ten s = .ok (decimalNumber s.toList : Int) := by
  have hdigits : ∀ c ∈ s.toList, isDigit c = true := fun c hc => isDigit_of_isDecimal (h.2 c hc)
  have hstart : readDigits 10 false 0 s.toList = readDigits 10 true 0 s.toList := by
    cases hs : s.toList with
    | nil => exact absurd hs (by simpa using h.1)
    | cons c rest =>
      obtain ⟨place, -, hcons⟩ := readDigits_decimal_cons (h.2 c (by simp [hs]))
      rw [hcons, hcons]
  have hfront : ¬ digitLimit < decimalFront s.toList := by
    rw [decimalFront_of_isDecimal h.2]
    exact Nat.not_lt.mpr hlength
  rw [read_of_isDigit hdigits, readDecimal_of_isDigit hdigits, if_neg hfront, hstart,
    readDigits_of_isDecimal h.2, Nat.zero_mul, Nat.zero_add]
  rfl

theorem read_of_isLooseNumber {s : String} (h : IsLooseNumber s)
    (hfront : decimalFront s.toList ≤ digitLimit) : read .ten s = .error .notANumber := by
  rw [read_of_isDigit h.1, readDecimal_of_isDigit h.1, if_neg (Nat.not_lt.mpr hfront),
    readDigits_of_loose h.1 h.2]
  rfl

theorem read_of_tooLong {s : String} (h : ∀ c ∈ s.toList, isDigit c = true)
    (hfront : digitLimit < decimalFront s.toList) :
    read .ten s = .error (.tooLong (decimalFront s.toList)) := by
  rw [read_of_isDigit h, readDecimal_of_isDigit h, if_pos hfront]
  rfl

end Integer
end AsmKit
