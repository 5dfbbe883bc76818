import AsmKit.Proofs.Machine.Jumping
import AsmKit.Proofs.Settings.OperandRules
import AsmKit.Proofs.Settings.Resolving
import AsmKit.Proofs.Source.Cutting

/-! # Jumps to number operands

The standard rule for numbers takes decimal and hexadecimal numbers, with a
minus sign or without one. A jump takes a text for a number if it is all
digits. So a jump to an operand goes where the number goes for the decimal
numbers without a sign whose digits are not too many. One of too many digits is
not read as a number. Every other operand is an unknown label to it, also where
the number is a position of the program. -/
namespace AsmKit
open AsmKit.Settings
open AsmKit.Text
open AsmKit.TextSource (Plain)

namespace Text

/-! ## What a number denotes -/

/-- The number that an unsigned numeral denotes. -/
def unsignedValue (cs : List Char) : Nat :=
  if isHexNumber cs then numberIn 16 hexValue? (cs.drop 2) else decimalNumber cs

/-- The number that a numeral denotes, with its sign. -/
def literalValue : List Char → Int
  | [] => 0
  | c :: rest => if c == '-' then -(unsignedValue rest : Int) else (unsignedValue (c :: rest) : Int)

theorem exists_not_isDigit_of_isHexNumber {cs : List Char} (h : isHexNumber cs = true) :
    ∃ c ∈ cs, isDigit c = false := by
  match cs with
  | c :: mark :: digits =>
    simp only [isHexNumber, Bool.and_eq_true, Bool.or_eq_true, beq_iff_eq] at h
    refine ⟨mark, by simp, isDigit_of_isNameStart ?_⟩
    rcases h.1.1.2 with rfl | rfl <;> decide

/-- A text of digits has neither a sign nor a hexadecimal mark. -/
theorem unmarked_of_isDigit {cs : List Char} (h : ∀ c ∈ cs, isDigit c = true) :
    cs.head? ≠ some '-' ∧ isHexNumber cs = false := by
  constructor
  · intro hminus
    have hdigit := h '-' (List.mem_of_head? hminus)
    revert hdigit
    decide +kernel
  · rw [← Bool.not_eq_true]
    intro hhex
    obtain ⟨c, hc, hnot⟩ := exists_not_isDigit_of_isHexNumber hhex
    rw [h c hc] at hnot
    cases hnot

/-- A numeral that is all digits is all decimal digits. -/
theorem isDecimal_of_isNumber {cs : List Char} (h : isNumber cs = true)
    (hdigits : ∀ c ∈ cs, isDigit c = true) : ∀ c ∈ cs, isDecimal c = true := by
  obtain ⟨hsign, hhex⟩ := unmarked_of_isDigit hdigits
  cases cs with
  | nil => cases h
  | cons c rest =>
    have hc : ¬ (c == '-') = true := by simpa using hsign
    rw [isNumber, if_neg hc, isUnsigned, hhex, Bool.false_or] at h
    exact List.all_eq_true.mp (Bool.and_eq_true_iff.mp h).2

theorem not_looseNumber_of_isNumber {s : String} (h : isNumber s.toList = true) :
    ¬ IsLooseNumber s := by
  intro hnumber
  obtain ⟨hdigits, c, hc, hloose⟩ := hnumber
  rw [isDecimal_of_isNumber h hdigits c hc] at hloose
  cases hloose

theorem literalValue_of_isDecimal {cs : List Char} (h : ∀ c ∈ cs, isDecimal c = true) :
    literalValue cs = decimalNumber cs := by
  obtain ⟨hsign, hhex⟩ := unmarked_of_isDigit fun c hc => isDigit_of_isDecimal (h c hc)
  cases cs with
  | nil => rfl
  | cons c rest =>
    have hc : ¬ (c == '-') = true := by simpa using hsign
    simp only [literalValue, if_neg hc, unsignedValue, hhex, Bool.false_eq_true, if_false]

end Text

namespace Machine
variable {α σ : Type} {m : Machine α σ}

/-! ## Operands as targets -/

/-- Jumps with the same answer, which leave the machine the same but for what they report. -/
def SameOutcome {β : Type} (one other : β × Machine α σ) : Prop :=
  one.1 = other.1 ∧ one.2 = { other.2 with journal := one.2.journal }

/-- Targets that stand for the same are jumped to alike. -/
theorem sameOutcome_of_target {room : Nat} {one other : Datum}
    (h : m.target room one = m.target room other) :
    SameOutcome (m.jump room one) (m.jump room other) := by
  unfold jump
  rw [h]
  cases m.target room other with
  | error fault => exact ⟨rfl, rfl⟩
  | ok found =>
    cases found with
    | error problem => exact ⟨rfl, rfl⟩
    | ok position =>
      by_cases houtside : position < 0 ∨ (m.program.lineCount : Int) < position
      · simp only [if_pos houtside]
        exact ⟨rfl, rfl⟩
      · simp only [if_neg houtside]
        exact ⟨rfl, rfl⟩

/-- A jump to a number succeeds, or it fails for lying outside the program. -/
theorem jump_int_cases (m : Machine α σ) (room : Nat) (position : Int) :
    (m.jump room (.int position)).1 = .ok none ∨
      (m.jump room (.int position)).1 = .error (m.outside position) := by
  have htarget : m.target room (.int position) = .ok (.ok position) := rfl
  obtain ⟨hgo, hrefuse⟩ := jump_of_target htarget
  by_cases hinside : m.program.Inside position
  · exact .inl (congrArg Prod.fst (hgo hinside))
  · exact .inr (congrArg Prod.fst (hrefuse hinside))

theorem jump_int_ne_problem (m : Machine α σ) (room : Nat) (position : Int) (problem : Problem) :
    (m.jump room (.int position)).1 ≠ .ok (some problem) := by
  rcases m.jump_int_cases room position with h | h <;> rw [h] <;> nofun

theorem jump_int_ne_unread (m : Machine α σ) (room : Nat) (position : Int) (name : String)
    (cause : Integer.Fault) :
    (m.jump room (.int position)).1 ≠ .error (.targetUnread name cause) := by
  rcases m.jump_int_cases room position with h | h
  · rw [h]
    nofun
  · rw [h, outside]
    split <;> nofun

theorem jump_of_unknown {name : String} (room : Nat) (hnone : m.program.label? name = none)
    (hdecimal : ¬ IsDecimalNumber name) (hloose : ¬ IsLooseNumber name) :
    m.jump room (.text name) = (.ok (some (.noSuchLabel name)), m) := by
  have hdigits : ¬ (name != "" && name.toList.all isDigit) = true :=
    fun h => (allDigits_iff.mp h).elim hdecimal hloose
  refine jump_of_problem ?_
  simp only [target, hnone, if_neg hdigits]

theorem jump_of_tooLong {name : String} (room : Nat) (hnone : m.program.label? name = none)
    (hdecimal : IsDecimalNumber name) (hlength : Integer.digitLimit < name.toList.length) :
    m.jump room (.text name) =
      (.error (.targetUnread name (.tooLong name.toList.length)), m) := by
  have hdigits : ∀ c ∈ name.toList, isDigit c = true :=
    fun c hc => isDigit_of_isDecimal (hdecimal.2 c hc)
  rw [← decimalFront_of_isDecimal hdecimal.2] at hlength ⊢
  exact jump_of_fault (target_of_unread room hnone (.tooLong hdigits hlength))

/-- What the standard rule for numbers reads from a token without line ends is the token. Where no
label has its name, a jump to it has the outcome of a jump to the number that it denotes if it is a
decimal number without a sign and of not too many digits, and only then: a number with a sign or a
hexadecimal one is taken for an unknown label, wherever the position would be, and a number of too
many digits is not read. -/
theorem operand_jumps_as_number_iff [Text.CharacterNames] {rule : Pattern} {token : String}
    {operand : Option String}
    (hrule : standard.operandRule "imm" = .ok rule) (hplain : Plain token.toList)
    (hread : decodeOperand rule token = some operand) :
    Overrides.none.resolve = .ok standard ∧ operand = some token ∧
      ∀ (m : Machine α σ) (room : Nat), m.program.label? token = none →
        (SameOutcome (m.jump room (.text token))
            (m.jump room (.int (literalValue token.toList))) ↔
          IsDecimalNumber token ∧ token.toList.length ≤ Integer.digitLimit) ∧
        (¬ IsDecimalNumber token →
          m.jump room (.text token) = (.ok (some (.noSuchLabel token)), m)) ∧
        (IsDecimalNumber token → Integer.digitLimit < token.toList.length →
          m.jump room (.text token) =
            (.error (.targetUnread token (.tooLong token.toList.length)), m)) := by
  have himm : "imm" ∈ standardTypes := by decide
  obtain ⟨found, hfound, hdecode⟩ := exists_standard_rule himm
  cases hrule.symm.trans hfound
  rw [hdecode, chomp_of_notMem hplain.notMem_lineFeed, String.ofList_toList] at hread
  obtain ⟨hnumber, hoperand⟩ := Option.ite_none_right_eq_some.mp hread
  have hloose : ¬ IsLooseNumber token := not_looseNumber_of_isNumber hnumber
  refine ⟨resolve_none, (Option.some.inj hoperand).symm, fun m room hnone => ⟨?_, ?_, ?_⟩⟩
  · constructor
    · intro hsame
      -- the jump to the number never answers with a problem, nor with a text that was not read
      have hanswer := hsame.1
      by_cases hdecimal : IsDecimalNumber token
      · refine ⟨hdecimal, Nat.le_of_not_lt fun hlength => ?_⟩
        rw [jump_of_tooLong room hnone hdecimal hlength] at hanswer
        exact jump_int_ne_unread m room _ _ _ hanswer.symm
      · rw [jump_of_unknown room hnone hdecimal hloose] at hanswer
        exact absurd hanswer.symm (jump_int_ne_problem m room _ _)
    · rintro ⟨hdecimal, hlength⟩
      apply sameOutcome_of_target
      rw [target_of_names room (.number hnone hdecimal hlength),
        literalValue_of_isDecimal hdecimal.2]
      rfl
  · intro hdecimal
    exact jump_of_unknown room hnone hdecimal hloose
  · exact jump_of_tooLong room hnone

section
open scoped Text.Nameless

/-- A decimal number with a leading zero and a digit that is not ASCII, in a program of three
lines. -/
theorem padded_three_jumps_as_three :
    ∃ rule, standard.operandRule "imm" = .ok rule ∧ decodeOperand rule "0٣" = some (some "0٣") ∧
      let m : Machine Nat Unit := { program := { lineCount := 3 }, host := () }
      SameOutcome (m.jump 0 (.text "0٣")) (m.jump 0 (.int 3)) ∧
        (m.jump 0 (.int 3)).2.counter = 3 := by
  have hread : decodeOperand numberPattern "0٣" = some (some "0٣") := by
    rw [decodeOperand_number]
    decide +kernel
  have hrule : standard.operandRule "imm" = .ok numberPattern := rfl
  obtain ⟨-, -, hjump⟩ :=
    operand_jumps_as_number_iff (α := Nat) (σ := Unit) hrule (by decide) hread
  have hdigits : "0٣".toList.all isDecimal = true := by decide +kernel
  have hdecimal : IsDecimalNumber "0٣" := ⟨by decide, List.all_eq_true.mp hdigits⟩
  refine ⟨numberPattern, hrule, hread, ?_, rfl⟩
  exact (hjump { program := { lineCount := 3 }, host := () } 0 rfl).1.mpr
    ⟨hdecimal, by decide +kernel⟩

end

/-- A line hands over a hexadecimal three as its operand, in a program of three lines without
labels. The jump to three succeeds there, but the jump to the operand does not. -/
theorem hexadecimal_three_is_no_target :
    ∃ (report : Report Nat) (later : LineSource),
      Program.read [⟨"goto", ["imm"], some 3⟩] standard
        (.text (.ofText standard "goto 0x3\n\n\n".toList)) = .ok (report, later) ∧
      report.ending = .complete ∧ report.program.labels = [] ∧ report.program.lineCount = 3 ∧
      report.program.slots =
        [some ⟨1, "goto 0x3", "goto", [some "0x3"], some 3⟩, none, none] ∧
      literalValue "0x3".toList = 3 ∧
      ∀ (memory : Memory) (counter : Int) (room : Nat),
        let m : Machine Nat Unit := { program := report.program, memory, counter, host := () }
        (m.jump room (.int 3)).1 = .ok none ∧ (m.jump room (.int 3)).2.counter = 3 ∧
        m.jump room (.text "0x3") = (.ok (some (.noSuchLabel "0x3")), m) ∧
        ¬ SameOutcome (m.jump room (.text "0x3")) (m.jump room (.int 3)) := by
  obtain ⟨report, later, hread, hending, hlabels, hcount, hslots⟩ :
      ∃ (report : Report Nat) (later : LineSource),
      Program.read [⟨"goto", ["imm"], some 3⟩] standard
        (.text (.ofText standard "goto 0x3\n\n\n".toList)) = .ok (report, later) ∧
      report.ending = .complete ∧ report.program.labels = [] ∧ report.program.lineCount = 3 ∧
      report.program.slots =
        [some ⟨1, "goto 0x3", "goto", [some "0x3"], some 3⟩, none, none] :=
    ⟨_, _, Program.read_text _ _ _, by decide +kernel, by decide +kernel, by decide +kernel,
      by decide +kernel⟩
  refine ⟨report, later, hread, hending, hlabels, hcount, hslots, by decide +kernel,
    fun memory counter room => ?_⟩
  intro m
  have hnone : m.program.label? "0x3" = none := by
    show report.program.label? "0x3" = none
    rw [Program.label?, hlabels]
    rfl
  have hdecimal : ¬ IsDecimalNumber "0x3" := by
    rintro ⟨-, hall⟩
    have hmark := hall 'x' (by decide)
    revert hmark
    decide +kernel
  have hunknown := jump_of_unknown room hnone hdecimal
    (not_looseNumber_of_isNumber (by decide +kernel))
  have hthree : m.jump room (.int 3) = _ :=
    jump_int m room (by decide) (by show (3 : Int) ≤ report.program.lineCount; rw [hcount]; decide)
  refine ⟨by rw [hthree], by rw [hthree], hunknown, fun hsame => ?_⟩
  have hproblem := hsame.1
  rw [hunknown] at hproblem
  exact jump_int_ne_problem m room _ _ hproblem.symm

end Machine
end AsmKit
