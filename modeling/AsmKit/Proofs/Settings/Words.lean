import AsmKit.Proofs.Instruction.Choosing
import AsmKit.Proofs.Settings.OperandRules
import AsmKit.Proofs.Settings.Resolving

/-! # The words of the standard operand types

What a form of one standard operand type makes of a token, said by a grammar for
each type. Main statement: the token is accepted exactly if it is a word of the
type, up to one line feed at its end, and the operand is then the word. Registers
are labels, and no number is a name. -/
namespace AsmKit.Text

/-! ## Grammars -/

/-- A number without a sign: hexadecimal digits behind their mark, or decimal digits of any
scripts. -/
inductive Magnitude : List Char → Prop
  | hexadecimal {mark : Char} {digits : List Char} : mark = 'x' ∨ mark = 'X' → digits ≠ [] →
      (∀ c ∈ digits, isHexDigit c = true) → Magnitude ('0' :: mark :: digits)
  | decimal {digits : List Char} : digits ≠ [] → (∀ c ∈ digits, isDecimal c = true) →
      Magnitude digits

/-- A number, perhaps behind a minus sign. -/
inductive Numeral : List Char → Prop
  | plain {cs : List Char} : Magnitude cs → Numeral cs
  | negative {cs : List Char} : Magnitude cs → Numeral ('-' :: cs)

/-- A name: an ASCII letter or an underscore, and then characters of a class. -/
inductive Name (part : Char → Bool) : List Char → Prop
  | name {first : Char} {rest : List Char} : isNameStart first = true →
      (∀ c ∈ rest, part c = true) → Name part (first :: rest)

/-- The words of the standard operand types. The parts of a label may also be dots. -/
def Word (operandType : String) (cs : List Char) : Prop :=
  operandType = "imm" ∧ Numeral cs ∨ operandType = "reg" ∧ Name isWord cs ∨
    operandType = "label" ∧ Name isNamePart cs

section Grammars
variable {cs : List Char}

theorem isHexNumber_iff : isHexNumber cs = true ↔ ∃ mark digits, cs = '0' :: mark :: digits ∧
    (mark = 'x' ∨ mark = 'X') ∧ digits ≠ [] ∧ ∀ c ∈ digits, isHexDigit c = true := by
  constructor
  · intro h
    match cs with
    | c :: mark :: digits =>
      simp only [isHexNumber, Bool.and_eq_true, Bool.or_eq_true, beq_iff_eq, List.all_eq_true] at h
      obtain ⟨⟨⟨rfl, hmark⟩, hsome⟩, hdigits⟩ := h
      exact ⟨mark, digits, rfl, hmark, by simpa using hsome, hdigits⟩
  · rintro ⟨mark, digits, rfl, hmark, hsome, hdigits⟩
    simp only [isHexNumber, Bool.and_eq_true, Bool.or_eq_true, beq_iff_eq, List.all_eq_true]
    exact ⟨⟨⟨trivial, hmark⟩, by simpa using hsome⟩, hdigits⟩

theorem isUnsigned_iff : isUnsigned cs = true ↔ Magnitude cs := by
  rw [isUnsigned, Bool.or_eq_true, isHexNumber_iff]
  constructor
  · rintro (⟨mark, digits, rfl, hmark, hsome, hdigits⟩ | hdecimal)
    · exact .hexadecimal hmark hsome hdigits
    · simp only [Bool.and_eq_true, List.all_eq_true] at hdecimal
      exact .decimal (by simpa using hdecimal.1) hdecimal.2
  · rintro (⟨hmark, hsome, hdigits⟩ | ⟨hsome, hdigits⟩)
    · exact .inl ⟨_, _, rfl, hmark, hsome, hdigits⟩
    · simp only [Bool.and_eq_true, List.all_eq_true]
      exact .inr ⟨by simpa using hsome, hdigits⟩

theorem isNumber_iff : isNumber cs = true ↔ Numeral cs := by
  constructor
  · intro h
    cases cs with
    | nil => cases h
    | cons c rest =>
      rw [isNumber] at h
      split at h
      · rename_i hminus
        rw [beq_iff_eq.mp hminus]
        exact .negative (isUnsigned_iff.mp h)
      · exact .plain (isUnsigned_iff.mp h)
  · rintro (hplain | hnegative)
    · have hunsigned := isUnsigned_iff.mpr hplain
      cases cs with
      | nil => cases hunsigned
      | cons c rest =>
        have hminus : c ≠ '-' := by
          rintro rfl
          rw [Settings.isUnsigned_minus] at hunsigned
          cases hunsigned
        rw [isNumber, if_neg (by simpa using hminus)]
        exact hunsigned
    · exact isUnsigned_iff.mpr hnegative

theorem isName_iff {part : Char → Bool} : isName part cs = true ↔ Name part cs := by
  constructor
  · intro h
    cases cs with
    | nil => cases h
    | cons first rest =>
      obtain ⟨hfirst, hrest⟩ := Bool.and_eq_true_iff.mp h
      exact .name hfirst (List.all_eq_true.mp hrest)
  · rintro ⟨hfirst, hrest⟩
    exact Bool.and_eq_true_iff.mpr ⟨hfirst, List.all_eq_true.mpr hrest⟩

theorem Name.mono {part more : Char → Bool} (h : Name part cs)
    (hmore : ∀ c, part c = true → more c = true) : Name more cs := by
  obtain ⟨hfirst, hrest⟩ := h
  exact .name hfirst fun c hc => hmore c (hrest c hc)

theorem Numeral.not_name {part : Char → Bool} (h : Numeral cs) : ¬ Name part cs := by
  intro hname
  rw [← isNumber_iff, isNumber_of_isName (isName_iff.mpr hname)] at h
  cases h

end Grammars
end AsmKit.Text

namespace AsmKit.Settings
open AsmKit.Text

section Words
variable {α : Type} {operandType token : String}

theorem isOperand_iff (h : operandType ∈ standardTypes) {cs : List Char} :
    isOperand operandType cs = true ↔ Word operandType cs := by
  simp only [standardTypes, List.mem_cons, List.not_mem_nil, or_false] at h
  rcases h with rfl | rfl | rfl
  · simp [Word, isOperand, isNumber_iff]
  · simp [Word, isOperand, isName_iff]
  · simp [Word, isOperand, isName_iff]

theorem accepts_iff_word {form : InstructionForm α} (htype : operandType ∈ standardTypes)
    (hform : form.operandTypes = [operandType]) :
    form.accepts standard [token] = true ↔ Word operandType (chomp token.toList) := by
  rw [form.accepts_iff standard [token] 0 "", read_word hform htype, ← isOperand_iff htype]
  split <;> simp_all

/-- Under the default settings, a form of one standard operand type accepts a token exactly if the
token is a word of the type, up to one line feed at its end. The operand is then the word, and every
other token is a bad operand. What is accepted as a register is accepted as a label, and nothing is
accepted as a number and as one of these. -/
theorem standard_operands_are_words [Text.CharacterNames] (α : Type) :
    Overrides.none.resolve = .ok standard ∧
    (∀ (form : InstructionForm α) (operandType token : String) (lineNumber : Int) (text : String),
      operandType ∈ ["imm", "reg", "label"] → form.operandTypes = [operandType] →
      let word := chomp token.toList
      let outcome := form.read standard.operandRule [token] lineNumber text
      (∀ instruction, outcome = .ok (.accepted instruction) ↔ Word operandType word ∧
        instruction =
          ⟨lineNumber, text, form.mnemonic, [some (String.ofList word)], form.executor⟩) ∧
      (outcome = .ok (.refused (.badOperand form.mnemonic token operandType)) ↔
        ¬ Word operandType word)) ∧
    ∀ (number register label : InstructionForm α) (token : String),
      number.operandTypes = ["imm"] → register.operandTypes = ["reg"] →
      label.operandTypes = ["label"] →
      (register.accepts standard [token] = true → label.accepts standard [token] = true) ∧
      ¬ (number.accepts standard [token] = true ∧
        (register.accepts standard [token] = true ∨ label.accepts standard [token] = true)) := by
  refine ⟨resolve_none, fun form operandType token lineNumber text htype hform => ?_,
    fun number register label token hnumber hregister hlabel => ?_⟩
  · intro word outcome
    have houtcome : outcome = _ := read_word hform htype token lineNumber text
    by_cases hword : Word operandType word
    · rw [houtcome, if_pos ((isOperand_iff htype).mpr hword)]
      refine ⟨fun instruction => ?_, ?_⟩
      · simp [hword, standardOperand, word, eq_comm]
      · simp [hword]
    · rw [houtcome, if_neg fun hoperand => hword ((isOperand_iff htype).mp hoperand)]
      simp [hword]
  · rw [accepts_iff_word (by decide) hnumber, accepts_iff_word (by decide) hregister,
      accepts_iff_word (by decide) hlabel]
    simp only [Word, String.reduceEq, true_and, false_and, or_false, false_or]
    refine ⟨fun hname => hname.mono fun c hc => Bool.or_eq_true_iff.mpr (.inl hc), ?_⟩
    rintro ⟨hnumeral, hname | hname⟩
    · exact hnumeral.not_name hname
    · exact hnumeral.not_name hname

section
open scoped Text.Nameless

/-- A number with a sign and a mark, in front of a line feed; and a register that is a label. -/
theorem marked_number_and_accented_name_are_words :
    let number : InstructionForm Nat := ⟨"push", ["imm"], some 7⟩
    let register : InstructionForm Nat := ⟨"push", ["reg"], some 8⟩
    let label : InstructionForm Nat := ⟨"push", ["label"], none⟩
    number.operandTypes = ["imm"] ∧ register.operandTypes = ["reg"] ∧
      label.operandTypes = ["label"] ∧
      number.read standard.operandRule ["-0X1f\n"] 3 "push" =
        .ok (.accepted ⟨3, "push", "push", [some "-0X1f"], some 7⟩) ∧
      register.accepts standard ["_\u00e9"] = true ∧ label.accepts standard ["_\u00e9"] = true ∧
      number.accepts standard ["_\u00e9"] = false := by
  intro number register label
  obtain ⟨-, hreads, hclasses⟩ := standard_operands_are_words Nat
  have hnumber : Word "imm" "-0X1f".toList :=
    .inl ⟨rfl, .negative (.hexadecimal (.inr rfl) nofun (List.all_eq_true.mp (by decide)))⟩
  have hregister : Word "reg" "_\u00e9".toList :=
    .inr (.inl ⟨rfl, .name rfl (List.all_eq_true.mp (by decide +kernel))⟩)
  have haccepts : register.accepts standard ["_\u00e9"] = true :=
    (accepts_iff_word (.tail _ (.head _)) rfl).mpr hregister
  obtain ⟨hlabel, hapart⟩ := hclasses number register label "_\u00e9" rfl rfl rfl
  refine ⟨rfl, rfl, rfl, ?_, haccepts, hlabel haccepts, ?_⟩
  · exact ((hreads number "imm" "-0X1f\n" 3 "push" (.head _) rfl).1 _).mpr ⟨hnumber, rfl⟩
  · exact Bool.eq_false_iff.mpr fun hnumber => hapart ⟨hnumber, .inl haccepts⟩

end

end Words
end AsmKit.Settings
