import AsmKit.Instruction.Basic
import AsmKit.Proofs.First

/-! # What a form makes of tokens

A form refuses tokens for their number or for the first of them that the rule of
its type does not match. It fails where it comes to a type without a rule, and
what stands behind does not matter. Any other form accepts the tokens. -/
namespace AsmKit
variable {α : Type}

/-! ## Tokens and their types -/

/-- Of a token and its type, `pair`, the type has a rule, and the rule matches the token. -/
def Settings.Fits (settings : Settings) (pair : String × String) : Prop :=
  ∃ rule, settings.operandRules.lookup pair.2 = some rule ∧ (rule.find? pair.1.toList).isSome

/-- A token that fits its type has an operand for it. -/
theorem Settings.Fits.exists_operand {settings : Settings} {pair : String × String}
    (h : settings.Fits pair) : ∃ rule operand,
      settings.operandRules.lookup pair.2 = some rule ∧
        decodeOperand rule pair.1 = some operand := by
  obtain ⟨rule, hrule, hfind⟩ := h
  obtain ⟨operand, hdecode⟩ : ∃ operand, decodeOperand rule pair.1 = some operand := by
    rw [← Option.isSome_iff_exists, decodeOperand, Option.isSome_map]
    exact hfind
  exact ⟨rule, operand, hrule, hdecode⟩

namespace InstructionForm
variable {settings : Settings} {form : InstructionForm α} {tokens : List String}
  {lineNumber : Int} {text : String}

/-- Why a form refuses tokens. Where there is a token for each type, the problem names the first
token that does not fit its type. -/
inductive Refuses (settings : Settings) (form : InstructionForm α) (tokens : List String) :
    Problem → Prop
  | count : tokens.length ≠ form.operandTypes.length →
      Refuses settings form tokens
        (.wrongCount form.mnemonic form.operandTypes.length tokens.length)
  | operand {token operandType : String} {rule : Pattern} :
      tokens.length = form.operandTypes.length →
      StopsAt settings.Fits (tokens.zip form.operandTypes) (token, operandType) →
      settings.operandRules.lookup operandType = some rule →
      Refuses settings form tokens (.badOperand form.mnemonic token operandType)

/-- There is a token for each type, and this type lacks a rule while all tokens in front of its own
fit theirs. -/
def LacksRule (settings : Settings) (form : InstructionForm α) (tokens : List String)
    (operandType : String) : Prop :=
  tokens.length = form.operandTypes.length ∧
    (∃ token, StopsAt settings.Fits (tokens.zip form.operandTypes) (token, operandType)) ∧
    settings.operandRules.lookup operandType = none

/-- A token that fits its type leaves the outcome to those behind it. -/
theorem readOperands_cons (mnemonic : String) {pair : String × String} (h : settings.Fits pair) :
    ∃ operand, ∀ rest, readOperands settings.operandRule mnemonic (pair :: rest) =
      match readOperands settings.operandRule mnemonic rest with
      | .error fault => .error fault
      | .ok (.refused problem) => .ok (.refused problem)
      | .ok (.accepted operands) => .ok (.accepted (operand :: operands)) := by
  obtain ⟨rule, operand, hrule, hdecode⟩ := h.exists_operand
  refine ⟨operand, fun rest => ?_⟩
  cases hlater : readOperands settings.operandRule mnemonic rest with
  | error fault => simp only [readOperands, Settings.operandRule, hrule, hdecode, hlater]
  | ok verdict =>
    cases verdict <;> simp only [readOperands, Settings.operandRule, hrule, hdecode, hlater]

theorem readOperands_of_fits (mnemonic : String) {pairs : List (String × String)}
    (h : ∀ pair ∈ pairs, settings.Fits pair) :
    ∃ operands, readOperands settings.operandRule mnemonic pairs = .ok (.accepted operands) := by
  induction pairs with
  | nil => exact ⟨[], rfl⟩
  | cons pair rest ih =>
    obtain ⟨hpair, hrest⟩ := List.forall_mem_cons.mp h
    obtain ⟨operand, hcons⟩ := readOperands_cons mnemonic hpair
    obtain ⟨operands, haccepted⟩ := ih hrest
    exact ⟨operand :: operands, by rw [hcons, haccepted]⟩

/-- The first token that does not fit its type settles the outcome, whatever stands behind it. -/
theorem readOperands_of_stopsAt (mnemonic : String) {pairs : List (String × String)}
    {token operandType : String} (h : StopsAt settings.Fits pairs (token, operandType)) :
    readOperands settings.operandRule mnemonic pairs =
      match settings.operandRules.lookup operandType with
      | none => .error (.noRule operandType)
      | some _ => .ok (.refused (.badOperand mnemonic token operandType)) := by
  obtain ⟨front, back, rfl, hfront, hnot⟩ := h
  induction front with
  | nil =>
    rw [List.nil_append, readOperands, Settings.operandRule]
    cases hrule : settings.operandRules.lookup operandType with
    | none => rfl
    | some rule =>
      have hfind : rule.find? token.toList = none := by
        rw [← Option.not_isSome_iff_eq_none]
        exact fun hfind => hnot ⟨rule, hrule, hfind⟩
      simp only [decodeOperand, hfind, Option.map_none]
  | cons pair front ih =>
    obtain ⟨hpair, hfront⟩ := List.forall_mem_cons.mp hfront
    obtain ⟨operand, hcons⟩ := readOperands_cons mnemonic hpair
    rw [List.cons_append, hcons, ih hfront]
    cases settings.operandRules.lookup operandType <;> rfl

/-! ## Reading tokens -/

theorem read_of_length (hlength : tokens.length = form.operandTypes.length)
    (lineNumber : Int) (text : String) :
    form.read settings.operandRule tokens lineNumber text =
      match readOperands settings.operandRule form.mnemonic (tokens.zip form.operandTypes) with
      | .error fault => .error fault
      | .ok (.refused problem) => .ok (.refused problem)
      | .ok (.accepted operands) =>
        .ok (.accepted ⟨lineNumber, text, form.mnemonic, operands, form.executor⟩) := by
  have hcount : ¬ (tokens.length != form.arity) = true := by simpa [arity] using hlength
  cases hoperands : readOperands settings.operandRule form.mnemonic
    (tokens.zip form.operandTypes) with
  | error fault => rw [InstructionForm.read, if_neg hcount, hoperands]
  | ok verdict => cases verdict <;> rw [InstructionForm.read, if_neg hcount, hoperands]

theorem read_of_refuses {problem : Problem} (h : form.Refuses settings tokens problem)
    (lineNumber : Int) (text : String) :
    form.read settings.operandRule tokens lineNumber text = .ok (.refused problem) := by
  cases h with
  | count hlength =>
    have hcount : (tokens.length != form.arity) = true := by simpa [arity] using hlength
    rw [InstructionForm.read, if_pos hcount]
    rfl
  | operand hlength hstops hrule =>
    rw [read_of_length hlength, readOperands_of_stopsAt form.mnemonic hstops, hrule]

theorem read_of_lacksRule {operandType : String} (h : form.LacksRule settings tokens operandType)
    (lineNumber : Int) (text : String) :
    form.read settings.operandRule tokens lineNumber text = .error (.noRule operandType) := by
  obtain ⟨hlength, ⟨token, hstops⟩, hrule⟩ := h
  rw [read_of_length hlength, readOperands_of_stopsAt form.mnemonic hstops, hrule]

theorem read_of_fits (hlength : tokens.length = form.operandTypes.length)
    (h : ∀ pair ∈ tokens.zip form.operandTypes, settings.Fits pair)
    (lineNumber : Int) (text : String) : ∃ instruction,
      form.read settings.operandRule tokens lineNumber text = .ok (.accepted instruction) := by
  obtain ⟨operands, haccepted⟩ := readOperands_of_fits form.mnemonic h
  exact ⟨_, by rw [read_of_length hlength, haccepted]⟩

/-- A form refuses tokens, lacks a rule for one of them, or has a token for each type that fits it.
-/
theorem refuses_or_lacksRule_or_fits (settings : Settings) (form : InstructionForm α)
    (tokens : List String) :
    (∃ problem, form.Refuses settings tokens problem) ∨
    (∃ operandType, form.LacksRule settings tokens operandType) ∨
    tokens.length = form.operandTypes.length ∧
      ∀ pair ∈ tokens.zip form.operandTypes, settings.Fits pair := by
  by_cases hlength : tokens.length = form.operandTypes.length
  · rcases StopsAt.exists_or_all settings.Fits (tokens.zip form.operandTypes) with
      hall | ⟨⟨token, operandType⟩, hstops⟩
    · exact .inr (.inr ⟨hlength, hall⟩)
    · cases hrule : settings.operandRules.lookup operandType with
      | none => exact .inr (.inl ⟨operandType, hlength, ⟨token, hstops⟩, hrule⟩)
      | some rule => exact .inl ⟨_, .operand hlength hstops hrule⟩
  · exact .inl ⟨_, .count hlength⟩

theorem read_refused_iff {problem : Problem} :
    form.read settings.operandRule tokens lineNumber text = .ok (.refused problem) ↔
      form.Refuses settings tokens problem := by
  refine ⟨fun hread => ?_, fun hrefuses => read_of_refuses hrefuses lineNumber text⟩
  rcases refuses_or_lacksRule_or_fits settings form tokens with
    ⟨other, hrefuses⟩ | ⟨operandType, hlacks⟩ | ⟨hlength, hfits⟩
  · rw [read_of_refuses hrefuses] at hread
    cases hread
    exact hrefuses
  · rw [read_of_lacksRule hlacks] at hread
    cases hread
  · obtain ⟨instruction, haccepted⟩ := read_of_fits hlength hfits lineNumber text
    rw [haccepted] at hread
    cases hread

theorem read_failed_iff {fault : Settings.Fault} :
    form.read settings.operandRule tokens lineNumber text = .error fault ↔
      ∃ operandType, form.LacksRule settings tokens operandType ∧ fault = .noRule operandType := by
  constructor
  · intro hread
    rcases refuses_or_lacksRule_or_fits settings form tokens with
      ⟨problem, hrefuses⟩ | ⟨operandType, hlacks⟩ | ⟨hlength, hfits⟩
    · rw [read_of_refuses hrefuses] at hread
      cases hread
    · rw [read_of_lacksRule hlacks] at hread
      cases hread
      exact ⟨operandType, hlacks, rfl⟩
    · obtain ⟨instruction, haccepted⟩ := read_of_fits hlength hfits lineNumber text
      rw [haccepted] at hread
      cases hread
  · rintro ⟨operandType, hlacks, rfl⟩
    exact read_of_lacksRule hlacks lineNumber text

end InstructionForm

end AsmKit
