import AsmKit.Proofs.Instruction.Search
import Mathlib.Data.List.Forall2

/-! # The operands of an instruction

An instruction that a form accepts has an operand for each operand type of the
form, read from the token in the same place. An operand is absent exactly where
the rule of its type has a group, and the match of the rule goes past it. -/
namespace AsmKit
variable {α : Type}

/-- What the rule of a type reads from a token. Of a token and its type, `pair`, the rule matches
the token; the operand is absent if the first group of the rule takes nothing. -/
def ReadOperand (settings : Settings) (pair : String × String) (operand : Option String) : Prop :=
  ∃ rule found, settings.operandRule pair.2 = .ok rule ∧ rule.find? pair.1.toList = some found ∧
    decodeOperand rule pair.1 = some operand ∧
    (operand = none ↔ rule.groups ≠ 0 ∧ found.group? 1 = none)

/-- The instruction is what the form makes of these tokens. -/
structure InstructionForm.Reads (settings : Settings) (form : InstructionForm α)
    (tokens : List String) (instruction : Instruction α) : Prop where
  mnemonic_eq : instruction.mnemonic = form.mnemonic
  executor_eq : instruction.executor = form.executor
  arity_eq : instruction.operands.length = form.operandTypes.length
  operands : List.Forall₂ (ReadOperand settings) (tokens.zip form.operandTypes)
    instruction.operands

theorem Settings.mem_of_operandRule {settings : Settings} {operandType : String} {rule : Pattern}
    (h : settings.operandRule operandType = .ok rule) :
    (operandType, rule) ∈ settings.operandRules := by
  unfold operandRule at h
  split at h
  · rename_i pattern hlookup
    cases h
    obtain ⟨front, back, heq, -⟩ := List.lookup_eq_some_iff.mp hlookup
    simp [heq]
  · cases h

theorem readOperand_of_decode {settings : Settings} {pair : String × String} {rule : Pattern}
    {operand : Option String} (hrule : settings.operandRule pair.2 = .ok rule)
    (hdecode : decodeOperand rule pair.1 = some operand) : ReadOperand settings pair operand := by
  obtain ⟨found, hfind, hoperand⟩ := Option.map_eq_some_iff.mp hdecode
  refine ⟨rule, found, hrule, hfind, hdecode, ?_⟩
  by_cases hgroups : rule.groups = 0
  · simp [← hoperand, hgroups]
  · simp [← hoperand, hgroups]

namespace InstructionForm

theorem readOperands_accepted {settings : Settings} {mnemonic : String}
    {pairs : List (String × String)} {operands : List (Option String)}
    (h : readOperands settings.operandRule mnemonic pairs = .ok (.accepted operands)) :
    List.Forall₂ (ReadOperand settings) pairs operands := by
  induction pairs generalizing operands with
  | nil => cases h; exact .nil
  | cons pair rest ih =>
    obtain ⟨token, operandType⟩ := pair
    unfold readOperands at h
    split at h
    · cases h
    · rename_i rule hrule
      split at h
      · cases h
      · rename_i operand hdecode
        split at h
        · cases h
        · cases h
        · rename_i later hlater
          cases h
          exact .cons (readOperand_of_decode hrule hdecode) (ih hlater)

theorem reads_of_accepted {settings : Settings} {form : InstructionForm α} {tokens : List String}
    {lineNumber : Int} {text : String} {instruction : Instruction α}
    (h : form.read settings.operandRule tokens lineNumber text = .ok (.accepted instruction)) :
    form.Reads settings tokens instruction := by
  obtain ⟨-, -, hmnemonic, hexecutor⟩ := read_accepted h
  unfold read at h
  split at h
  · cases h
  · rename_i hlength
    split at h
    · cases h
    · cases h
    · rename_i operands hoperands
      cases h
      have hread := readOperands_accepted hoperands
      have hcount : tokens.length = form.arity := by simpa using hlength
      refine ⟨hmnemonic, hexecutor, ?_, hread⟩
      rw [← hread.length_eq, List.length_zip, hcount, arity, Nat.min_self]

end InstructionForm

namespace FormSearch

/-- An answer that is an instruction is what one of the forms makes of the tokens. -/
theorem reads_of_answer {settings : Settings} {mnemonic : String} {tokens : List String}
    {lineNumber : Int} {text : String} {forms : List (InstructionForm α)}
    {instruction : Instruction α}
    (h : (run settings.operandRule mnemonic tokens lineNumber text forms).answer mnemonic =
      .ok (.ok instruction)) :
    ∃ form ∈ forms, form.mnemonic = mnemonic ∧ form.Reads settings tokens instruction := by
  obtain ⟨form, hmem, hname, hread⟩ := run_found (answer_eq_ok_iff.mp h)
  exact ⟨form, hmem, hname, InstructionForm.reads_of_accepted hread⟩

end FormSearch
end AsmKit
