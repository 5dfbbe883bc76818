import AsmKit.Proofs.Instruction.Operands
import AsmKit.Proofs.Instruction.Reading
import AsmKit.Proofs.Pattern.Leftmost
import AsmKit.Proofs.Settings.Standard

/-! # The first obstacle

A form reads tokens from left to right and goes no further than to the first
obstacle: a type without a rule, or a token that the rule of its type does not
match. Main statement: the first obstacle alone settles the outcome, nothing
that stands behind it does, and without one each operand is what the leftmost
match in its token gives. -/
namespace AsmKit
open Pattern (Leftmost Misses)
variable {α : Type}

/-- What a rule reads from a token at its leftmost match: all that the match took, or its first
group where the rule has groups. The operand is absent if the group took nothing. -/
inductive Decodes (rule : Pattern) (token : String) : Option String → Prop
  | whole {found : Pattern.Match} : rule.groups = 0 →
      Leftmost rule.body [] token.toList found →
      Decodes rule token (some (String.ofList found.text))
  | group {found : Pattern.Match} : rule.groups ≠ 0 →
      Leftmost rule.body [] token.toList found →
      Decodes rule token ((found.group? 1).map String.ofList)

/-- The operand is what the rule of a type reads from a token. -/
def Settings.ReadsAs (settings : Settings) (pair : String × String) (operand : Option String) :
    Prop :=
  ∃ rule, settings.operandRules.lookup pair.2 = some rule ∧ Decodes rule pair.1 operand

theorem decodeOperand_eq_some_iff {rule : Pattern} {token : String} {operand : Option String} :
    decodeOperand rule token = some operand ↔ Decodes rule token operand := by
  rw [decodeOperand, Option.map_eq_some_iff]
  constructor
  · rintro ⟨found, hfind, rfl⟩
    have hleftmost := Pattern.find?_eq_some_iff.mp hfind
    by_cases hgroups : rule.groups = 0
    · rw [if_pos (beq_iff_eq.mpr hgroups)]
      exact .whole hgroups hleftmost
    · rw [if_neg (by simpa using hgroups)]
      exact .group hgroups hleftmost
  · rintro (⟨hgroups, hleftmost⟩ | ⟨hgroups, hleftmost⟩)
    · exact ⟨_, Pattern.find?_eq_some_iff.mpr hleftmost, by simp [hgroups]⟩
    · exact ⟨_, Pattern.find?_eq_some_iff.mpr hleftmost, by simp [hgroups]⟩

namespace InstructionForm
variable {settings : Settings} {form : InstructionForm α} {tokens : List String}
  {lineNumber : Int} {text : String} {j : Nat}
  {outcome : Except Settings.Fault (Verdict (Instruction α))}

/-- The obstacle at a position, and the outcome that it makes. -/
inductive ObstacleAt (settings : Settings) (form : InstructionForm α) (tokens : List String)
    (j : Nat) : Except Settings.Fault (Verdict (Instruction α)) → Prop
  | noRule {operandType : String} : form.operandTypes[j]? = some operandType →
      settings.operandRules.lookup operandType = none →
      ObstacleAt settings form tokens j (.error (.noRule operandType))
  | badOperand {token operandType : String} {rule : Pattern} : tokens[j]? = some token →
      form.operandTypes[j]? = some operandType →
      settings.operandRules.lookup operandType = some rule → Misses rule.body [] token.toList →
      ObstacleAt settings form tokens j
        (.ok (.refused (.badOperand form.mnemonic token operandType)))

/-- The first obstacle stands at a position. -/
def FirstObstacle (settings : Settings) (form : InstructionForm α) (tokens : List String) (j : Nat)
    (outcome : Except Settings.Fault (Verdict (Instruction α))) : Prop :=
  form.ObstacleAt settings tokens j outcome ∧
    ∀ i < j, ∀ earlier, ¬ form.ObstacleAt settings tokens i earlier

/-- What comes of tokens. Their number is looked at before any of them. -/
inductive Outcome (settings : Settings) (form : InstructionForm α) (tokens : List String)
    (lineNumber : Int) (text : String) : Except Settings.Fault (Verdict (Instruction α)) → Prop
  | count : tokens.length ≠ form.operandTypes.length →
      Outcome settings form tokens lineNumber text (.ok (.refused
        (.wrongCount form.mnemonic form.operandTypes.length tokens.length)))
  | obstacle {j : Nat} {outcome : Except Settings.Fault (Verdict (Instruction α))} :
      tokens.length = form.operandTypes.length → form.FirstObstacle settings tokens j outcome →
      Outcome settings form tokens lineNumber text outcome
  | accepted {operands : List (Option String)} : tokens.length = form.operandTypes.length →
      List.Forall₂ settings.ReadsAs (tokens.zip form.operandTypes) operands →
      Outcome settings form tokens lineNumber text
        (.ok (.accepted ⟨lineNumber, text, form.mnemonic, operands, form.executor⟩))

/-! ## Obstacles -/

theorem ObstacleAt.not_fits (h : form.ObstacleAt settings tokens j outcome)
    {pair : String × String} (hpair : (tokens.zip form.operandTypes)[j]? = some pair) :
    ¬ settings.Fits pair := by
  obtain ⟨htoken, htype⟩ := List.getElem?_zip_eq_some.mp hpair
  rintro ⟨rule, hrule, hfind⟩
  cases h with
  | noRule htype' hnone =>
    obtain rfl := Option.some.inj (htype.symm.trans htype')
    cases hnone.symm.trans hrule
  | badOperand htoken' htype' hrule' hmisses =>
    obtain rfl := Option.some.inj (htoken.symm.trans htoken')
    obtain rfl := Option.some.inj (htype.symm.trans htype')
    obtain rfl := Option.some.inj (hrule.symm.trans hrule')
    rw [Pattern.find?_eq_none_iff.mpr hmisses] at hfind
    cases hfind

theorem exists_obstacleAt {pair : String × String}
    (hpair : (tokens.zip form.operandTypes)[j]? = some pair) (hnot : ¬ settings.Fits pair) :
    ∃ outcome, form.ObstacleAt settings tokens j outcome := by
  obtain ⟨htoken, htype⟩ := List.getElem?_zip_eq_some.mp hpair
  cases hrule : settings.operandRules.lookup pair.2 with
  | none => exact ⟨_, .noRule htype hrule⟩
  | some rule =>
    refine ⟨_, .badOperand htoken htype hrule ?_⟩
    rw [← Pattern.find?_eq_none_iff, ← Option.not_isSome_iff_eq_none]
    exact fun hfind => hnot ⟨rule, hrule, hfind⟩

theorem exists_firstObstacle {pair : String × String}
    (h : StopsAt settings.Fits (tokens.zip form.operandTypes) pair) :
    ∃ j outcome, form.FirstObstacle settings tokens j outcome := by
  obtain ⟨j, hj, hnot, hfits⟩ := StopsAt.iff_getElem?.mp h
  obtain ⟨outcome, hobstacle⟩ := exists_obstacleAt hj hnot
  have hlt : j < (tokens.zip form.operandTypes).length := (List.getElem?_eq_some_iff.mp hj).1
  refine ⟨j, outcome, hobstacle, fun i hi earlier hearlier => ?_⟩
  have hpair := List.getElem?_eq_getElem (Nat.lt_trans hi hlt)
  exact hearlier.not_fits hpair (hfits i hi _ hpair)

/-- The first obstacle stands at the first pair that does not fit. -/
theorem FirstObstacle.stopsAt (h : form.FirstObstacle settings tokens j outcome)
    {token operandType : String} (htoken : tokens[j]? = some token)
    (htype : form.operandTypes[j]? = some operandType) :
    StopsAt settings.Fits (tokens.zip form.operandTypes) (token, operandType) := by
  obtain ⟨hobstacle, hfirst⟩ := h
  have hpair : (tokens.zip form.operandTypes)[j]? = some (token, operandType) :=
    List.getElem?_zip_eq_some.mpr ⟨htoken, htype⟩
  refine StopsAt.iff_getElem?.mpr ⟨j, hpair, hobstacle.not_fits hpair, ?_⟩
  intro i hi earlier hearlier
  by_contra hnot
  obtain ⟨other, hother⟩ := exists_obstacleAt hearlier hnot
  exact hfirst i hi other hother

theorem FirstObstacle.read_eq (h : form.FirstObstacle settings tokens j outcome)
    (hlength : tokens.length = form.operandTypes.length) :
    form.read settings.operandRule tokens lineNumber text = outcome := by
  cases h.1 with
  | noRule htype hnone =>
    obtain ⟨hlt, -⟩ := List.getElem?_eq_some_iff.mp htype
    have htoken := List.getElem?_eq_getElem (hlength.symm ▸ hlt : j < tokens.length)
    exact read_of_lacksRule ⟨hlength, ⟨_, h.stopsAt htoken htype⟩, hnone⟩ lineNumber text
  | badOperand htoken htype hrule _ =>
    exact read_of_refuses (.operand hlength (h.stopsAt htoken htype) hrule) lineNumber text

/-- Of the obstacles at and in front of a position, one is the first. -/
theorem ObstacleAt.exists_first (h : form.ObstacleAt settings tokens j outcome) :
    ∃ i ≤ j, ∃ earlier, form.FirstObstacle settings tokens i earlier := by
  induction j using Nat.strongRecOn generalizing outcome with
  | ind j ih =>
    by_cases hfirst : ∀ i < j, ∀ earlier, ¬ form.ObstacleAt settings tokens i earlier
    · exact ⟨j, Nat.le_refl j, outcome, h, hfirst⟩
    · push Not at hfirst
      obtain ⟨i, hi, earlier, hearlier⟩ := hfirst
      obtain ⟨first, hle, hfound⟩ := ih i hi hearlier
      exact ⟨first, Nat.le_trans hle (Nat.le_of_lt hi), hfound⟩

/-! ## Tokens without obstacles -/

theorem exists_readsAs {pair : String × String} (h : settings.Fits pair) :
    ∃ operand, settings.ReadsAs pair operand := by
  obtain ⟨rule, operand, hrule, hdecode⟩ := h.exists_operand
  exact ⟨operand, rule, hrule, decodeOperand_eq_some_iff.mp hdecode⟩

theorem exists_operands {pairs : List (String × String)} (h : ∀ pair ∈ pairs, settings.Fits pair) :
    ∃ operands, List.Forall₂ settings.ReadsAs pairs operands := by
  induction pairs with
  | nil => exact ⟨[], .nil⟩
  | cons pair rest ih =>
    obtain ⟨hpair, hrest⟩ := List.forall_mem_cons.mp h
    obtain ⟨operand, hoperand⟩ := exists_readsAs hpair
    obtain ⟨operands, hoperands⟩ := ih hrest
    exact ⟨operand :: operands, .cons hoperand hoperands⟩

theorem readOperands_of_readsAs (mnemonic : String) {pairs : List (String × String)}
    {operands : List (Option String)} (h : List.Forall₂ settings.ReadsAs pairs operands) :
    readOperands settings.operandRule mnemonic pairs = .ok (.accepted operands) := by
  induction h with
  | nil => rfl
  | cons hpair _ ih =>
    obtain ⟨rule, hrule, hdecodes⟩ := hpair
    rw [← decodeOperand_eq_some_iff] at hdecodes
    simp only [readOperands, Settings.operandRule, hrule, hdecodes, ih]

/-! ## Outcomes -/

theorem Outcome.read_eq (h : form.Outcome settings tokens lineNumber text outcome) :
    form.read settings.operandRule tokens lineNumber text = outcome := by
  cases h with
  | count hlength => exact read_of_refuses (.count hlength) lineNumber text
  | obstacle hlength hfirst => exact hfirst.read_eq hlength
  | accepted hlength hoperands =>
    rw [read_of_length hlength, readOperands_of_readsAs form.mnemonic hoperands]

theorem exists_outcome (settings : Settings) (form : InstructionForm α) (tokens : List String)
    (lineNumber : Int) (text : String) :
    ∃ outcome, form.Outcome settings tokens lineNumber text outcome := by
  by_cases hlength : tokens.length = form.operandTypes.length
  · rcases StopsAt.exists_or_all settings.Fits (tokens.zip form.operandTypes) with
      hall | ⟨pair, hstops⟩
    · obtain ⟨operands, hoperands⟩ := exists_operands hall
      exact ⟨_, .accepted hlength hoperands⟩
    · obtain ⟨j, outcome, hfirst⟩ := exists_firstObstacle hstops
      exact ⟨outcome, .obstacle hlength hfirst⟩
  · exact ⟨_, .count hlength⟩

theorem read_eq_iff : form.read settings.operandRule tokens lineNumber text = outcome ↔
    form.Outcome settings tokens lineNumber text outcome := by
  refine ⟨fun hread => ?_, Outcome.read_eq⟩
  obtain ⟨other, hother⟩ := exists_outcome settings form tokens lineNumber text
  rw [hother.read_eq] at hread
  exact hread ▸ hother

/-! ## What stands behind an obstacle -/

section Behind
variable {other : InstructionForm α} {others : List String}

/-- The tokens and types up to and with a position are the same. -/
structure AgreeUpTo (form other : InstructionForm α) (tokens others : List String) (j : Nat) :
    Prop where
  mnemonic_eq : other.mnemonic = form.mnemonic
  tokens_eq : others.take (j + 1) = tokens.take (j + 1)
  types_eq : other.operandTypes.take (j + 1) = form.operandTypes.take (j + 1)

theorem getElem?_eq_of_take_eq {β : Type} {items items' : List β}
    (h : items'.take (j + 1) = items.take (j + 1)) {i : Nat} (hi : i ≤ j) :
    items'[i]? = items[i]? := by
  have hget := congrArg (·[i]?) h
  simpa [List.getElem?_take, Nat.lt_succ_of_le hi] using hget

theorem AgreeUpTo.symm (h : AgreeUpTo form other tokens others j) :
    AgreeUpTo other form others tokens j :=
  ⟨h.mnemonic_eq.symm, h.tokens_eq.symm, h.types_eq.symm⟩

theorem AgreeUpTo.obstacleAt (h : AgreeUpTo form other tokens others j) {i : Nat} (hi : i ≤ j)
    (hobstacle : form.ObstacleAt settings tokens i outcome) :
    other.ObstacleAt settings others i outcome := by
  cases hobstacle with
  | noRule htype hnone =>
    exact .noRule ((getElem?_eq_of_take_eq h.types_eq hi).trans htype) hnone
  | badOperand htoken htype hrule hmisses =>
    rw [← h.mnemonic_eq]
    exact .badOperand ((getElem?_eq_of_take_eq h.tokens_eq hi).trans htoken)
      ((getElem?_eq_of_take_eq h.types_eq hi).trans htype) hrule hmisses

theorem AgreeUpTo.firstObstacle (h : AgreeUpTo form other tokens others j) {i : Nat} (hi : i ≤ j)
    (hfirst : form.FirstObstacle settings tokens i outcome) :
    other.FirstObstacle settings others i outcome :=
  ⟨h.obstacleAt hi hfirst.1, fun k hk earlier hearlier =>
    hfirst.2 k hk earlier (h.symm.obstacleAt (by omega) hearlier)⟩

end Behind

/-- Reading tokens reports the first obstacle and nothing else. Tokens in a wrong number are refused
for it, whatever they are; else the first obstacle makes the outcome, and it is a fault of the
configuration or a refusal that names the token and the type. Without an obstacle an instruction
comes of the tokens, with an operand from the leftmost match in each. Tokens and types behind an
obstacle may be replaced by as many others. -/
theorem first_obstacle_settles_reading (settings : Settings) (form : InstructionForm α)
    (tokens : List String) (lineNumber : Int) (text : String) :
    (∀ outcome, form.read settings.operandRule tokens lineNumber text = outcome ↔
      form.Outcome settings tokens lineNumber text outcome) ∧
    (∀ fault, form.read settings.operandRule tokens lineNumber text = .error fault →
      fault.kind = .configuration) ∧
    ∀ (other : InstructionForm α) (others : List String) (j : Nat),
      tokens.length = form.operandTypes.length → others.length = other.operandTypes.length →
      AgreeUpTo form other tokens others j →
      (∃ outcome, form.ObstacleAt settings tokens j outcome) →
      other.read settings.operandRule others lineNumber text =
        form.read settings.operandRule tokens lineNumber text := by
  refine ⟨fun outcome => read_eq_iff, fun fault hread => ?_, ?_⟩
  · obtain ⟨operandType, -, rfl⟩ := read_failed_iff.mp hread
    rfl
  · rintro other others j hlength hlength' hagree ⟨outcome, hobstacle⟩
    obtain ⟨i, hi, first, hfirst⟩ := hobstacle.exists_first
    rw [hfirst.read_eq hlength, (hagree.firstObstacle hi hfirst).read_eq hlength']

/-- A register that is none stands in front of a type without a rule. What comes of the tokens is
the problem of the register, as if the type behind it had a rule and another token. -/
theorem bad_register_hides_missing_rule :
    let form : InstructionForm Nat := ⟨"mov", ["reg", "float"], some 1⟩
    let other : InstructionForm Nat := ⟨"mov", ["reg", "imm"], none⟩
    AgreeUpTo form other ["1", "2"] ["1", "3"] 0 ∧
      (∃ outcome, form.ObstacleAt .standard ["1", "2"] 0 outcome) ∧
      form.read Settings.standard.operandRule ["1", "2"] 4 "mov" =
        .ok (.refused (.badOperand "mov" "1" "reg")) ∧
      other.read Settings.standard.operandRule ["1", "3"] 4 "mov" =
        .ok (.refused (.badOperand "mov" "1" "reg")) := by
  intro form other
  obtain ⟨houtcome, -, hbehind⟩ :=
    first_obstacle_settles_reading .standard form ["1", "2"] 4 "mov"
  have hmisses : Misses Settings.registerPattern.body [] "1".toList :=
    Pattern.find?_eq_none_iff.mp (by decide +kernel)
  have hobstacle : form.ObstacleAt .standard ["1", "2"] 0
      (.ok (.refused (.badOperand "mov" "1" "reg"))) := .badOperand rfl rfl rfl hmisses
  have hread := (houtcome _).mpr (.obstacle rfl ⟨hobstacle, fun i hi => absurd hi (by omega)⟩)
  have hagree : AgreeUpTo form other ["1", "2"] ["1", "3"] 0 := ⟨rfl, rfl, rfl⟩
  refine ⟨hagree, ⟨_, hobstacle⟩, hread, ?_⟩
  exact (hbehind other ["1", "3"] 0 rfl rfl hagree ⟨_, hobstacle⟩).trans hread

end InstructionForm
end AsmKit
