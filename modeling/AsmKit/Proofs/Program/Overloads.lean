import AsmKit.Proofs.Program.Alike
import AsmKit.Proofs.Program.Extending
import AsmKit.Proofs.Settings.OperandRules
import AsmKit.Proofs.Settings.Resolving

/-! # Overloads that the standard operand types tell apart

No text is both a number and a name. So of forms that have a number where the
others have a register or a label at most one accepts given tokens, and then
the order of the forms cannot matter: it shows in nothing but the order in
which the problems of a refused line are reported. -/
namespace AsmKit

namespace Settings

/-- One of two types is that of numbers, and the other one is of names. -/
def NumberAgainstName (operandType other : String) : Prop :=
  operandType = "imm" ∧ (other = "reg" ∨ other = "label") ∨
    other = "imm" ∧ (operandType = "reg" ∨ operandType = "label")

/-- No text is a word of both types. -/
theorem NumberAgainstName.not_both {operandType other : String}
    (h : NumberAgainstName operandType other) {cs : List Char}
    (hcs : isOperand operandType cs = true) : isOperand other cs = false := by
  rcases h with ⟨rfl, hother⟩ | ⟨rfl, htype⟩
  · exact isOperand_of_number hother hcs
  · rw [← Bool.not_eq_true]
    intro hnumber
    rw [isOperand_of_number htype hnumber] at hcs
    cases hcs

end Settings

open Settings
variable {α : Type}

namespace InstructionForm
variable {form other : InstructionForm α} {tokens : List String}

/-- Somewhere one form has a number where the other has a register or a label. -/
def ToldApart (form other : InstructionForm α) : Prop :=
  ∃ (index : Nat) (operandType otherType : String),
    form.operandTypes[index]? = some operandType ∧ other.operandTypes[index]? = some otherType ∧
      NumberAgainstName operandType otherType

/-- A form of standard types accepts words of its types, one for each. -/
theorem words_of_accepts (h : ∀ operandType ∈ form.operandTypes, operandType ∈ standardTypes)
    (haccepts : form.accepts standard tokens = true) :
    tokens.length = form.arity ∧ ∀ (index : Nat) (operandType : String),
      form.operandTypes[index]? = some operandType → ∃ token, tokens[index]? = some token ∧
        isOperand operandType (Text.chomp token.toList) = true := by
  obtain ⟨instruction, hread⟩ := (form.accepts_iff standard tokens 0 "").mp haccepts
  unfold InstructionForm.read at hread
  split at hread
  · cases hread
  · rename_i hlength
    have hlength : tokens.length = form.arity := by simpa using hlength
    refine ⟨hlength, ?_⟩
    have htypes : ∀ pair ∈ tokens.zip form.operandTypes, pair.2 ∈ standardTypes :=
      fun pair hpair => h _ (List.of_mem_zip hpair).2
    rcases readOperands_standard form.mnemonic htypes with ⟨problem, hrefused⟩ | ⟨hwords, -⟩
    · rw [hrefused] at hread
      cases hread
    · intro index operandType htype
      obtain ⟨hindex, -⟩ := List.getElem?_eq_some_iff.mp htype
      have hindex : index < tokens.length := by
        rw [hlength]
        exact hindex
      have htoken : tokens[index]? = some tokens[index] := List.getElem?_eq_getElem hindex
      refine ⟨_, htoken, hwords (tokens[index], operandType) ?_⟩
      exact List.mem_of_getElem? (List.getElem?_zip_eq_some.mpr ⟨htoken, htype⟩)

/-- Two forms of one mnemonic that accept no tokens in common. -/
def Exclusive (form other : InstructionForm α) : Prop :=
  form.mnemonic = other.mnemonic → ∀ tokens,
    ¬ (form.accepts standard tokens = true ∧ other.accepts standard tokens = true)

theorem Exclusive.symm (h : form.Exclusive other) : other.Exclusive form :=
  fun hname tokens hboth => h hname.symm tokens hboth.symm

/-- Forms that differ in arity, or are told apart, accept no tokens in common. -/
theorem exclusive_of_toldApart
    (hform : ∀ operandType ∈ form.operandTypes, operandType ∈ standardTypes)
    (hother : ∀ operandType ∈ other.operandTypes, operandType ∈ standardTypes)
    (h : form.mnemonic = other.mnemonic → form.arity = other.arity → form.ToldApart other) :
    form.Exclusive other := by
  intro hname tokens hboth
  obtain ⟨haccepts, haccepts'⟩ := hboth
  obtain ⟨hlength, hwords⟩ := words_of_accepts hform haccepts
  obtain ⟨hlength', hwords'⟩ := words_of_accepts hother haccepts'
  obtain ⟨index, operandType, otherType, htype, htype', happart⟩ :=
    h hname (hlength.symm.trans hlength')
  obtain ⟨token, htoken, hword⟩ := hwords index operandType htype
  obtain ⟨token', htoken', hword'⟩ := hwords' index otherType htype'
  cases htoken.symm.trans htoken'
  rw [happart.not_both hword] at hword'
  cases hword'

end InstructionForm

namespace Program
variable {forms others : List (InstructionForm α)}

section Standard
variable (hforms : ∀ form ∈ forms, ∀ operandType ∈ form.operandTypes, operandType ∈ standardTypes)
include hforms

/-- Where forms exclude one another, one that accepts the tokens answers, wherever it stands. -/
theorem resolve_of_exclusive (hexclusive : forms.Pairwise InstructionForm.Exclusive)
    {form : InstructionForm α} (hmem : form ∈ forms) {tokens : List String}
    (haccepts : form.accepts standard tokens = true) (lineNumber : Nat) (line : String) :
    resolve forms standard lineNumber line form.mnemonic tokens =
      .ok (.ok ⟨lineNumber, line, form.mnemonic, tokens.map standardOperand, form.executor⟩) := by
  obtain ⟨earlier, later, rfl⟩ := List.append_of_mem hmem
  obtain ⟨-, hread⟩ := read_of_accepts (hforms form hmem) haccepts
  refine FormSearch.answer_of_first ?_ rfl (hread lineNumber line)
  intro other hother hname
  have hapart := (List.pairwise_append.mp hexclusive).2.2 other hother form List.mem_cons_self
  have hnot : other.accepts standard tokens = false := by
    rw [← Bool.not_eq_true]
    exact fun haccepts' => hapart hname tokens ⟨haccepts', haccepts⟩
  exact read_of_not_accepts (hforms other (List.mem_append_left _ hother)) hnot lineNumber line

/-- Where no form accepts the tokens, the answer has the problems of all forms of the mnemonic. -/
theorem resolve_of_refused {mnemonic : String} {tokens : List String}
    (hrefused : ∀ form ∈ forms, form.mnemonic = mnemonic → form.accepts standard tokens = false)
    (lineNumber : Nat) (line : String) :
    resolve forms standard lineNumber line mnemonic tokens =
      .ok (.error (FormSearch.reported mnemonic
        ((forms.filter fun form => form.mnemonic == mnemonic).filterMap
          (InstructionForm.refusal? standard.operandRule tokens lineNumber line)))) := by
  have hall : ∀ form ∈ forms, form.mnemonic = mnemonic →
      (form.refusal? standard.operandRule tokens lineNumber line).isSome := by
    intro form hmem hname
    obtain ⟨problem, hread⟩ :=
      read_of_not_accepts (hforms form hmem) (hrefused form hmem hname) lineNumber line
    exact Option.isSome_iff_exists.mpr ⟨problem, InstructionForm.refusal?_eq_some_iff.mpr hread⟩
  obtain ⟨hchoice, hproblems⟩ := FormSearch.run_of_refused hall
  rw [resolve, FormSearch.answer, hchoice, FormSearch.problems_eq, hproblems]

/-- In another order, forms that exclude one another make the same of every statement, up to the
order of its problems. -/
theorem resolve_perm (hexclusive : forms.Pairwise InstructionForm.Exclusive)
    (hperm : forms.Perm others) (lineNumber : Nat) (line mnemonic : String)
    (tokens : List String) : AnswersAlike Eq List.Perm
      (resolve forms standard lineNumber line mnemonic tokens)
      (resolve others standard lineNumber line mnemonic tokens) := by
  have hothers : ∀ form ∈ others, ∀ operandType ∈ form.operandTypes,
      operandType ∈ standardTypes := fun form hmem => hforms form (hperm.mem_iff.mpr hmem)
  by_cases haccepted : ∃ form ∈ forms, form.mnemonic = mnemonic ∧
      form.accepts standard tokens = true
  · obtain ⟨form, hmem, rfl, haccepts⟩ := haccepted
    have hexclusive' := (hperm.pairwise_iff fun h => h.symm).mp hexclusive
    rw [resolve_of_exclusive hforms hexclusive hmem haccepts,
      resolve_of_exclusive hothers hexclusive' (hperm.mem_iff.mp hmem) haccepts]
    exact .found rfl
  · have hrefused : ∀ form ∈ forms, form.mnemonic = mnemonic →
        form.accepts standard tokens = false := by
      intro form hmem hname
      rw [← Bool.not_eq_true]
      exact fun haccepts => haccepted ⟨form, hmem, hname, haccepts⟩
    rw [resolve_of_refused hforms hrefused, resolve_of_refused hothers fun form hmem =>
      hrefused form (hperm.mem_iff.mpr hmem)]
    exact .refused (FormSearch.reported_perm mnemonic ((hperm.filter _).filterMap _))

end Standard

/-- Under the standard settings, let forms of one mnemonic and arity be told apart by a number
against a register or a label. Then at most one form of a mnemonic accepts given tokens, and every
text is read by the forms in any order as the same program, executors included; the reading is
complete in any order, or stops at the same line with the same problems up to their order. -/
theorem overloads_read_in_any_order [Text.CharacterNames]
    (hforms : ∀ form ∈ forms, ∀ operandType ∈ form.operandTypes, operandType ∈ standardTypes)
    (happart : forms.Pairwise fun form other =>
      form.mnemonic = other.mnemonic → form.arity = other.arity → form.ToldApart other) :
    ∃ settings, Overrides.none.resolve = .ok settings ∧
      (∀ (i j : Nat) (form other : InstructionForm α) (tokens : List String),
        forms[i]? = some form → forms[j]? = some other → form.mnemonic = other.mnemonic →
        form.accepts settings tokens = true → other.accepts settings tokens = true → i = j) ∧
      ∀ (others : List (InstructionForm α)) (text : List Char), forms.Perm others →
        ∃ report report' later,
          read forms settings (.text (.ofText settings text)) = .ok (report, later) ∧
          read others settings (.text (.ofText settings text)) = .ok (report', later) ∧
          report.program = report'.program ∧
          (report.ending = .complete ∧ report'.ending = .complete ∨
            ∃ bad bad', report.ending = .stopped bad ∧ report'.ending = .stopped bad' ∧
              bad.lineNumber = bad'.lineNumber ∧ bad.text = bad'.text ∧
              bad.problems.Perm bad'.problems) := by
  have hexclusive : forms.Pairwise InstructionForm.Exclusive := by
    refine List.Pairwise.imp_of_mem ?_ happart
    intro form other hform hother
    exact InstructionForm.exclusive_of_toldApart (hforms form hform) (hforms other hother)
  refine ⟨standard, resolve_none, ?_, ?_⟩
  · intro i j form other tokens hi hj hname haccepts haccepts'
    obtain ⟨hilt, rfl⟩ := List.getElem?_eq_some_iff.mp hi
    obtain ⟨hjlt, rfl⟩ := List.getElem?_eq_some_iff.mp hj
    have hpairs := List.pairwise_iff_getElem.mp hexclusive
    rcases Nat.lt_trichotomy i j with hlt | heq | hlt
    · exact absurd ⟨haccepts, haccepts'⟩ (hpairs i j hilt hjlt hlt hname tokens)
    · exact heq
    · exact absurd ⟨haccepts', haccepts⟩ (hpairs j i hjlt hilt hlt hname.symm tokens)
  · intro others text hperm
    have hresolve := resolve_perm hforms hexclusive hperm
    rcases read_alike hresolve List.Perm.refl (.text (.ofText standard text)) with
      ⟨fault, hfault, -⟩ | ⟨report, report', later, hread, hread', hprogram, hending⟩
    · rw [read_text] at hfault
      cases hfault
    · refine ⟨report, report', later, hread, hread', hprogram.eq, hending.of_not_failed ?_⟩
      intro fault hfailed
      rw [read_text] at hread
      obtain ⟨rfl, -⟩ := Prod.mk.inj (Except.ok.inj hread)
      obtain ⟨form, hmem, operandType, htype, hrule⟩ := exists_rule_of_readLines hfailed
      obtain ⟨rule, hstandard, -⟩ := exists_standard_rule (hforms form hmem operandType htype)
      cases hstandard.symm.trans hrule

section
open scoped Text.Nameless

/-- A push of a number and a push of a register or of a label, in either order. The last line fits
neither. -/
theorem pushes_read_in_either_order :
    let number : InstructionForm Nat := ⟨"push", ["imm"], some 1⟩
    let register : InstructionForm Nat := ⟨"push", ["reg"], some 2⟩
    let text := "push 1\npush a\npush a b".toList
    number.ToldApart register ∧ ∃ report report' later,
      read [number, register] .standard (.text (.ofText .standard text)) = .ok (report, later) ∧
      read [register, number] .standard (.text (.ofText .standard text)) = .ok (report', later) ∧
      report.program = report'.program ∧
      ∃ bad bad', report.ending = .stopped bad ∧ report'.ending = .stopped bad' ∧
        bad.lineNumber = 3 ∧ bad'.lineNumber = 3 ∧ bad.problems.Perm bad'.problems := by
  intro number register text
  have happart : number.ToldApart register := ⟨0, "imm", "reg", rfl, rfl, .inl ⟨rfl, .inl rfl⟩⟩
  refine ⟨happart, ?_⟩
  have htypes : ∀ form ∈ [number, register], ∀ operandType ∈ form.operandTypes,
      operandType ∈ standardTypes := by decide
  obtain ⟨settings, hsettings, -, hread⟩ :=
    overloads_read_in_any_order htypes (by simpa using fun _ _ => happart)
  cases resolve_none.symm.trans hsettings
  obtain ⟨report, report', later, hreport, hreport', hprogram, hending⟩ :=
    hread [register, number] text (List.Perm.swap register number [])
  refine ⟨report, report', later, hreport, hreport', hprogram, ?_⟩
  have hstopped : report.ending = .stopped
      ⟨3, "push a b", [.wrongCount "push" 1 2, .wrongCount "push" 1 2]⟩ := by
    rw [read_text] at hreport
    obtain ⟨rfl, -⟩ := Prod.mk.inj (Except.ok.inj hreport)
    decide +kernel
  rcases hending with ⟨hcomplete, -⟩ | ⟨bad, bad', hbad, hbad', hnumber, -, hproblems⟩
  · cases hstopped.symm.trans hcomplete
  · cases hstopped.symm.trans hbad
    exact ⟨_, bad', hstopped, hbad', rfl, hnumber.symm, hproblems⟩

end

end Program
end AsmKit
