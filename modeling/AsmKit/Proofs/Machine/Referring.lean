import AsmKit.Proofs.Machine.Step
import AsmKit.Proofs.Program.Normalized
import AsmKit.Proofs.Program.Rendering
import AsmKit.Proofs.Settings.Resolving

/-! # Labels as operands

Labels are defined by one rule and referred to by another. Under the standard
settings every label that is defined is a name, and a name is a token which
passes through the rules for comments, labels and separators as it is and is
accepted by the rule for label operands. So a line can refer to any label of a
program, and a jump to what the line refers to goes where the label is. -/
namespace AsmKit
open AsmKit.Settings
open AsmKit.Text
open AsmKit.TextSource (Plain Cut Settled clean_eq_self)

/-! ## Names -/

/-- What the label rule cuts off a line is a name. -/
theorem Settings.isName_of_labelOf {line name : String} (hplain : Plain line.toList)
    (h : standard.labelOf line = some name) : isName isNamePart name.toList = true := by
  by_cases hstarts : StartsWithLabel line.toList
  · obtain ⟨start, rest, hstart, hsplit⟩ := hstarts
    rw [labelOf, cutLabel_of_label hstart hsplit hplain.notMem_lineFeed] at h
    cases h
    rwa [String.toList_ofList]
  · rw [labelOf, cutLabel_of_unlabelled hstarts] at h
    cases h

/-! ## A line that refers to a name -/

/-- The line with a mnemonic and a name as its operand. -/
def referenceTo (mnemonic name : String) : String := mnemonic ++ " " ++ name

section Reference
variable {mnemonic name : String}

theorem toList_referenceTo : (referenceTo mnemonic name).toList =
    mnemonic.toList ++ ' ' :: name.toList := by
  simp [referenceTo]

section Tokens
variable (hmnemonic : IsToken mnemonic.toList) (hname : IsToken name.toList)
include hmnemonic hname

theorem trimmed_referenceTo : Trimmed (referenceTo mnemonic name).toList := by
  rw [toList_referenceTo]
  constructor
  · intro c hc
    cases hfirst : mnemonic.toList with
    | nil => exact absurd hfirst hmnemonic.1
    | cons d rest =>
      rw [hfirst] at hc
      cases hc
      exact hmnemonic.isBlank_eq_false (by rw [hfirst]; exact List.mem_cons_self)
  · intro c hc
    rw [List.getLast?_append, List.getLast?_cons_of_ne_nil hname.1,
      List.getLast?_eq_some_getLast hname.1, Option.some_or] at hc
    cases hc
    exact hname.isBlank_eq_false (List.getLast_mem hname.1)

theorem settled_referenceTo : Settled commentPattern (referenceTo mnemonic name) := by
  have hclear : Rendering.Clear (referenceTo mnemonic name).toList := by
    rw [toList_referenceTo]
    have hgap : Rendering.Clear [' '] := by
      rintro c hc
      rw [List.mem_singleton.mp hc]
      decide
    exact (Rendering.clear_of_isToken hmnemonic).append
      (hgap.append (Rendering.clear_of_isToken hname))
  exact ⟨hclear.plain, clean_eq_self hclear.plain.notMem_lineFeed (fun c hc => (hclear c hc).1)
    (trimmed_referenceTo hmnemonic hname)⟩

/-- The line has no label, and its words are the mnemonic and the name. -/
theorem words_referenceTo (hstart : ¬ StartsWithLabel mnemonic.toList) :
    standard.labelOf (referenceTo mnemonic name) = none ∧
      standard.statementOf (referenceTo mnemonic name) = [mnemonic, name] := by
  let line : Rendering.Line := { statement := some ⟨mnemonic, [name]⟩ }
  have hreadable : line.Readable := by
    refine ⟨nofun, ?_, fun _ word hword => ?_⟩
    · exact List.forall_mem_cons.mpr ⟨hmnemonic, List.forall_mem_singleton.mpr hname⟩
    · cases hword
      exact hstart
  have hwrites : Rendering.Writes line (referenceTo mnemonic name).toList := by
    have hbody : Rendering.WritesWords [mnemonic, name]
        (mnemonic.toList ++ ([' '] ++ (name.toList ++ ([] ++ [])))) :=
      .word (by decide) (fun _ => List.cons_ne_nil _ _)
        (.word nofun (fun h => absurd rfl h) (.gap nofun))
    have hline : Rendering.Writes line ([] ++ ([] ++ _) ++ []) := .line nofun .none hbody .none
    simpa [toList_referenceTo] using hline
  have heq := hreadable.line_eq hwrites
  have hclean : TextSource.clean standard.comment (referenceTo mnemonic name).toList =
      (referenceTo mnemonic name).toList := (settled_referenceTo hmnemonic hname).clean_eq
  rw [hclean, String.ofList_toList] at heq
  exact heq

end Tokens

variable {β : Type} {form : InstructionForm β}

/-- A form for labels takes a name as it is. -/
theorem read_label (htypes : form.operandTypes = ["label"])
    (hname : isName isNamePart name.toList = true) (lineNumber : Int) (text : String) :
    form.read standard.operandRule [name] lineNumber text = .ok (.accepted
      ⟨lineNumber, text, form.mnemonic, [some name], form.executor⟩) := by
  have htoken := isToken_of_isName isTokenChar_of_isNamePart hname
  have hfeed : '\n' ∉ name.toList :=
    (Rendering.clear_of_isToken htoken).plain.notMem_lineFeed
  have hword : isOperand "label" (chomp name.toList) = true := by
    rw [chomp_of_notMem hfeed]
    exact hname
  rw [read_word htypes (by decide), if_pos hword, standardOperand_of_notMem hfeed]

/-- The line is read as the instruction of the form with the name as its operand. -/
theorem slotOf_referenceTo (htypes : form.operandTypes = ["label"])
    (hmnemonic : IsToken form.mnemonic.toList) (hstart : ¬ StartsWithLabel form.mnemonic.toList)
    (hname : isName isNamePart name.toList = true) :
    Program.SlotOf [form] standard 1 (referenceTo form.mnemonic name)
      (some ⟨1, referenceTo form.mnemonic name, form.mnemonic, [some name], form.executor⟩) := by
  have htoken := isToken_of_isName isTokenChar_of_isNamePart hname
  obtain ⟨-, hstatement⟩ := words_referenceTo hmnemonic htoken hstart
  have hresolve : Program.resolve ([] ++ form :: []) standard 1 (referenceTo form.mnemonic name)
      form.mnemonic [name] = .ok (.ok
        ⟨1, referenceTo form.mnemonic name, form.mnemonic, [some name], form.executor⟩) :=
    FormSearch.answer_of_first nofun rfl (read_label htypes hname _ _)
  exact .filled hstatement hresolve rfl rfl

end Reference

namespace Machine
variable {α β σ : Type}

/-- Under the standard settings every label that a text defines can be referred to: a line with the
label behind the mnemonic of a form for labels is read as an instruction with this one operand, and
a jump to it goes to the line that defined the label. A label is never a text of digits, so that
it is not taken for a number. -/
theorem labels_can_be_referred_to [Text.CharacterNames] {forms : List (InstructionForm α)}
    {text : List Char} {report : Report α} {later : LineSource}
    (hread : Program.read forms standard (.text (.ofText standard text)) = .ok (report, later))
    {name : String} {label : Label} (hentry : (name, label) ∈ report.program.labels) :
    Overrides.none.resolve = .ok standard ∧
    (name ≠ "" ∧ name.toList.all isDigit = false) ∧
    (∃ (lines : List String) (index : Nat),
      LineSource.HandsOut (.text (.ofText standard text)) lines ∧
      Program.FirstLabelled standard lines name index ∧ label.location = index + 1 ∧
      ∀ (m : Machine α σ) (room : Nat), m.program = report.program →
        m.jump room (.text name) = (.ok none,
          { m.report (.jumped name label.location) with counter := label.location })) ∧
    ∀ form : InstructionForm β, form.operandTypes = ["label"] → IsToken form.mnemonic.toList →
      ¬ StartsWithLabel form.mnemonic.toList →
      ∃ (line : String) (alone : Report β) (behind : LineSource),
        line = form.mnemonic ++ " " ++ name ∧
        Program.read [form] standard (.text (.ofText standard line.toList)) =
          .ok (alone, behind) ∧
        alone.ending = .complete ∧ alone.program.lineCount = 1 ∧
        (∀ other, alone.program.label? other = none) ∧
        alone.program.slots = [some ⟨1, line, form.mnemonic, [some name], form.executor⟩] := by
  let lines := (TextSource.cutAll text).map (Cut.line standard.comment)
  have hcuts := TextSource.cutting_cutAll text
  have hhands : LineSource.HandsOut (.text (.ofText standard text)) lines :=
    LineSource.handsOut_of_cutting (.ofText standard text) hcuts
  have hreport : report = Program.readLines forms standard {} lines := Program.read_ofText hread
  obtain ⟨filled, placed, hreached⟩ := Program.readLines_reached forms standard lines
  rw [← hreport] at hreached
  obtain ⟨-, hlabel⟩ := hreached.labels.label?_of_mem hentry
  obtain ⟨index, hlocation, hplaced, hfirst⟩ := hreached.firstLabelled hlabel
  have hname : isName isNamePart name.toList = true := by
    obtain ⟨line, hline, hlabelled⟩ := hfirst.labelled
    obtain ⟨cut, hcut, rfl⟩ := List.mem_map.mp (List.mem_of_getElem? hline)
    exact isName_of_labelOf (LineSource.normal_line standard.comment (hcuts.plain cut hcut)).1
      hlabelled
  have htoken := isToken_of_isName isTokenChar_of_isNamePart hname
  refine ⟨resolve_none, ⟨?_, all_isDigit_of_isName hname⟩,
    ⟨lines, index, hhands, hfirst, hlocation, fun m room hprogram => ?_⟩,
    fun form htypes hmnemonic hstart => ?_⟩
  · rintro rfl
    exact htoken.1 rfl
  · have hcount := hreached.placed_le
    exact jump_label m room (by rw [hprogram]; exact hlabel) (by omega) (by rw [hprogram]; omega)
  · have hslot : Program.SlotOf [form] standard (0 + 1) (referenceTo form.mnemonic name) _ :=
      slotOf_referenceTo htypes hmnemonic hstart hname
    obtain ⟨hcomplete, hcount, hslots⟩ := Program.readLines_alone hslot
    have hsettled : Settled standard.comment (referenceTo form.mnemonic name) :=
      settled_referenceTo hmnemonic htoken
    obtain ⟨behind, halone⟩ :=
      Program.read_settledLine [form] standard hsettled hslot.ne_empty
    refine ⟨referenceTo form.mnemonic name, Program.readLines [form] standard {}
      [referenceTo form.mnemonic name], behind, rfl, halone, hcomplete, hcount, fun other => ?_,
      hslots⟩
    obtain ⟨hnone, -⟩ := words_referenceTo hmnemonic htoken hstart
    have hlabels := (Program.readLines_standsFor hcomplete).labels
    rw [← Option.not_isSome_iff_eq_none, hlabels.label?_isSome_iff]
    rintro ⟨line, hline, hlabelled⟩
    rw [List.mem_singleton.mp hline, hnone] at hlabelled
    cases hlabelled

section
open scoped Text.Nameless

/-- A label with a dot and a letter beyond ASCII, on the second line. -/
theorem dotted_label_can_be_referred_to :
    ∃ (report alone : Report Nat) (later behind : LineSource) (back : Machine Nat Unit),
      Program.read [⟨"nop", [], some 7⟩] standard
        (.text (.ofText standard "nop\nloop.é2: nop".toList)) = .ok (report, later) ∧
      ("loop.é2", ⟨"loop.é2", 2⟩) ∈ report.program.labels ∧
      ({ program := report.program, host := () } : Machine Nat Unit).jump 0 (.text "loop.é2") =
        (.ok none, back) ∧
      back.counter = 2 ∧
      Program.read [⟨"goto", ["label"], some 3⟩] standard
        (.text (.ofText standard "goto loop.é2".toList)) = .ok (alone, behind) ∧
      alone.program.slots = [some ⟨1, "goto loop.é2", "goto", [some "loop.é2"], some 3⟩] := by
  obtain ⟨report, later, hread, hlabels⟩ : ∃ (report : Report Nat) (later : LineSource),
      Program.read [⟨"nop", [], some 7⟩] standard
        (.text (.ofText standard "nop\nloop.é2: nop".toList)) = .ok (report, later) ∧
      report.program.labels = [("loop.é2", ⟨"loop.é2", 2⟩)] :=
    ⟨_, _, Program.read_text _ _ _, by decide +kernel⟩
  have hentry : ("loop.é2", (⟨"loop.é2", 2⟩ : Label)) ∈ report.program.labels := by
    rw [hlabels]
    exact List.mem_cons_self
  obtain ⟨-, -, ⟨lines, index, -, -, -, hjump⟩, hrefer⟩ :=
    labels_can_be_referred_to (β := Nat) (σ := Unit) hread hentry
  have hstart : ¬ StartsWithLabel "goto".toList := by
    rintro ⟨name, rest, -, hsplit⟩
    have hcolon : ':' ∈ "goto".toList := by rw [hsplit]; simp
    revert hcolon
    decide
  obtain ⟨line, alone, behind, rfl, halone, -, -, -, hslots⟩ :=
    hrefer ⟨"goto", ["label"], some 3⟩ rfl (by decide +kernel) hstart
  exact ⟨report, alone, later, behind, _, hread, hentry,
    hjump { program := report.program, host := () } 0 rfl, rfl, halone, hslots⟩

end

end Machine
end AsmKit
