import AsmKit.Proofs.Pattern.Carrying
import AsmKit.Proofs.Program.Joining
import AsmKit.Proofs.Settings.LineRules
import AsmKit.Proofs.Source.Readings
import Mathlib.Data.List.TakeWhile

/-! # Lines that are read again

With the standard comment rule a source hands out lines with nothing left to
clean: written down one below the other, they are handed out again as they are,
and so they are read as before. A line with an instruction can also be read
alone, under any label rule, since the empty line never holds an instruction. -/
namespace AsmKit
open AsmKit.Settings
open AsmKit.Text
variable {α : Type}

namespace TextSource

/-- A text of lines, each with a line feed behind it. -/
def written (lines : List String) : List Char := lines.flatMap fun line => line.toList ++ ['\n']

/-- A line that a source with this comment rule hands out as it is. -/
structure Settled (comment : Pattern) (line : String) : Prop where
  plain : Plain line.toList
  clean_eq : clean comment line.toList = line.toList

section Cleaning
variable {comment : Pattern}

theorem clean_eq_self {cs : List Char} (hfeed : '\n' ∉ cs)
    (hmark : ∀ c ∈ cs, isCommentMark c = false) (htrimmed : Trimmed cs) :
    clean commentPattern cs = cs := by
  have hkept : cs.takeWhile (!isCommentMark ·) = cs :=
    List.takeWhile_eq_self_iff.mpr fun c hc => by rw [hmark c hc]; rfl
  rw [clean_comment hfeed, hkept, htrimmed.trim_eq]

/-- A line that was cleaned by the standard rule has no comment and no blank at its ends. -/
theorem clean_clean {cs : List Char} (h : '\n' ∉ cs) :
    clean commentPattern (clean commentPattern cs) = clean commentPattern cs := by
  have htrimmed : Trimmed (clean commentPattern cs) := by
    rw [clean_comment h]
    exact trimmed_trim _
  refine clean_eq_self (fun hmem => ?_) (isCommentMark_of_mem_clean h) htrimmed
  rw [clean_comment h] at hmem
  exact h ((List.takeWhile_sublist _).subset ((trim_sublist _).subset hmem))

/-- Whatever line of a text it is, the standard rule leaves nothing in it to clean. -/
theorem settled_standardLine {cut : Cut} (h : Plain cut.piece) :
    Settled commentPattern (cut.line commentPattern) where
  plain := (LineSource.normal_line commentPattern h).1
  clean_eq := by
    rw [Cut.line, String.toList_ofList]
    exact clean_clean h.notMem_lineFeed

/-! ## Lines in a text -/

theorem Settled.line_eq {line : String} (h : Settled comment line) (ending : List Char) :
    Cut.line comment ⟨line.toList, ending⟩ = line := by
  rw [Cut.line, h.clean_eq, String.ofList_toList]

/-- A text of settled lines falls into these lines. -/
theorem cutting_written {lines : List String} (h : ∀ line ∈ lines, Settled comment line) :
    ∃ cuts, Cutting (written lines) cuts ∧ cuts.map (Cut.line comment) = lines := by
  induction lines with
  | nil => exact ⟨[], .nothing, rfl⟩
  | cons line rest ih =>
    obtain ⟨hline, hrest⟩ := List.forall_mem_cons.mp h
    obtain ⟨cuts, hcuts, hlines⟩ := ih hrest
    refine ⟨⟨line.toList, ['\n']⟩ :: cuts, .line hline.plain (.lineFeed _) hcuts, ?_⟩
    rw [List.map_cons, hlines, hline.line_eq]

end Cleaning
end TextSource
open TextSource

/-! ## Lines without text -/

/-- No label rule finds more in the empty line than the line has. -/
theorem Settings.statementOf_empty (settings : Settings) : settings.statementOf "" = [] := by
  have hrest : (settings.cutLabel "").2 = "" := by
    unfold cutLabel
    split
    · rfl
    · rename_i pattern _
      split
      · rfl
      · rename_i found hfound
        cases hgroup : found.group? 2 with
        | none => rfl
        | some text =>
          rw [Pattern.group?_of_findAtStart?_nil hfound hgroup]
          rfl
  unfold statementOf
  simp [hrest]

namespace Program
variable {forms : List (InstructionForm α)} {settings rules : Settings}

/-! ## One line alone -/

/-- What the forms make of a line does not depend on where it stands. -/
theorem SlotOf.resolve_first {index : Nat} {line : String} {instruction : Instruction α}
    (h : SlotOf forms settings (index + 1) line (some instruction)) :
    ∃ mnemonic tokens, settings.statementOf line = mnemonic :: tokens ∧
      resolve forms settings 1 line mnemonic tokens =
        .ok (.ok { instruction with lineNumber := 1 }) := by
  cases h with
  | @filled mnemonic tokens _ hstatement hresolve hnumber htext =>
    refine ⟨mnemonic, tokens, hstatement, ?_⟩
    rw [resolve_moveDown] at hresolve
    rcases hfirst : resolve forms settings 1 line mnemonic tokens with fault | problems | first
    · rw [hfirst] at hresolve; cases hresolve
    · rw [hfirst] at hresolve; cases hresolve
    · rw [hfirst] at hresolve
      cases hresolve
      obtain ⟨hone, -⟩ := FormSearch.answer_instruction hfirst
      obtain ⟨number, text, mnemonic, operands, executor⟩ := first
      cases hone
      rfl

theorem SlotOf.ne_empty {index : Nat} {line : String} {instruction : Instruction α}
    (h : SlotOf forms settings (index + 1) line (some instruction)) : line ≠ "" := by
  rintro rfl
  obtain ⟨mnemonic, tokens, hstatement, -⟩ := h.resolve_first
  rw [settings.statementOf_empty] at hstatement
  cases hstatement

/-- A line that holds an instruction holds it alone. -/
theorem readLines_alone {index : Nat} {line : String} {instruction : Instruction α}
    (h : SlotOf forms settings (index + 1) line (some instruction)) :
    (readLines forms settings {} [line]).ending = .complete ∧
      (readLines forms settings {} [line]).program.lineCount = 1 ∧
      (readLines forms settings {} [line]).program.slots =
        [some { instruction with lineNumber := 1 }] := by
  obtain ⟨mnemonic, tokens, hstatement, hresolve⟩ := h.resolve_first
  have hfresh : ¬ Repeats settings [] line := fun ⟨_, _, _, hmem, _⟩ => nomatch hmem
  have hstands := standsFor_nil (α := α) forms settings
  obtain ⟨hcount, hslots, -⟩ := hstands.begin hfresh
  let begun : Program α := begin settings line {}
  let alone : Program α := ⟨[some { instruction with lineNumber := 1 }], begun.labels, 1⟩
  have hline : (readLine forms settings {} line).1 = .next alone := by
    rw [readLine_of_fresh hstands hfresh, readStatement_fst, hstatement, hcount]
    simp only [List.length_nil, Nat.zero_add, hresolve, hslots, List.nil_append, alone, begun]
  have hread : result (readLines forms settings {} [line]) = (alone, .complete) := by
    rw [result_readLines_cons, hline]
    rfl
  obtain ⟨hprogram, hending⟩ := Prod.mk.inj hread
  refine ⟨hending, ?_, ?_⟩
  · rw [hprogram]
  · rw [hprogram]

/-! ## Texts -/

theorem read_of_cutting (forms : List (InstructionForm α)) (settings : Settings)
    {text : List Char} {cuts : List Cut} {lines : List String} (h : Cutting text cuts)
    (hlines : cuts.map (Cut.line rules.comment) = lines) :
    LineSource.HandsOut (.text (.ofText rules text)) lines ∧
      ∃ later, read forms settings (.text (.ofText rules text)) =
        .ok (readLines forms settings {} lines, later) := by
  subst hlines
  have hdrain := drain_of_cutting (.ofText rules text) h
  exact ⟨LineSource.handsOut_of_cutting (.ofText rules text) h, _, by rw [read_text, hdrain]; rfl⟩

/-- A settled line is a text of one line, unless it is empty. -/
theorem read_settledLine (forms : List (InstructionForm α)) (settings : Settings) {line : String}
    (h : Settled rules.comment line) (hne : line ≠ "") :
    ∃ later, read forms settings (.text (.ofText rules line.toList)) =
      .ok (readLines forms settings {} [line], later) := by
  have hsome : line.toList ≠ [] := fun hnil => hne (String.toList_eq_nil_iff.mp hnil)
  refine (read_of_cutting forms settings (.last hsome h.plain) ?_).2
  rw [List.map_singleton, h.line_eq]

/-- With the standard comment rule, a text of the lines that a source hands out is read like the
text of the source: its lines are the same, and so is all that is read from them. A line with an
instruction is read alone as the same instruction, on line one. The other rules may be any. -/
theorem read_normalized (forms : List (InstructionForm α)) (settings : Settings)
    {rules : Settings} (hcomment : rules.comment = standard.comment) (text : List Char) :
    ∃ (lines : List String) (report : Report α) (later again : LineSource),
      LineSource.HandsOut (.text (.ofText rules text)) lines ∧
      read forms settings (.text (.ofText rules text)) = .ok (report, later) ∧
      LineSource.HandsOut (.text (.ofText rules (written lines))) lines ∧
      read forms settings (.text (.ofText rules (written lines))) = .ok (report, again) ∧
      ∀ instruction, some instruction ∈ report.program.slots →
        ∃ (alone : Report α) (behind : LineSource),
          read forms settings (.text (.ofText rules instruction.text.toList)) =
            .ok (alone, behind) ∧
          alone.ending = .complete ∧ alone.program.lineCount = 1 ∧
          alone.program.slots = [some { instruction with lineNumber := 1 }] := by
  have hrule : rules.comment = commentPattern := hcomment
  let lines := (cutAll text).map (Cut.line rules.comment)
  have hsettled : ∀ line ∈ lines, Settled rules.comment line := by
    intro line hline
    obtain ⟨cut, hcut, rfl⟩ := List.mem_map.mp hline
    rw [hrule]
    exact settled_standardLine ((cutting_cutAll text).plain cut hcut)
  obtain ⟨hhands, later, hread⟩ := read_of_cutting forms settings (cutting_cutAll text)
    (rfl : (cutAll text).map (Cut.line rules.comment) = lines)
  obtain ⟨cuts, hcuts, hlines⟩ := cutting_written hsettled
  obtain ⟨hhandsAgain, again, hreadAgain⟩ := read_of_cutting forms settings hcuts hlines
  refine ⟨lines, readLines forms settings {} lines, later, again, hhands, hread, hhandsAgain,
    hreadAgain, fun instruction hmem => ?_⟩
  obtain ⟨filled, placed, hreached⟩ := readLines_reached forms settings lines
  obtain ⟨index, hslot⟩ := List.mem_iff_getElem?.mp hmem
  obtain ⟨line, hline, hholds⟩ := hreached.slotOf hslot
  have htext : instruction.text = line := by
    cases hholds with
    | filled _ _ _ htext => exact htext
  obtain ⟨behind, halone⟩ := read_settledLine forms settings
    (hsettled line (List.mem_of_getElem? hline)) hholds.ne_empty
  exact ⟨readLines forms settings {} [line], behind, by rw [htext]; exact halone,
    readLines_alone hholds⟩

/-- A text with comments, blanks and line ends of all kinds, where labels are off. -/
theorem untidy_text_reads_as_its_lines :
    let rules : Settings := { standard with label := none }
    let forms : List (InstructionForm Nat) := [⟨"nop", [], some 7⟩]
    rules.comment = standard.comment ∧
      ∃ (report alone : Report Nat) (later again behind : LineSource),
        read forms rules (.text (.ofText rules " nop ; a\r\n\t#\rnop ,".toList)) =
          .ok (report, later) ∧
        read forms rules (.text (.ofText rules "nop\n\nnop ,\n".toList)) = .ok (report, again) ∧
        some ⟨3, "nop ,", "nop", [], some 7⟩ ∈ report.program.slots ∧
        read forms rules (.text (.ofText rules "nop ,".toList)) = .ok (alone, behind) ∧
        alone.program.slots = [some ⟨1, "nop ,", "nop", [], some 7⟩] := by
  intro rules forms
  let text := " nop ; a\r\n\t#\rnop ,".toList
  obtain ⟨lines, report, later, again, hhands, hread, -, hagain, halone⟩ :=
    read_normalized forms rules (rfl : rules.comment = standard.comment) text
  have hcleaned : (cutAll text).map (Cut.line rules.comment) = ["nop", "", "nop ,"] := by
    decide +kernel
  have hlines : lines = ["nop", "", "nop ,"] := by
    rw [← hcleaned]
    exact hhands.unique (LineSource.handsOut_of_cutting _ (cutting_cutAll text))
  subst hlines
  have hreport : report = readLines forms rules {} ["nop", "", "nop ,"] := by
    rw [read_ofText hread, hcleaned]
  have hslots : report.program.slots =
      [some ⟨1, "nop", "nop", [], some 7⟩, none, some ⟨3, "nop ,", "nop", [], some 7⟩] := by
    rw [hreport]
    decide +kernel
  have hmem : some ⟨3, "nop ,", "nop", [], some 7⟩ ∈ report.program.slots := by
    rw [hslots]
    exact .tail _ (.tail _ (.head _))
  obtain ⟨alone, behind, hreadAlone, -, -, hslot⟩ := halone _ hmem
  exact ⟨rfl, report, alone, later, again, behind, hread, hagain, hmem, hreadAlone, hslot⟩

end Program
end AsmKit
