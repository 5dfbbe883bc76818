import AsmKit.Source.File
import AsmKit.Proofs.Program.Reached
import AsmKit.Proofs.Source.Readings
import AsmKit.Proofs.Text.Utf8

/-! # A file is read as the text in it

Reading a file turns its line ends into line feeds before the text is cut into
lines. The cuts fall in the same places as those of the text itself, so a file
and its text hand out the same lines, and the same program is read from both. -/
namespace AsmKit

namespace TextSource
open FileTree (unifyLineEnds)

/-- The line as it stands in a text with unified line ends. -/
def Cut.unified (cut : Cut) : Cut := ⟨cut.piece, if cut.ending.isEmpty then [] else ['\n']⟩

theorem unifyLineEnds_cons {c : Char} (hr : c ≠ '\r') (rest : List Char) :
    unifyLineEnds (c :: rest) = c :: unifyLineEnds rest := by
  rw [unifyLineEnds]
  · exact fun _ heq => absurd heq hr
  · exact hr

/-- Where no line ends with a carriage return there is nothing to unify. -/
theorem unifyLineEnds_eq_self {text : List Char} (h : '\r' ∉ text) :
    unifyLineEnds text = text := by
  induction text with
  | nil => rfl
  | cons c rest ih =>
    obtain ⟨hc, hrest⟩ := not_or.mp (mt List.mem_cons.mpr h)
    rw [unifyLineEnds_cons (Ne.symm hc), ih hrest]

theorem cutAll_cons {c : Char} (hr : c ≠ '\r') (hn : c ≠ '\n') (rest : List Char) :
    cutAll (c :: rest) =
      match cutAll rest with
      | [] => [⟨[c], []⟩]
      | cut :: more => ⟨c :: cut.piece, cut.ending⟩ :: more := by
  exact cutAll.eq_5 c rest (fun _ heq => absurd heq hr) hr hn

theorem cutAll_unifyLineEnds (text : List Char) :
    cutAll (unifyLineEnds text) = (cutAll text).map Cut.unified := by
  fun_induction cutAll text with
  | case1 => rfl
  | case2 rest ih => simp [unifyLineEnds, cutAll, ih, Cut.unified]
  | case3 rest hrest ih =>
    have hunify : unifyLineEnds ('\r' :: rest) = '\n' :: unifyLineEnds rest := by
      rw [unifyLineEnds]
      exact fun more heq => hrest more heq
    rw [hunify, cutAll, ih]
    simp [Cut.unified]
  | case4 rest ih => simp [unifyLineEnds, cutAll, ih, Cut.unified]
  | case5 c rest _ hr hn hcut ih =>
    rw [unifyLineEnds_cons hr, cutAll_cons hr hn, ih, hcut]
    rfl
  | case6 c rest _ hr hn cut more hcut ih =>
    rw [unifyLineEnds_cons hr, cutAll_cons hr hn, ih, hcut]
    rfl

/-- The lines that a source hands out are the same with unified line ends. -/
theorem lines_unified (comment : Pattern) (text : List Char) :
    (cutAll (unifyLineEnds text)).map (Cut.line comment) =
      (cutAll text).map (Cut.line comment) := by
  rw [cutAll_unifyLineEnds, List.map_map]
  rfl

end TextSource

namespace FileTree

/-- A file at the path holds the text: in UTF-8 behind a byte order mark, or without one where the
text does not start with one itself. -/
structure Holds (files : FileTree) (path : Path) (text : List Char) : Prop where
  no_zero : '\x00' ∉ path.text.toList
  bytes : files.bytesAt path = .ok (Text.Utf8.mark ++ Text.Utf8.encode text) ∨
    files.bytesAt path = .ok (Text.Utf8.encode text) ∧ text.head? ≠ some '\ufeff'

theorem Holds.textAt {files : FileTree} {path : Path} {text : List Char}
    (h : files.Holds path text) : files.textAt path = .ok (unifyLineEnds text) := by
  have hzero : ¬ path.text.toList.contains '\x00' = true := by simpa using h.no_zero
  unfold FileTree.textAt
  rw [if_neg hzero]
  rcases h.bytes with hbytes | ⟨hbytes, hhead⟩
  · simp only [hbytes, Text.Utf8.decode_mark_append_encode]
  · simp only [hbytes, Text.Utf8.decode_encode hhead]

end FileTree

namespace LineSource
open TextSource
variable {α : Type}

/-- Sources with the same lines to hand out answer readings alike, and count alike. -/
theorem performAll_eq_of_lines {first other : TextSource}
    (hlines : (cutAll first.rest).map (Cut.line first.comment) =
      (cutAll other.rest).map (Cut.line other.comment))
    (hnumber : first.lineNumber = other.lineNumber) (readings : List Reading) :
    (Reading.performAll readings (.text first)).1 =
        (Reading.performAll readings (.text other)).1 ∧
      (Reading.performAll readings (.text first)).2.lineNumber =
        (Reading.performAll readings (.text other)).2.lineNumber := by
  obtain ⟨hanswers, hstands⟩ :=
    (standsAt_first first (cutting_cutAll first.rest)).performAll readings
  obtain ⟨hanswers', hstands'⟩ :=
    (standsAt_first other (cutting_cutAll other.rest)).performAll readings
  rw [hanswers, hanswers', hstands.lineNumber, hstands'.lineNumber, hlines, hnumber]
  exact ⟨rfl, rfl⟩

theorem drain_eq_of_lines {first other : TextSource}
    (hlines : (cutAll first.rest).map (Cut.line first.comment) =
      (cutAll other.rest).map (Cut.line other.comment)) : first.drain.1 = other.drain.1 := by
  rw [drain_of_cutting first (cutting_cutAll _), drain_of_cutting other (cutting_cutAll _)]
  exact hlines

/-- A file that holds a text can be read, hands out what the text itself hands out, under the same
line numbers and however it is asked, and is read as the same program. -/
theorem file_reads_as_its_text (settings : Settings) {files : FileTree} {path : String}
    {text : List Char} (h : files.Holds (.ofText path) text) :
    ∃ source, ofFile settings files path = .ok source ∧
      (∀ readings,
        (Reading.performAll readings (.text source)).1 =
            (Reading.performAll readings (.text (ofText settings text))).1 ∧
          (Reading.performAll readings (.text source)).2.lineNumber =
            (Reading.performAll readings (.text (ofText settings text))).2.lineNumber) ∧
      (∃ lines, HandsOut (.text source) lines ∧ HandsOut (.text (ofText settings text)) lines) ∧
      ∀ (forms : List (InstructionForm α)) (rules : Settings), ∃ report later later',
        Program.read forms rules (.text source) = .ok (report, later) ∧
        Program.read forms rules (.text (ofText settings text)) = .ok (report, later') := by
  let source := ofText settings (FileTree.unifyLineEnds text)
  have hfile : ofFile settings files path = .ok source := by
    unfold ofFile fileText
    dsimp only
    rw [h.textAt]
    rfl
  have hlines : (cutAll source.rest).map (Cut.line source.comment) =
      (cutAll text).map (Cut.line settings.comment) := lines_unified settings.comment text
  refine ⟨source, hfile, performAll_eq_of_lines hlines rfl, ?_, ?_⟩
  · refine ⟨_, handsOut_of_cutting source (cutting_cutAll _), ?_⟩
    rw [hlines]
    exact handsOut_of_cutting (ofText settings text) (cutting_cutAll text)
  · intro forms rules
    have hdrain : source.drain.1 = (ofText settings text).drain.1 := drain_eq_of_lines hlines
    have htext := Program.read_text forms rules (ofText settings text)
    rw [← hdrain] at htext
    exact ⟨_, _, _, Program.read_text forms rules source, htext⟩

/-- A file behind a byte order mark. Two carriage returns stand in front of its line feed, and its
last letter takes two bytes. -/
def markedFile : FileTree :=
  ⟨[(["code.asm"], .file [0xEF, 0xBB, 0xBF, 0x61, 0x0D, 0x0D, 0x0A, 0xC3, 0xA9])]⟩

theorem marked_file_hands_out_its_lines :
    markedFile.Holds (.ofText "code.asm") ['a', '\r', '\r', '\n', 'é'] ∧
      ∃ source, ofFile .standard markedFile "code.asm" = .ok source ∧
        HandsOut (.text source) ["a", "", "é"] := by
  have hholds : markedFile.Holds (.ofText "code.asm") ['a', '\r', '\r', '\n', 'é'] :=
    ⟨by decide, .inl (by rfl)⟩
  obtain ⟨source, hfile, -, ⟨lines, hsource, htext⟩, -⟩ :=
    file_reads_as_its_text (α := Unit) .standard hholds
  have hlines : lines = ["a", "", "é"] :=
    (htext.unique (handsOut_of_cutting _ (cutting_cutAll _))).trans (by decide +kernel)
  rw [hlines] at hsource
  exact ⟨hholds, source, hfile, hsource⟩

end LineSource
end AsmKit
