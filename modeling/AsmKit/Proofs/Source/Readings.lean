import AsmKit.Proofs.Pattern.Onward
import AsmKit.Proofs.Source.HandsOut
import AsmKit.Proofs.Text.Trim

/-! # Reading a text in any way

A source may be asked whether a line is left, for the next line, for one turn
of an iteration or for all lines that are left, and this in any order. What it
answers is what the list of its lines and a count of those handed out give,
and the count alone says where the source is. Main statement: so it is for
every text and all readings of it, and the lines are those of the cutting. -/
namespace AsmKit

/-- What a source is asked. An iteration over the lines is any number of turns, whether it is
given up or goes on until the lines are over, and other readings may come between its turns. -/
inductive Reading where
  | ask
  | next
  | turn
  | all

/-- What a source answers. -/
inductive Answer where
  | left (isLeft : Bool)
  | line (text : String)
  | over
  | lines (texts : List String)
  | fault (cause : LineFault)

/-- The lines in an answer. -/
def Answer.handedOut : Answer → List String
  | .line text => [text]
  | .lines texts => texts
  | _ => []

namespace Reading

/-- The answer of a source and the source behind it. -/
def perform (source : LineSource) : Reading → Answer × LineSource
  | .ask =>
    match source.hasNext with
    | .ok isLeft => (.left isLeft, source)
    | .error fault => (.fault fault, source)
  | .next =>
    match source.next with
    | .ok (line, later) => (.line line, later)
    | .error fault => (.fault fault, source)
  | .turn =>
    match source.hasNext with
    | .ok true =>
      match source.next with
      | .ok (line, later) => (.line line, later)
      | .error fault => (.fault fault, source)
    | .ok false => (.over, source)
    | .error fault => (.fault fault, source)
  | .all =>
    match source.drain with
    | .ok (lines, later) => (.lines lines, later)
    | .error fault => (.fault fault, source)

/-- The answers to readings one after the other, and the source behind them. -/
def performAll : List Reading → LineSource → List Answer × LineSource
  | [], source => ([], source)
  | reading :: rest, source =>
    let first := reading.perform source
    let more := performAll rest first.2
    (first.1 :: more.1, more.2)

/-- The answer that lines give of which `count` have been handed out, and the count behind it. -/
def expect (lines : List String) (count : Nat) : Reading → Answer × Nat
  | .ask => (.left (decide (count < lines.length)), count)
  | .next =>
    match lines[count]? with
    | some line => (.line line, count + 1)
    | none => (.fault .exhausted, count)
  | .turn =>
    match lines[count]? with
    | some line => (.line line, count + 1)
    | none => (.over, count)
  | .all => (.lines (lines.drop count), lines.length)

/-- The answers that lines give to readings one after the other, and the count behind them. -/
def expectAll (lines : List String) : List Reading → Nat → List Answer × Nat
  | [], count => ([], count)
  | reading :: rest, count =>
    let first := reading.expect lines count
    let more := expectAll lines rest first.2
    (first.1 :: more.1, more.2)

/-- Readings hand out lines in order, each once. -/
theorem expect_handedOut (lines : List String) {count : Nat} (h : count ≤ lines.length)
    (reading : Reading) :
    lines.take count ++ (reading.expect lines count).1.handedOut =
        lines.take (reading.expect lines count).2 ∧
      (reading.expect lines count).2 ≤ lines.length := by
  have hnext : ∀ {line}, lines[count]? = some line →
      lines.take count ++ [line] = lines.take (count + 1) ∧ count + 1 ≤ lines.length := by
    intro line hline
    obtain ⟨hlt, -⟩ := List.getElem?_eq_some_iff.mp hline
    exact ⟨by rw [List.take_add_one, hline]; rfl, hlt⟩
  cases reading with
  | ask => exact ⟨by simp [expect, Answer.handedOut], h⟩
  | next =>
    unfold expect
    dsimp only
    split
    · rename_i hline; exact hnext hline
    · exact ⟨by simp [Answer.handedOut], h⟩
  | turn =>
    unfold expect
    dsimp only
    split
    · rename_i hline; exact hnext hline
    · exact ⟨by simp [Answer.handedOut], h⟩
  | all => exact ⟨by simp [expect, Answer.handedOut], Nat.le_refl _⟩

theorem expectAll_handedOut (lines : List String) (readings : List Reading) {count : Nat}
    (h : count ≤ lines.length) :
    lines.take count ++ (expectAll lines readings count).1.flatMap Answer.handedOut =
        lines.take (expectAll lines readings count).2 ∧
      (expectAll lines readings count).2 ≤ lines.length := by
  induction readings generalizing count with
  | nil => exact ⟨by simp [expectAll], h⟩
  | cons reading rest ih =>
    obtain ⟨hfirst, hle⟩ := expect_handedOut lines h reading
    obtain ⟨hmore, hlast⟩ := ih hle
    refine ⟨?_, hlast⟩
    rw [expectAll, List.flatMap_cons, ← List.append_assoc, hfirst]
    exact hmore

end Reading

namespace LineSource
open TextSource

/-! ## Where a source stands -/

/-- The source that has handed out the first `count` lines of what another one has to read. -/
def StandsAt (first : TextSource) (cuts : List Cut) (count : Nat) (source : LineSource) : Prop :=
  count ≤ cuts.length ∧ ∃ rest, Cutting rest (cuts.drop count) ∧
    source = .text (first.behind (cuts.take count) rest)

section Stands
variable {first : TextSource} {cuts : List Cut} {count : Nat} {source : LineSource}

theorem standsAt_first (first : TextSource) {cuts : List Cut} (h : Cutting first.rest cuts) :
    StandsAt first cuts 0 (.text first) :=
  ⟨Nat.zero_le _, first.rest, h, by simp [behind, joined]⟩

theorem StandsAt.lineNumber (h : StandsAt first cuts count source) :
    source.lineNumber = first.lineNumber + count := by
  obtain ⟨hle, rest, -, rfl⟩ := h
  simp [LineSource.lineNumber, behind, Nat.min_eq_left hle]

theorem StandsAt.cursor? (h : StandsAt first cuts count source) :
    source.cursor? = some (first.cursor + (joined (cuts.take count)).length) := by
  obtain ⟨-, rest, -, rfl⟩ := h
  rfl

theorem StandsAt.hasNext (h : StandsAt first cuts count source) :
    source.hasNext = .ok (decide (count < cuts.length)) := by
  obtain ⟨hle, rest, hrest, rfl⟩ := h
  rw [hasNext_of_cutting (first.behind (cuts.take count) rest) hrest]
  by_cases hlt : count < cuts.length
  · simp [hlt]
  · simp [hlt, Nat.not_lt.mp hlt]

/-- The next line is the one that the cutting has next. -/
theorem StandsAt.next {cut : Cut} (h : StandsAt first cuts count source)
    (hcut : cuts[count]? = some cut) :
    ∃ later, source.next = .ok (cut.line first.comment, later) ∧
      StandsAt first cuts (count + 1) later := by
  obtain ⟨hle, rest, hrest, rfl⟩ := h
  obtain ⟨hlt, rfl⟩ := List.getElem?_eq_some_iff.mp hcut
  rw [List.drop_eq_getElem_cons hlt] at hrest
  obtain ⟨later, hlater, hnext⟩ :=
    next?_of_cutting (first.behind (cuts.take count) rest) hrest
  refine ⟨.text (first.behind (cuts.take (count + 1)) later), ?_, hlt, later, hlater, rfl⟩
  rw [List.take_succ_eq_append_getElem hlt, ← behind_append]
  simp only [LineSource.next, hnext]
  rfl

theorem StandsAt.next_end (h : StandsAt first cuts count source) (hcut : cuts[count]? = none) :
    source.next = .error .exhausted := by
  obtain ⟨hle, rest, hrest, rfl⟩ := h
  rw [List.drop_of_length_le (List.getElem?_eq_none_iff.mp hcut)] at hrest
  have hnext := next?_of_nil (first.behind (cuts.take count) rest) hrest
  simp only [LineSource.next, hnext]

theorem StandsAt.drain (h : StandsAt first cuts count source) :
    ∃ later, source.drain = .ok ((cuts.drop count).map (Cut.line first.comment), later) ∧
      StandsAt first cuts cuts.length later := by
  obtain ⟨hle, rest, hrest, rfl⟩ := h
  refine ⟨.text (first.behind cuts []), ?_, Nat.le_refl _, [], ?_, ?_⟩
  · simp only [LineSource.drain,
      drain_of_cutting (first.behind (cuts.take count) rest) hrest, behind_append,
      List.take_append_drop]
    rfl
  · rw [List.drop_length]; exact .nothing
  · rw [List.take_length]

end Stands

/-! ## Readings of a source -/

section Readings
variable {first : TextSource} {cuts : List Cut} {count : Nat} {source : LineSource}

/-- A source answers what the lines of its cutting give, and stands where their count says. -/
theorem StandsAt.perform (h : StandsAt first cuts count source) (reading : Reading) :
    (reading.perform source).1 =
        (reading.expect (cuts.map (Cut.line first.comment)) count).1 ∧
      StandsAt first cuts (reading.expect (cuts.map (Cut.line first.comment)) count).2
        (reading.perform source).2 := by
  have hmap : (cuts.map (Cut.line first.comment))[count]? =
      cuts[count]?.map (Cut.line first.comment) := List.getElem?_map
  cases reading with
  | ask =>
    simp only [Reading.perform, Reading.expect, h.hasNext, List.length_map]
    exact ⟨trivial, h⟩
  | next =>
    cases hcut : cuts[count]? with
    | none =>
      simp only [Reading.perform, Reading.expect, h.next_end hcut, hmap, hcut, Option.map_none]
      exact ⟨trivial, h⟩
    | some cut =>
      obtain ⟨later, hnext, hlater⟩ := h.next hcut
      simp only [Reading.perform, Reading.expect, hnext, hmap, hcut, Option.map_some]
      exact ⟨trivial, hlater⟩
  | turn =>
    cases hcut : cuts[count]? with
    | none =>
      have hend : ¬ count < cuts.length := Nat.not_lt.mpr (List.getElem?_eq_none_iff.mp hcut)
      simp only [Reading.perform, Reading.expect, h.hasNext, hend, decide_false, hmap, hcut,
        Option.map_none]
      exact ⟨trivial, h⟩
    | some cut =>
      obtain ⟨later, hnext, hlater⟩ := h.next hcut
      obtain ⟨hlt, -⟩ := List.getElem?_eq_some_iff.mp hcut
      simp only [Reading.perform, Reading.expect, h.hasNext, hlt, decide_true, hnext, hmap, hcut,
        Option.map_some]
      exact ⟨trivial, hlater⟩
  | all =>
    obtain ⟨later, hdrain, hlater⟩ := h.drain
    simp only [Reading.perform, Reading.expect, hdrain, List.map_drop, List.length_map]
    exact ⟨trivial, hlater⟩

theorem StandsAt.performAll (h : StandsAt first cuts count source) (readings : List Reading) :
    (Reading.performAll readings source).1 =
        (Reading.expectAll (cuts.map (Cut.line first.comment)) readings count).1 ∧
      StandsAt first cuts
        (Reading.expectAll (cuts.map (Cut.line first.comment)) readings count).2
        (Reading.performAll readings source).2 := by
  induction readings generalizing count source with
  | nil => exact ⟨rfl, h⟩
  | cons reading rest ih =>
    obtain ⟨hanswer, hlater⟩ := h.perform reading
    obtain ⟨hanswers, hlast⟩ := ih hlater
    refine ⟨?_, hlast⟩
    rw [Reading.performAll, Reading.expectAll, hanswer]
    exact congrArg _ hanswers

/-- The next line takes characters of the text. -/
theorem StandsAt.next_cursor {line : String} {later : LineSource}
    (h : StandsAt first cuts count source) (hcuts : Cutting first.rest cuts)
    (hnext : source.next = .ok (line, later)) :
    ∃ cursor further, source.cursor? = some cursor ∧ later.cursor? = some further ∧
      cursor < further := by
  cases hcut : cuts[count]? with
  | none => rw [h.next_end hcut] at hnext; cases hnext
  | some cut =>
    obtain ⟨other, hother, hlater⟩ := h.next hcut
    rw [hother] at hnext
    cases hnext
    have hpos := hcuts.length_text_pos cut (List.mem_of_getElem? hcut)
    refine ⟨_, _, h.cursor?, hlater.cursor?, ?_⟩
    rw [List.take_add_one, hcut, joined, joined, List.flatMap_append, List.length_append]
    simpa using hpos

end Readings

/-- The line has no line end in it and no blank at either end. -/
def Normal (line : String) : Prop := Plain line.toList ∧ Text.Trimmed line.toList

/-- Whatever the comment rule takes out of a line, what is left is a line without blanks at its
ends. -/
theorem normal_line {cut : Cut} (comment : Pattern) (h : Plain cut.piece) :
    Normal (cut.line comment) := by
  have hsublist := (Text.trim_sublist (comment.removeAll cut.piece)).trans
    (Pattern.removeAll_sublist comment cut.piece)
  have hlist : (cut.line comment).toList = clean comment cut.piece := String.toList_ofList
  unfold Normal
  rw [hlist]
  exact ⟨fun c hc => h c (hsublist.subset hc), Text.trimmed_trim _⟩

theorem perform_ask (source : LineSource) : (Reading.ask.perform source).2 = source := by
  unfold Reading.perform
  dsimp only
  split <;> rfl

/-- A text has one cutting, which loses nothing. However the text is read, the
lines of the cutting come out in order, each once. Behind any readings the
count of the lines handed out says where the source stands; a next line moves
it on, and at the end of the text it stays. -/
theorem readings_give_lines (settings : Settings) (text : List Char) (readings : List Reading) :
    let cuts := cutAll text
    let lines := cuts.map (Cut.line settings.comment)
    let answers := (Reading.performAll readings (.text (ofText settings text))).1
    let source := (Reading.performAll readings (.text (ofText settings text))).2
    let count := (Reading.expectAll lines readings 0).2
    (Cutting text cuts ∧ (∀ others, Cutting text others → others = cuts) ∧
      joined cuts = text ∧ lines.length ≤ text.length) ∧
    (∀ line ∈ lines, Normal line) ∧
    (answers = (Reading.expectAll lines readings 0).1 ∧
      answers.flatMap Answer.handedOut = lines.take count ∧ count ≤ lines.length) ∧
    (source.lineNumber = count ∧
      source.cursor? = some (joined (cuts.take count)).length ∧
      source.hasNext = .ok (decide (count < lines.length)) ∧
      (Reading.ask.perform source).2 = source) ∧
    (∀ line later, source.next = .ok (line, later) → ∃ cursor further,
      source.cursor? = some cursor ∧ later.cursor? = some further ∧ cursor < further) ∧
    (count = lines.length → source.cursor? = some text.length ∧
      Reading.next.perform source = (.fault .exhausted, source)) := by
  intro cuts lines answers source count
  have hcuts : Cutting text cuts := cutting_cutAll text
  have hlength : lines.length = cuts.length := List.length_map _
  obtain ⟨hanswers, hstands⟩ :=
    (standsAt_first (ofText settings text) hcuts).performAll readings
  obtain ⟨hlines, hcount⟩ := Reading.expectAll_handedOut lines readings (Nat.zero_le _)
  have hcursor : source.cursor? = some (joined (cuts.take count)).length := by
    have hsum := hstands.cursor?
    rwa [show (ofText settings text).cursor = 0 from rfl, Nat.zero_add] at hsum
  refine ⟨⟨hcuts, fun others h => h.unique hcuts, hcuts.join, ?_⟩, ?_, ⟨hanswers, ?_, hcount⟩,
    ⟨?_, hcursor, ?_, perform_ask source⟩, ?_, ?_⟩
  · rw [hlength]; exact hcuts.length_le
  · intro line hline
    obtain ⟨cut, hcut, rfl⟩ := List.mem_map.mp hline
    exact normal_line settings.comment (hcuts.plain cut hcut)
  · rw [List.take_zero, List.nil_append] at hlines
    show List.flatMap Answer.handedOut answers = lines.take count
    rw [← hlines]
    exact congrArg (List.flatMap Answer.handedOut) hanswers
  · have hnumber := hstands.lineNumber
    rwa [show (ofText settings text).lineNumber = 0 from rfl, Nat.zero_add] at hnumber
  · rw [hlength]; exact hstands.hasNext
  · intro line later hnext
    exact hstands.next_cursor hcuts hnext
  · intro hall
    have hend : cuts[count]? = none := List.getElem?_eq_none (by omega)
    constructor
    · rw [hcursor, hall, hlength, List.take_length, hcuts.join]
    · have hexhausted : source.next = .error .exhausted := hstands.next_end hend
      simp only [Reading.perform, hexhausted]

end LineSource
end AsmKit
