import AsmKit.Proofs.Program.Reached

/-! # Readings of one source, one after the other

A reading asks its source for one line at a time and for none behind the line at
which it stops, so the next reading goes on with the line below. Each of them
knows nothing of the ones before it: it says of the lines that are left what a
source of just these lines would say. Main statement: readings in a row fall
into segments that make up the lines, and as many readings as there are lines
leave none. -/
namespace AsmKit
variable {α : Type}

namespace LineSource

theorem lineNumber_of_next {source later : LineSource} {line : String}
    (h : source.next = .ok (line, later)) : later.lineNumber = source.lineNumber + 1 := by
  cases source with
  | text source =>
    unfold next at h
    cases hnext : source.next? with
    | none => simp [hnext] at h
    | some answer =>
      obtain ⟨found, behind⟩ := answer
      simp only [hnext, Except.ok.injEq, Prod.mk.injEq] at h
      obtain ⟨-, rfl⟩ := h
      unfold TextSource.next? at hnext
      split at hnext
      · cases hnext
      · cases hnext
        rfl
  | given lines lineNumber =>
    cases lines with
    | nil => cases h
    | cons first rest =>
      cases h
      rfl
  | undefined => cases h

/-- A source counts the lines that it hands out. -/
theorem HandsOut.lineNumber_skip {source : LineSource} {lines : List String}
    (h : source.HandsOut lines) {n : Nat} (hn : n ≤ lines.length) :
    (source.skip n).lineNumber = source.lineNumber + n := by
  induction n generalizing source lines with
  | zero => rfl
  | succ n ih =>
    cases h with
    | done _ => simp at hn
    | line _ hnext hlater =>
      simp only [LineSource.skip, hnext]
      rw [ih hlater (Nat.le_of_succ_le_succ hn), lineNumber_of_next hnext]
      omega

end LineSource

/-- The program that a line leaves, however it came out. -/
def LineOutcome.program : LineOutcome α → Program α
  | .next program => program
  | .stop program _ => program
  | .fail program _ => program

namespace Program

/-! ## Line by line -/

section Pulls
variable (forms : List (InstructionForm α)) (settings : Settings)

/-- Reading on from a program, line by line: the source is asked whether a line is left before each
line, and for no line behind the one at which the reading ends. -/
inductive Pulls : Program α → LineSource → Report α → LineSource → Prop
  | done {program : Program α} {source : LineSource} : source.hasNext = .ok false →
      Pulls program source ⟨program, .complete,
        [.parsed program.lineCount program.instructionTotal program.labels.length]⟩ source
  | next {program longer : Program α} {source later last : LineSource} {line : String}
      {events : List Log.Event} {report : Report α} :
      source.hasNext = .ok true → source.next = .ok (line, later) →
      readLine forms settings program line = (.next longer, events) →
      Pulls longer later report last →
      Pulls program source { report with events := events ++ report.events } last
  | stop {program partly : Program α} {source later : LineSource} {line : String}
      {events : List Log.Event} {bad : BadLine} :
      source.hasNext = .ok true → source.next = .ok (line, later) →
      readLine forms settings program line = (.stop partly bad, events) →
      Pulls program source ⟨partly, .stopped bad, events⟩ later
  | fail {program partly : Program α} {source later : LineSource} {line : String}
      {events : List Log.Event} {fault : Settings.Fault} :
      source.hasNext = .ok true → source.next = .ok (line, later) →
      readLine forms settings program line = (.fail partly fault, events) →
      Pulls program source ⟨partly, .failed fault, events⟩ later

theorem readStatement_lineCount (line rest : String) (program : Program α) :
    (program.readStatement forms settings line rest).1.program.lineCount = program.lineCount := by
  unfold readStatement
  dsimp only
  split
  · rfl
  · split <;> rfl

/-- A line is counted, whatever comes of it. -/
theorem readLine_lineCount (line : String) (program : Program α) :
    (readLine forms settings program line).1.program.lineCount = program.lineCount + 1 := by
  unfold readLine
  dsimp only
  split
  · exact readStatement_lineCount forms settings line _ _
  · split
    · rfl
    · exact readStatement_lineCount forms settings line _ _

theorem lineCount_le_readLines (lines : List String) (program : Program α) :
    program.lineCount ≤ (readLines forms settings program lines).program.lineCount := by
  induction lines generalizing program with
  | nil => exact Nat.le_refl _
  | cons line rest ih =>
    have hline := readLine_lineCount forms settings line program
    rw [readLines]
    rcases houtcome : readLine forms settings program line with
      ⟨longer | ⟨partly, bad⟩ | ⟨partly, fault⟩, events⟩
    all_goals
      rw [houtcome] at hline
      dsimp only [LineOutcome.program] at hline ⊢
    · have hrest := ih longer
      omega
    · omega
    · omega

variable {forms settings}

/-- Reading the lines of a source at once is reading them line by line. The source is left behind
the lines that were counted. -/
theorem pulls_of_handsOut {source : LineSource} {lines : List String} (h : source.HandsOut lines)
    (program : Program α) :
    Pulls forms settings program source (readLines forms settings program lines)
      (source.skip ((readLines forms settings program lines).program.lineCount -
        program.lineCount)) := by
  induction h generalizing program with
  | done hleft =>
    rw [readLines, Nat.sub_self]
    exact .done hleft
  | @line source later line rest hmore hnext _ ih =>
    have hline := readLine_lineCount forms settings line program
    have hskip : ∀ n, source.skip (n + 1) = later.skip n := by
      intro n
      simp only [LineSource.skip, hnext]
    rw [readLines]
    rcases houtcome : readLine forms settings program line with
      ⟨longer | ⟨partly, bad⟩ | ⟨partly, fault⟩, events⟩
    all_goals
      rw [houtcome] at hline
      dsimp only [LineOutcome.program] at hline ⊢
    · have hle := lineCount_le_readLines forms settings rest longer
      have hcount : (readLines forms settings longer rest).program.lineCount - program.lineCount =
          (readLines forms settings longer rest).program.lineCount - longer.lineCount + 1 := by
        omega
      rw [hcount, hskip]
      exact .next hmore hnext houtcome (ih longer)
    · rw [hline, Nat.add_sub_cancel_left, hskip]
      exact .stop hmore hnext houtcome
    · rw [hline, Nat.add_sub_cancel_left, hskip]
      exact .fail hmore hnext houtcome

/-- Line by line there is one way to read a source. -/
theorem Pulls.unique {program : Program α} {source last other : LineSource}
    {report report' : Report α} (h : Pulls forms settings program source report last)
    (h' : Pulls forms settings program source report' other) : report = report' ∧ last = other := by
  induction h generalizing report' other with
  | done hleft =>
    cases h' with
    | done _ => exact ⟨rfl, rfl⟩
    | next hmore _ _ _ | stop hmore _ _ | fail hmore _ _ => rw [hleft] at hmore; cases hmore
  | next hmore hnext hline _ ih =>
    cases h' with
    | done hleft => rw [hmore] at hleft; cases hleft
    | next _ hnext' hline' hrest' =>
      cases hnext.symm.trans hnext'
      cases hline.symm.trans hline'
      obtain ⟨rfl, rfl⟩ := ih hrest'
      exact ⟨rfl, rfl⟩
    | stop _ hnext' hline' | fail _ hnext' hline' =>
      cases hnext.symm.trans hnext'
      cases hline.symm.trans hline'
  | stop hmore hnext hline =>
    cases h' with
    | done hleft => rw [hmore] at hleft; cases hleft
    | stop _ hnext' hline' =>
      cases hnext.symm.trans hnext'
      cases hline.symm.trans hline'
      exact ⟨rfl, rfl⟩
    | next _ hnext' hline' _ | fail _ hnext' hline' =>
      cases hnext.symm.trans hnext'
      cases hline.symm.trans hline'
  | fail hmore hnext hline =>
    cases h' with
    | done hleft => rw [hmore] at hleft; cases hleft
    | fail _ hnext' hline' =>
      cases hnext.symm.trans hnext'
      cases hline.symm.trans hline'
      exact ⟨rfl, rfl⟩
    | next _ hnext' hline' _ | stop _ hnext' hline' =>
      cases hnext.symm.trans hnext'
      cases hline.symm.trans hline'

end Pulls

theorem read_of_handsOut (forms : List (InstructionForm α)) (settings : Settings)
    {source : LineSource} {lines : List String} (h : source.HandsOut lines) :
    read forms settings source = .ok (readLines forms settings {} lines,
      source.skip (readLines (α := α) forms settings {} lines).program.lineCount) := by
  obtain ⟨after, hdrain⟩ := h.drain
  simp [read, hdrain]

/-- A reading is what pulling line after line from the source gives. -/
theorem read_eq_ok_iff_pulls {forms : List (InstructionForm α)} {settings : Settings}
    {source : LineSource} {lines : List String} (h : source.HandsOut lines) (report : Report α)
    (later : LineSource) : read forms settings source = .ok (report, later) ↔
      Pulls forms settings {} source report later := by
  have hpulls : Pulls forms settings {} source _ _ := pulls_of_handsOut h {}
  rw [read_of_handsOut forms settings h]
  constructor
  · intro heq
    obtain ⟨rfl, rfl⟩ := Prod.mk.inj (Except.ok.inj heq)
    exact hpulls
  · intro hpulls'
    obtain ⟨rfl, rfl⟩ := hpulls.unique hpulls'
    rfl

/-! ## What one reading takes -/

/-- Of the lines `segment ++ left` a reading takes the segment. Its report is that of a source of
its own with these lines. The segment is empty only if no line is left; it ends in the line at
which the reading stopped, and with the last line where the reading was complete. -/
structure Takes (forms : List (InstructionForm α)) (settings : Settings)
    (segment left : List String) (report : Report α) : Prop where
  fresh : ∃ later, read forms settings (.given (segment ++ left) 0) = .ok (report, later)
  lineCount : report.program.lineCount = segment.length
  progress : segment = [] → left = []
  stopped : ∀ bad, report.ending = .stopped bad →
    bad.lineNumber = segment.length ∧ segment.getLast? = some bad.text
  complete : report.ending = .complete → left = []
  exhausted : segment = [] → report.program = {} ∧ report.ending = .complete

/-- Readings one after the other: each takes its segment off the lines that are left. -/
inductive Covers (forms : List (InstructionForm α)) (settings : Settings) :
    List String → List (Report α) → List (List String) → List String → Prop
  | nothing (lines : List String) : Covers forms settings lines [] [] lines
  | reading {segment left rest : List String} {segments : List (List String)} {report : Report α}
      {reports : List (Report α)} : Takes forms settings segment left report →
      Covers forms settings left reports segments rest →
      Covers forms settings (segment ++ left) (report :: reports) (segment :: segments) rest

/-- The reports of some readings of a source in a row, and the source behind them. -/
def readTimes (forms : List (InstructionForm α)) (settings : Settings) :
    Nat → LineSource → Except LineFault (List (Report α) × LineSource)
  | 0, source => .ok ([], source)
  | n + 1, source => do
    let (report, later) ← read forms settings source
    let (reports, last) ← readTimes forms settings n later
    return (report :: reports, last)

variable {forms : List (InstructionForm α)} {settings : Settings}

theorem EndsAt.stopped {lines : List String} {index : Nat} {line : String} {report : Report α}
    {bad : BadLine} (h : EndsAt forms settings lines index line report)
    (hbad : report.ending = .stopped bad) : bad.lineNumber = index + 1 ∧ bad.text = line := by
  by_cases hr : Repeats settings (lines.take index) line
  · obtain ⟨-, name, -, hending⟩ := h.repeated hr
    rw [hending] at hbad
    cases hbad
    exact ⟨rfl, rfl⟩
  · obtain ⟨-, mnemonic, tokens, -, ⟨problems, -, hending⟩ | ⟨fault, -, hending⟩⟩ := h.refused hr
    · rw [hending] at hbad
      cases hbad
      exact ⟨rfl, rfl⟩
    · rw [hending] at hbad
      cases hbad

theorem takes_readLines (forms : List (InstructionForm α)) (settings : Settings)
    (lines : List String) :
    let report := readLines forms settings {} lines
    Takes forms settings (lines.take report.program.lineCount)
      (lines.drop report.program.lineCount) report := by
  intro report
  have hfresh : ∃ later, read forms settings (.given lines 0) = .ok (report, later) :=
    ⟨_, read_of_handsOut forms settings (LineSource.handsOut_given lines 0)⟩
  rw [← List.take_append_drop report.program.lineCount lines] at hfresh
  rcases exists_first_bad forms settings lines with hgood | ⟨index, line, hline, hbad, hfirst⟩
  · obtain ⟨hending, hstands⟩ := readLines_complete (α := α) hgood
    have hcount : report.program.lineCount = lines.length := hstands.lineCount
    have hleft : lines.drop report.program.lineCount = [] := by rw [hcount, List.drop_length]
    refine ⟨hfresh, by rw [hcount, List.take_length], fun _ => hleft, ?_, fun _ => hleft, ?_⟩
    · intro bad hstopped
      cases hending.symm.trans hstopped
    · intro hnil
      rw [hcount, List.take_length] at hnil
      subst hnil
      exact ⟨rfl, rfl⟩
  · have hends := readLines_endsAt (α := α) hline hbad hfirst
    have hcount : report.program.lineCount = index + 1 := hends.lineCount
    obtain ⟨hindex, -⟩ := List.getElem?_eq_some_iff.mp hline
    have hsegment : lines.take report.program.lineCount = lines.take index ++ [line] := by
      rw [hcount, List.take_add_one, hline]
      rfl
    have hlength : (lines.take report.program.lineCount).length = index + 1 := by
      rw [hcount, List.length_take]
      omega
    have hne : lines.take report.program.lineCount ≠ [] := by rw [hsegment]; simp
    refine ⟨hfresh, by rw [hlength, hcount], fun hnil => absurd hnil hne, ?_, ?_,
      fun hnil => absurd hnil hne⟩
    · intro bad hstopped
      obtain ⟨hnumber, htext⟩ := hends.stopped hstopped
      refine ⟨by rw [hnumber, hlength], ?_⟩
      rw [hsegment, List.getLast?_concat, htext]
    · intro hcomplete
      exact absurd hbad (readLines_complete_iff.mp hcomplete index)

theorem Covers.flatten {lines rest : List String} {reports : List (Report α)}
    {segments : List (List String)} (h : Covers forms settings lines reports segments rest) :
    segments.flatten ++ rest = lines := by
  induction h with
  | nothing => rfl
  | reading _ _ ih => rw [List.flatten_cons, List.append_assoc, ih]

/-- Each reading takes a line as long as there is one. -/
theorem Covers.rest_eq_nil {lines rest : List String} {reports : List (Report α)}
    {segments : List (List String)} (h : Covers forms settings lines reports segments rest)
    (hlength : lines.length ≤ reports.length) : rest = [] := by
  induction h with
  | nothing => exact List.eq_nil_of_length_eq_zero (Nat.le_zero.mp hlength)
  | @reading segment left _ _ _ _ htakes _ ih =>
    apply ih
    rw [List.length_append, List.length_cons] at hlength
    by_cases hnil : segment = []
    · rw [htakes.progress hnil]
      exact Nat.zero_le _
    · have hpos := List.length_pos_iff.mpr hnil
      omega

/-- Readings in a row cover the lines of their source. -/
theorem readTimes_covers (forms : List (InstructionForm α)) (settings : Settings) (n : Nat)
    {source : LineSource} {lines : List String} (h : source.HandsOut lines) :
    ∃ reports last segments rest, readTimes forms settings n source = .ok (reports, last) ∧
      reports.length = n ∧ Covers forms settings lines reports segments rest ∧
      last.HandsOut rest ∧
      last.lineNumber = source.lineNumber + segments.flatten.length := by
  induction n generalizing source lines with
  | zero => exact ⟨[], source, [], lines, rfl, rfl, .nothing lines, h, rfl⟩
  | succ n ih =>
    have htakes := takes_readLines forms settings lines
    let report := readLines forms settings {} lines
    obtain ⟨reports, last, segments, rest, htimes, hcount, hcovers, hlast, hnumber⟩ :=
      ih (h.skip report.program.lineCount)
    refine ⟨report :: reports, last, lines.take report.program.lineCount :: segments, rest, ?_,
      by rw [List.length_cons, hcount], ?_, hlast, ?_⟩
    · simp only [readTimes, read_of_handsOut forms settings h, bind, Except.bind]
      rw [htimes]
      rfl
    · have hreading := Covers.reading htakes hcovers
      rwa [List.take_append_drop] at hreading
    · have hle : report.program.lineCount ≤ lines.length := by
        rw [htakes.lineCount, List.length_take]
        exact Nat.min_le_right _ _
      rw [hnumber, h.lineNumber_skip hle, List.flatten_cons, List.length_append,
        ← htakes.lineCount, Nat.add_assoc]

/-- A reading of a source is what pulling its lines one by one gives. Any number of readings in a
row fall into segments that follow one another in the lines, each as long as its report counts,
each reported as if the lines from there on were a source of their own, and each but the last
ending in the line that stopped it. The source stands behind the segments, and as many readings
as there are lines leave nothing of it. -/
theorem successive_readings_cover_lines (forms : List (InstructionForm α)) (settings : Settings)
    {source : LineSource} {lines : List String} (h : source.HandsOut lines) (n : Nat) :
    (∀ report later, read forms settings source = .ok (report, later) ↔
      Pulls forms settings {} source report later) ∧
    ∃ reports last segments rest, readTimes forms settings n source = .ok (reports, last) ∧
      reports.length = n ∧ Covers forms settings lines reports segments rest ∧
      segments.flatten ++ rest = lines ∧ last.HandsOut rest ∧
      last.lineNumber = source.lineNumber + segments.flatten.length ∧
      (lines.length ≤ n → rest = []) := by
  obtain ⟨reports, last, segments, rest, htimes, hcount, hcovers, hlast, hnumber⟩ :=
    readTimes_covers forms settings n h
  refine ⟨read_eq_ok_iff_pulls h, reports, last, segments, rest, htimes, hcount, hcovers,
    hcovers.flatten, hlast, hnumber, fun hle => hcovers.rest_eq_nil ?_⟩
  rwa [hcount]

/-- Three lines, the last two of which are bad: three readings leave nothing, the first of which
takes two lines. -/
theorem bad_lines_are_read_in_turn :
    (LineSource.given ["a: nop", "a:", "jump"] 0).HandsOut ["a: nop", "a:", "jump"] ∧
      ∃ (reports : List (Report Nat)) (last : LineSource),
        readTimes [⟨"nop", [], some 7⟩] .standard 3 (.given ["a: nop", "a:", "jump"] 0) =
          .ok (reports, last) ∧
        last.HandsOut [] ∧ reports.map (·.program.lineCount) = [2, 1, 0] ∧
        reports.map (·.ending) = [.stopped ⟨2, "a:", [.repeatedLabel "a"]⟩,
          .stopped ⟨1, "jump", [.noSuchMnemonic "jump"]⟩, .complete] := by
  have hsource := LineSource.handsOut_given ["a: nop", "a:", "jump"] 0
  obtain ⟨-, reports, last, segments, rest, htimes, -, -, -, hlast, -, hover⟩ :=
    successive_readings_cover_lines [⟨"nop", [], some 7⟩] .standard hsource 3
  have hreports : reports = ((readTimes [⟨"nop", [], some 7⟩] .standard 3
      (.given ["a: nop", "a:", "jump"] 0)).toOption.map Prod.fst).getD [] := by
    rw [htimes]
    rfl
  rw [hover (Nat.le_refl _)] at hlast
  refine ⟨hsource, reports, last, htimes, hlast, ?_, ?_⟩
  · rw [hreports]
    decide +kernel
  · rw [hreports]
    decide +kernel

end Program
end AsmKit
