import AsmKit.Proofs.Program.Lines

/-! # The count of lines and the count of slots

A line that is read to its end gets a slot, and the line at which reading
stops gets none. So a program that was read completely has as many slots as
lines, and any other has one line more. -/
namespace AsmKit

/-- The program behind a line has a slot for each line that was read to its end. -/
def LineOutcome.Counted {α : Type} : LineOutcome α → Prop
  | .next program => program.lineCount = program.slots.length
  | .stop program _ => program.lineCount = program.slots.length + 1
  | .fail program _ => program.lineCount = program.slots.length + 1

/-- The program has a slot for each line, but for the line at which the reading stopped. -/
def Report.Counted {α : Type} (report : Report α) : Prop :=
  match report.ending with
  | .complete => report.program.lineCount = report.program.slots.length
  | .stopped _ => report.program.lineCount = report.program.slots.length + 1
  | .failed _ => report.program.lineCount = report.program.slots.length + 1

theorem Report.Counted.bounds {α : Type} {report : Report α} (h : report.Counted) :
    report.program.slots.length ≤ report.program.lineCount ∧
      report.program.lineCount ≤ report.program.slots.length + 1 := by
  unfold Report.Counted at h
  split at h <;> omega

/-- The counts tell a complete reading from the others. -/
theorem Report.Counted.complete_iff {α : Type} {report : Report α} (h : report.Counted) :
    report.ending = .complete ↔ report.program.lineCount = report.program.slots.length := by
  unfold Report.Counted at h
  split at h <;> rename_i hending <;> rw [hending]
  · exact ⟨fun _ => h, fun _ => rfl⟩
  · exact ⟨nofun, fun heq => by omega⟩
  · exact ⟨nofun, fun heq => by omega⟩

namespace Program
variable {α : Type} (forms : List (InstructionForm α)) (settings : Settings)

/-- The statement of a line fills the one slot that is still missing. -/
theorem readStatement_counted (line rest : String) {program : Program α}
    (h : program.lineCount = program.slots.length + 1) :
    (program.readStatement forms settings line rest).1.Counted := by
  have hslot : ∀ slot, program.lineCount = (program.slots ++ [slot]).length := by
    intro slot
    rw [List.length_append, h]
    rfl
  unfold readStatement
  dsimp only
  split
  · exact hslot none
  · split
    · exact h
    · exact hslot _
    · exact h

theorem readLine_counted (line : String) {program : Program α}
    (h : program.lineCount = program.slots.length) :
    (readLine forms settings program line).1.Counted := by
  have hcounted : program.lineCount + 1 = program.slots.length + 1 := by rw [h]
  unfold readLine
  dsimp only
  split
  · exact readStatement_counted forms settings line _ hcounted
  · split
    · exact hcounted
    · exact readStatement_counted forms settings line _ hcounted

theorem readLines_counted (lines : List String) {program : Program α}
    (h : program.lineCount = program.slots.length) :
    (readLines forms settings program lines).Counted := by
  induction lines generalizing program with
  | nil => exact h
  | cons line rest ih =>
    have hline := readLine_counted forms settings line h
    unfold readLines
    split <;> rename_i houtcome <;> rw [houtcome] at hline
    · exact ih hline
    · exact hline
    · exact hline

variable {forms settings}

theorem read_counted {source later : LineSource} {report : Report α}
    (h : read forms settings source = .ok (report, later)) : report.Counted := by
  unfold read at h
  cases hdrain : source.drain with
  | error fault => rw [hdrain] at h; cases h
  | ok drained =>
    rw [hdrain] at h
    cases h
    exact readLines_counted forms settings drained.1 rfl

end Program
end AsmKit
