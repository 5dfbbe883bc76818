import AsmKit.Proofs.Machine.Script
import AsmKit.Proofs.Program.Counting

/-! # Where the counter may stand

A jump is bounded by the lines of a program and a step by its slots. The two
counts differ by at most one, which keeps the counter in front of the program,
inside it or right behind its slots, whatever the executors do. -/
namespace AsmKit
namespace Machine
variable {α σ : Type}

/-- A machine over a program, with the counter in front of the slots, at one of them or right
behind them. -/
structure InBounds (program : Program α) (m : Machine α σ) : Prop where
  program_eq : m.program = program
  counter_nonneg : 0 ≤ m.counter
  counter_le : m.counter ≤ program.slots.length + 1

/-- Steps stay in bounds, and so do jumps, which go to a line. -/
theorem steady_inBounds {program : Program α}
    (hlines : program.lineCount ≤ program.slots.length + 1) :
    Steady (InBounds (σ := σ) program) where
  entered := by
    intro m instruction h hup
    have hprogram := h.program_eq
    rcases m.nextFilled_cases with ⟨_, -, -, hlow, hhigh⟩ | ⟨hnone, -⟩
    · rw [hprogram] at hhigh
      exact ⟨hprogram, by simp only [Machine.entered]; omega, by simp only [Machine.entered]; omega⟩
    · rw [hup] at hnone; cases hnone
  ranOff := by
    intro m h hup
    have hnext := nextFilled_of_upcoming_none hup
    have hhigh := h.counter_le
    rw [h.program_eq] at hnext
    exact ⟨h.program_eq, by simp only; omega, by simp only; omega⟩
  report := fun _ h => ⟨h.program_eq, h.counter_nonneg, h.counter_le⟩
  jump := by
    intro m room destination h
    rcases m.jump_cases room destination with ⟨position, hlow, hhigh, hjump⟩ | ⟨-, hjump⟩
    · rw [hjump]
      rw [h.program_eq] at hhigh
      exact ⟨h.program_eq, hlow, by simp only; omega⟩
    · rw [hjump]; exact h
  reset := fun _ h => ⟨h.program_eq, by simp only [Machine.reset]; omega,
    by simp only [Machine.reset]; omega⟩
  remember := fun _ h => ⟨h.program_eq, h.counter_nonneg, h.counter_le⟩
  note := fun _ h => ⟨h.program_eq, h.counter_nonneg, h.counter_le⟩

theorem inBounds_fresh (program : Program α) (memory : Memory) (host : σ)
    (journal : Array Log.Event) :
    InBounds program { program, memory, host, journal } :=
  ⟨rfl, by simp only; omega, by simp only; omega⟩

/-- The counter of a machine over a program that was read stays in bounds. A
jump to where the counter stands leaves it there, unless all lines were read
and the counter is right behind them. -/
theorem counter_stays_in_bounds {forms : List (InstructionForm α)} {settings : Settings}
    {source later : LineSource} {report : Report α}
    {scripts : α → Instruction α → Machine α σ → Script α σ} {tooDeep : MachineFault}
    {m : Machine α σ} (hread : Program.read forms settings source = .ok (report, later))
    (hreach : Reachable scripts tooDeep report.program m) (room : Nat) :
    (0 ≤ m.counter ∧ m.counter ≤ report.program.slots.length + 1) ∧
      (m.counter ≤ report.program.lineCount →
        ∃ back, m.jump room (.int m.counter) = (.ok none, back) ∧ back.counter = m.counter) ∧
      ((m.jump room (.int m.counter)).1 ≠ .ok none →
        m.counter = report.program.lineCount + 1 ∧ report.ending = .complete) := by
  have hcounted := Program.read_counted hread
  obtain ⟨hlow, hhigh⟩ := hcounted.bounds
  obtain ⟨hprogram, hnonneg, hle⟩ := (steady_inBounds hhigh).of_reachable
    (inBounds_fresh report.program) hreach
  have hback : m.counter ≤ report.program.lineCount →
      ∃ back, m.jump room (.int m.counter) = (.ok none, back) ∧ back.counter = m.counter := by
    intro hinside
    rw [← hprogram] at hinside
    exact ⟨_, m.jump_int room hnonneg hinside, rfl⟩
  refine ⟨⟨hnonneg, hle⟩, hback, ?_⟩
  intro hrejected
  have houtside : ¬ m.counter ≤ report.program.lineCount := by
    intro hinside
    obtain ⟨back, hjump, -⟩ := hback hinside
    rw [hjump] at hrejected
    exact hrejected rfl
  have hcomplete : report.program.lineCount = report.program.slots.length := by omega
  exact ⟨by omega, hcounted.complete_iff.mpr hcomplete⟩

/-- An executor that jumps to the empty line behind its instruction, and a step from there, which
runs off the end of the program. -/
theorem counter_behind_program_is_rejected :
    ∃ (report : Report Nat) (later : LineSource) (m : Machine Nat Unit),
      Program.read [⟨"nop", [], some 7⟩] .standard (.given ["nop", ""] 0) =
        .ok (report, later) ∧
      Reachable (fun _ _ _ => .act (.jump 0 (.int 2)) fun _ _ => .finish (.ok .null))
        (.raised "depth" "") report.program m ∧
      m.counter = 3 ∧ (m.jump 0 (.int m.counter)).1 ≠ .ok none ∧
      m.counter = report.program.lineCount + 1 ∧ report.ending = .complete := by
  let scripts : Nat → Instruction Nat → Machine Nat Unit → Script Nat Unit :=
    fun _ _ _ => .act (.jump 0 (.int 2)) fun _ _ => .finish (.ok .null)
  let report := Program.readLines [⟨"nop", [], some 7⟩] .standard {} ["nop", ""]
  let executors := Executors.ofScripts scripts (.raised "depth" "") 1
  let start : Machine Nat Unit := { program := report.program, host := () }
  let stepped := (Operation.step.perform executors start).2
  let last := (Operation.step.perform executors stepped).2
  have hread : Program.read [⟨"nop", [], some 7⟩] .standard (.given ["nop", ""] 0) =
      .ok (report, LineSource.skip report.program.lineCount (.given ["nop", ""] 0)) := rfl
  have hreach : Reachable scripts (.raised "depth" "") report.program last :=
    .performed 1 .step (.performed 1 .step (.fresh {} () #[]))
  have hcounter : last.counter = 3 := by decide +kernel
  have hjump : (last.jump 0 (.int last.counter)).1 ≠ .ok none := by
    intro heq
    have hoption := congrArg Except.toOption heq
    revert hoption
    decide +kernel
  exact ⟨report, _, last, hread, hreach, hcounter, hjump,
    (counter_stays_in_bounds hread hreach 0).2.2 hjump⟩

end Machine
end AsmKit
