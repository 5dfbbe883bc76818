import AsmKit.Machine.Basic

/-! # What steps and jumps do

A step finds an instruction at or behind the counter and calls its executor,
or it finds none. What it finds, and the one call that it makes, are said here
once; what holds of steps, loops and runs is derived from `step_cases`, and
what holds of jumps from `jump_cases`. -/
namespace AsmKit

/-- A call of the executor of an instruction: the machine that the executor is handed, what it
answers, and the machine as it leaves it. -/
structure Call (α σ : Type) where
  instruction : Instruction α
  given : Machine α σ
  answer : Except MachineFault Datum
  left : Machine α σ

namespace Program
variable {α : Type}

/-- The first instruction of a program at or behind a position, and where it stands. -/
structure FirstFrom (program : Program α) (start position : Int) (instruction : Instruction α) :
    Prop where
  start_le : start ≤ position
  get?_eq : program.get? position = some instruction
  empty_between : ∀ between, start ≤ between → between < position → program.get? between = none

/-- The positions that a jump may go to: those of the lines, and the one in front of them. -/
def Inside (program : Program α) (position : Int) : Prop :=
  0 ≤ position ∧ position ≤ program.lineCount

theorem get?_eq_some_iff {program : Program α} {position : Int} {instruction : Instruction α} :
    program.get? position = some instruction ↔
      1 ≤ position ∧ program.slots[(position - 1).toNat]? = some (some instruction) := by
  unfold get?
  split
  · exact ⟨nofun, fun h => absurd h.1 (by omega)⟩
  · rw [Option.join_eq_some_iff]
    exact ⟨fun h => ⟨by omega, h⟩, fun h => h.2⟩

end Program

namespace Machine
variable {α σ : Type}

/-- The machine that has moved to the next instruction. -/
def entered (m : Machine α σ) (instruction : Instruction α) : Machine α σ :=
  { m with counter := m.nextFilled + 1, current := some instruction }

/-- The call of the executor of an instruction. One that has no executor answers with a fault. -/
def callOf (executors : Executors α σ) (given : Machine α σ) (instruction : Instruction α) :
    Call α σ :=
  match instruction.executor with
  | none =>
    ⟨instruction, given, .error (.noExecutor instruction.mnemonic instruction.lineNumber), given⟩
  | some executor =>
    let outcome := executors executor instruction given
    ⟨instruction, given, outcome.1, outcome.2⟩

/-- The call that a step makes, if it makes one: none without an instruction, and none for an
instruction with an absent operand. -/
def call? (executors : Executors α σ) (m : Machine α σ) : Option (Call α σ) :=
  match m.upcoming with
  | none => none
  | some instruction =>
    match presentOperands 0 instruction.operands with
    | .error _ => none
    | .ok operands =>
      some (callOf executors
        ((m.entered instruction).report
          (.stepped instruction.lineNumber instruction.mnemonic operands)) instruction)

theorem call?_eq_some {executors : Executors α σ} {m : Machine α σ} {call : Call α σ}
    (h : m.call? executors = some call) :
    ∃ instruction operands, m.upcoming = some instruction ∧ call = callOf executors
      ((m.entered instruction).report
        (.stepped instruction.lineNumber instruction.mnemonic operands)) instruction := by
  unfold call? at h
  split at h
  · cases h
  · rename_i instruction hup
    split at h
    · cases h
    · rename_i operands _
      exact ⟨instruction, operands, hup, (Option.some.inj h).symm⟩

/-! ## The next position -/

/-- The next position holds an instruction of the program, or it lies behind
the program and the counter is not in front of it. -/
theorem nextFilled_cases (m : Machine α σ) :
    (∃ instruction, m.upcoming = some instruction ∧ m.counter ≤ m.nextFilled ∧
      1 ≤ m.nextFilled ∧ m.nextFilled ≤ m.program.slots.length) ∨
    m.upcoming = none ∧ m.nextFilled = max m.counter (m.program.slots.length + 1) := by
  cases hfind : (m.program.slots.drop (m.counter - 1).toNat).findIdx? Option.isSome with
  | none =>
    have hnext : m.nextFilled = max m.counter (m.program.slots.length + 1) := by
      simp only [nextFilled, hfind]
    refine .inr ⟨?_, hnext⟩
    have hlast : m.program.slots[(m.nextFilled - 1).toNat]? = none :=
      List.getElem?_eq_none (by omega)
    rw [upcoming, Program.get?, hlast]
    split <;> rfl
  | some offset =>
    have hnext : m.nextFilled = (m.counter - 1).toNat + offset + 1 := by
      simp only [nextFilled, hfind]
    obtain ⟨hlt, hfilled, -⟩ := List.findIdx?_eq_some_iff_getElem.mp hfind
    rw [List.getElem_drop] at hfilled
    rw [List.length_drop] at hlt
    obtain ⟨instruction, hslot⟩ := Option.isSome_iff_exists.mp hfilled
    refine .inl ⟨instruction, ?_, by omega, by omega, by omega⟩
    have hindex : (m.nextFilled - 1).toNat = (m.counter - 1).toNat + offset := by omega
    have hpos : ¬ m.nextFilled < 1 := by omega
    rw [upcoming, Program.get?, if_neg hpos, hindex, List.getElem?_eq_getElem (by omega), hslot]
    rfl

theorem nextFilled_of_upcoming_none {m : Machine α σ} (h : m.upcoming = none) :
    m.nextFilled = max m.counter (m.program.slots.length + 1) := by
  rcases m.nextFilled_cases with ⟨instruction, hsome, -⟩ | ⟨-, hnext⟩
  · rw [h] at hsome; cases hsome
  · exact hnext

/-- No slot between the counter and the next position holds an instruction. -/
theorem get?_of_lt_nextFilled {m : Machine α σ} {position : Int} (hlow : m.counter ≤ position)
    (hhigh : position < m.nextFilled) : m.program.get? position = none := by
  rw [Option.eq_none_iff_forall_ne_some]
  intro instruction hget
  obtain ⟨hpos, hslot⟩ := Program.get?_eq_some_iff.mp hget
  -- The search starts at the counter, so it has met the slot of this position.
  let start := (m.counter - 1).toNat
  have hmet : (m.program.slots.drop start)[(position - 1).toNat - start]? =
      some (some instruction) := by
    have hindex : start + ((position - 1).toNat - start) = (position - 1).toNat := by omega
    rw [List.getElem?_drop, hindex]
    exact hslot
  obtain ⟨hlt, hmet⟩ := List.getElem?_eq_some_iff.mp hmet
  cases hfind : (m.program.slots.drop start).findIdx? Option.isSome with
  | none =>
    have hempty := List.findIdx?_eq_none_iff.mp hfind _ (List.getElem_mem hlt)
    rw [hmet] at hempty
    cases hempty
  | some offset =>
    have hnext : m.nextFilled = start + offset + 1 := by simp only [nextFilled, start, hfind]
    obtain ⟨_, -, hbefore⟩ := List.findIdx?_eq_some_iff_getElem.mp hfind
    refine hbefore ((position - 1).toNat - start) (by omega) ?_
    rw [hmet]
    rfl

/-- What the next step runs is the first instruction from the counter on; without one there is
none from the counter on. -/
theorem upcoming_cases (m : Machine α σ) :
    (∃ instruction, m.upcoming = some instruction ∧
      m.program.FirstFrom m.counter m.nextFilled instruction) ∨
    m.upcoming = none ∧ ∀ position, m.counter ≤ position → m.program.get? position = none := by
  rcases m.nextFilled_cases with ⟨instruction, hup, hle, -, -⟩ | ⟨hup, hnext⟩
  · exact .inl ⟨instruction, hup, hle, hup, fun _ hlow hhigh => get?_of_lt_nextFilled hlow hhigh⟩
  · refine .inr ⟨hup, fun position hlow => ?_⟩
    by_cases hhigh : position < m.nextFilled
    · exact get?_of_lt_nextFilled hlow hhigh
    · rw [Option.eq_none_iff_forall_ne_some]
      intro instruction hget
      obtain ⟨hpos, hslot⟩ := Program.get?_eq_some_iff.mp hget
      obtain ⟨hlt, -⟩ := List.getElem?_eq_some_iff.mp hslot
      omega

/-! ## Steps -/

/-- A step finds no instruction and moves behind the program, or it finds one
with an absent operand and fails, or it makes one call and answers as the
executor does. -/
theorem step_cases (executors : Executors α σ) (m : Machine α σ) :
    (m.upcoming = none ∧ m.step executors = (.ok false, { m with counter := m.nextFilled })) ∨
    (∃ instruction index, m.upcoming = some instruction ∧
      presentOperands 0 instruction.operands = .error index ∧
      m.step executors = (.error (.absentOperand index), m.entered instruction)) ∨
    ∃ call, m.upcoming = some call.instruction ∧ m.call? executors = some call ∧
      m.step executors = (call.answer.map Datum.goesOn, call.left) := by
  cases hup : m.upcoming with
  | none =>
    unfold upcoming at hup
    exact .inl ⟨rfl, by simp only [step, hup]⟩
  | some instruction =>
    have hstep : m.step executors = execute executors (m.entered instruction) instruction := by
      unfold upcoming at hup
      simp only [step, hup, entered]
    rw [hstep]
    right
    cases hoperands : presentOperands 0 instruction.operands with
    | error index =>
      exact .inl ⟨instruction, index, rfl, hoperands, by simp only [execute, hoperands]⟩
    | ok operands =>
      let given := (m.entered instruction).report
        (.stepped instruction.lineNumber instruction.mnemonic operands)
      refine .inr ⟨callOf executors given instruction, ?_, ?_, ?_⟩
      · unfold callOf
        split <;> rfl
      · simp only [call?, hup, hoperands, given]
      · cases hexecutor : instruction.executor with
        | none => simp only [execute, hoperands, callOf, hexecutor, given]; rfl
        | some executor => simp only [execute, hoperands, callOf, hexecutor, given]

section Steps
variable {executors : Executors α σ} {m : Machine α σ}

theorem step_of_upcoming_none (h : m.upcoming = none) :
    m.step executors =
      (.ok false, { m with counter := max m.counter (m.program.slots.length + 1) }) := by
  have hnext := nextFilled_of_upcoming_none h
  rcases m.step_cases executors with ⟨-, hstep⟩ | ⟨instruction, _, hsome, -⟩ | ⟨call, hsome, -⟩
  · rw [hstep, hnext]
  · rw [h] at hsome; cases hsome
  · rw [h] at hsome; cases hsome

theorem step_of_absent {instruction : Instruction α} {index : Nat}
    (h : m.upcoming = some instruction)
    (habsent : presentOperands 0 instruction.operands = .error index) :
    m.step executors = (.error (.absentOperand index), m.entered instruction) := by
  unfold upcoming at h
  simp only [step, h, execute, habsent, entered]

theorem step_of_call {call : Call α σ} (h : m.call? executors = some call) :
    m.upcoming = some call.instruction ∧
      m.step executors = (call.answer.map Datum.goesOn, call.left) := by
  rcases m.step_cases executors with ⟨hnone, -⟩ | ⟨instruction, _, hsome, habsent, -⟩ |
    ⟨other, hsome, hcall, hstep⟩
  · simp only [call?, hnone] at h; cases h
  · simp only [call?, hsome, habsent] at h; cases h
  · rw [h] at hcall
    cases hcall
    exact ⟨hsome, hstep⟩

end Steps

/-! ## Jumps -/

/-- A jump moves the counter into the program, or it does nothing. -/
theorem jump_cases (m : Machine α σ) (room : Nat) (destination : Datum) :
    (∃ position : Int, 0 ≤ position ∧ position ≤ m.program.lineCount ∧
      m.jump room destination = (.ok none,
        { m.report (.jumped (targetText destination) position) with counter := position })) ∨
    (m.jump room destination).1 ≠ .ok none ∧ (m.jump room destination).2 = m := by
  unfold jump
  split
  · exact .inr ⟨nofun, rfl⟩
  · exact .inr ⟨nofun, rfl⟩
  · rename_i position _
    split
    · exact .inr ⟨nofun, rfl⟩
    · exact .inl ⟨position, by omega, by omega, rfl⟩

/-- A target that stands for a position is gone to, or refused for lying outside the program. -/
theorem jump_of_target {m : Machine α σ} {room : Nat} {destination : Datum} {position : Int}
    (h : m.target room destination = .ok (.ok position)) :
    (m.program.Inside position → m.jump room destination = (.ok none,
      { m.report (.jumped (targetText destination) position) with counter := position })) ∧
    (¬ m.program.Inside position → m.jump room destination = (.error (m.outside position), m)) := by
  constructor
  · rintro ⟨hlow, hhigh⟩
    have hinside : ¬ (position < 0 ∨ (m.program.lineCount : Int) < position) := by omega
    simp only [jump, h, if_neg hinside]
  · intro hnot
    have houtside : position < 0 ∨ (m.program.lineCount : Int) < position := by
      unfold Program.Inside at hnot
      omega
    simp only [jump, h, if_pos houtside]

theorem outside_of_canTell {m : Machine α σ} {position : Int} (h : m.program.CanTell position) :
    m.outside position =
      .targetOutside position m.program.lineCount m.place.1 m.place.2 := if_pos h

theorem outside_of_not_canTell {m : Machine α σ} {position : Int}
    (h : ¬ m.program.CanTell position) : m.outside position = .unshown .longNumber := if_neg h

/-- A position inside the program is a target. -/
theorem jump_int (m : Machine α σ) (room : Nat) {position : Int} (hlow : 0 ≤ position)
    (hhigh : position ≤ m.program.lineCount) :
    m.jump room (.int position) = (.ok none,
      { m.report (.jumped (targetText (.int position)) position) with counter := position }) :=
  (jump_of_target rfl).1 ⟨hlow, hhigh⟩

/-- A label inside the program is a target. -/
theorem jump_label (m : Machine α σ) (room : Nat) {name : String} {position : Int}
    (hlabel : m.program.label? name = some position) (hlow : 0 ≤ position)
    (hhigh : position ≤ m.program.lineCount) :
    m.jump room (.text name) =
      (.ok none, { m.report (.jumped name position) with counter := position }) := by
  have htarget : m.target room (.text name) = .ok (.ok position) := by simp only [target, hlabel]
  exact (jump_of_target htarget).1 ⟨hlow, hhigh⟩

/-! ## Runs -/

section Runs
variable {executors : Executors α σ} {m : Machine α σ}

theorem runFrom_of_upcoming_none (h : m.upcoming = none) (limit done : Nat) :
    m.runFrom executors limit done = (.finished done, m) :=
  runFrom.eq_1 executors done m limit h

theorem runFrom_zero {instruction : Instruction α} (h : m.upcoming = some instruction)
    (done : Nat) : m.runFrom executors 0 done = (.unfinished, m) :=
  runFrom.eq_2 executors done m instruction h

theorem runFrom_succ {instruction : Instruction α} (h : m.upcoming = some instruction)
    (limit done : Nat) : m.runFrom executors (limit + 1) done =
      match m.step executors with
      | (.ok true, later) => runFrom executors limit (done + 1) later
      | (.ok false, later) => (.finished (done + 1), later)
      | (.error fault, later) => (.failed fault, later) :=
  runFrom.eq_3 executors done m limit instruction h

end Runs

end Machine
end AsmKit
