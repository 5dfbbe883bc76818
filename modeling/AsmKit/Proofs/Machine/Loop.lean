import AsmKit.Proofs.Machine.Step

/-! # Running a machine and stepping it until it stops

A run looks ahead before each step, and a plain loop steps until a step says
no. Both are settled by the course of the machine: the calls that it makes one
after the other, and what ends them. A course is said without reference to
either, a machine has at most one, and both end exactly if it has one. -/
namespace AsmKit
namespace Machine
variable {α σ : Type}

/-- How a loop of steps ended: at a step that said no, at a fault, or not within the steps
allowed. -/
inductive LoopEnd where
  | stopped
  | failed (fault : MachineFault)
  | unfinished
  deriving DecidableEq, Repr

/-- Steps until a step says no, at most `limit` times. -/
def loop (executors : Executors α σ) : Nat → Machine α σ → LoopEnd × Machine α σ
  | 0, m => (.unfinished, m)
  | limit + 1, m =>
    match m.step executors with
    | (.ok true, m) => loop executors limit m
    | (.ok false, m) => (.stopped, m)
    | (.error fault, m) => (.failed fault, m)

/-- What ends a course: no instruction is left, an executor says to stop, or something fails. -/
inductive CourseEnd where
  | ranOff
  | told
  | failed (fault : MachineFault)

/-- How a run ends that makes this many calls. -/
def CourseEnd.ofRun (calls : Nat) : CourseEnd → RunEnd
  | .ranOff => .finished calls
  | .told => .finished calls
  | .failed fault => .failed fault

/-- How a loop ends. -/
def CourseEnd.ofLoop : CourseEnd → LoopEnd
  | .ranOff => .stopped
  | .told => .stopped
  | .failed fault => .failed fault

/-- The machine behind a loop. Where no instruction is left, the last step moves the counter
behind the slots. -/
def CourseEnd.behindLoop (last : Machine α σ) : CourseEnd → Machine α σ
  | .ranOff => { last with counter := max last.counter (last.program.slots.length + 1) }
  | .told => last
  | .failed _ => last

/-- The calls that a machine makes one after the other, what ends them, and the machine at the
end. Each call starts from the machine that the one before it has left. -/
inductive Course (executors : Executors α σ) :
    Machine α σ → List (Call α σ) → CourseEnd → Machine α σ → Prop
  | ranOff {m : Machine α σ} : m.upcoming = none → Course executors m [] .ranOff m
  | absent {m : Machine α σ} {instruction : Instruction α} {index : Nat} :
      m.upcoming = some instruction →
      presentOperands 0 instruction.operands = .error index →
      Course executors m [] (.failed (.absentOperand index)) (m.entered instruction)
  | told {m : Machine α σ} {call : Call α σ} {answer : Datum} :
      m.call? executors = some call → call.answer = .ok answer → answer.goesOn = false →
      Course executors m [call] .told call.left
  | failed {m : Machine α σ} {call : Call α σ} {fault : MachineFault} :
      m.call? executors = some call → call.answer = .error fault →
      Course executors m [call] (.failed fault) call.left
  | goesOn {m last : Machine α σ} {call : Call α σ} {answer : Datum} {calls : List (Call α σ)}
      {ending : CourseEnd} :
      m.call? executors = some call → call.answer = .ok answer → answer.goesOn = true →
      Course executors call.left calls ending last →
      Course executors m (call :: calls) ending last

/-- Executors that note in the host which instructions they are called with. -/
def noting (executors : Executors α σ) : Executors α (σ × List (Instruction α)) :=
  fun executor instruction m =>
    let outcome := executors executor instruction { m with host := m.host.1 }
    (outcome.1, { outcome.2 with host := (outcome.2.host, m.host.2 ++ [instruction]) })

/-! ## Loops and runs follow the course -/

section Follow
variable {executors : Executors α σ} {m last : Machine α σ} {calls : List (Call α σ)}
  {ending : CourseEnd}

/-- A loop follows the course to its end, given one step more than it has calls. -/
theorem Course.loop (h : Course executors m calls ending last) (limit : Nat) :
    m.loop executors limit = (ending.ofLoop, ending.behindLoop last) ∨
      (m.loop executors limit).1 = .unfinished ∧ limit ≤ calls.length := by
  induction h generalizing limit with
  | ranOff hup =>
    cases limit with
    | zero => exact .inr ⟨rfl, by simp⟩
    | succ limit => left; simp only [Machine.loop, step_of_upcoming_none hup]; rfl
  | absent hup habsent =>
    cases limit with
    | zero => exact .inr ⟨rfl, by simp⟩
    | succ limit => left; simp only [Machine.loop, step_of_absent hup habsent]; rfl
  | told hcall hanswer hstop =>
    cases limit with
    | zero => exact .inr ⟨rfl, by simp⟩
    | succ limit =>
      left
      simp only [Machine.loop, (step_of_call hcall).2, hanswer, Except.map, hstop]
      rfl
  | failed hcall hanswer =>
    cases limit with
    | zero => exact .inr ⟨rfl, by simp⟩
    | succ limit =>
      left
      simp only [Machine.loop, (step_of_call hcall).2, hanswer, Except.map]
      rfl
  | goesOn hcall hanswer hgoes _ ih =>
    cases limit with
    | zero => exact .inr ⟨rfl, by simp⟩
    | succ limit =>
      simp only [Machine.loop, (step_of_call hcall).2, hanswer, Except.map, hgoes]
      simpa using ih limit

/-- A run follows the course to its end, given one step more than it has calls. -/
theorem Course.runFrom (h : Course executors m calls ending last) (limit done : Nat) :
    m.runFrom executors limit done = (ending.ofRun (done + calls.length), last) ∨
      (m.runFrom executors limit done).1 = .unfinished ∧ limit ≤ calls.length := by
  induction h generalizing limit done with
  | ranOff hup => left; rw [runFrom_of_upcoming_none hup]; rfl
  | absent hup habsent =>
    cases limit with
    | zero => exact .inr ⟨by rw [runFrom_zero hup], by simp⟩
    | succ limit => left; simp only [runFrom_succ hup, step_of_absent hup habsent]; rfl
  | told hcall hanswer hstop =>
    obtain ⟨hup, hstep⟩ := step_of_call hcall
    cases limit with
    | zero => exact .inr ⟨by rw [runFrom_zero hup], by simp⟩
    | succ limit =>
      left
      simp only [runFrom_succ hup, hstep, hanswer, Except.map, hstop]
      rfl
  | failed hcall hanswer =>
    obtain ⟨hup, hstep⟩ := step_of_call hcall
    cases limit with
    | zero => exact .inr ⟨by rw [runFrom_zero hup], by simp⟩
    | succ limit =>
      left
      simp only [runFrom_succ hup, hstep, hanswer, Except.map]
      rfl
  | goesOn hcall hanswer hgoes _ ih =>
    obtain ⟨hup, hstep⟩ := step_of_call hcall
    cases limit with
    | zero => exact .inr ⟨by rw [runFrom_zero hup], by simp⟩
    | succ limit =>
      have hlater := ih limit (done + 1)
      simp only [runFrom_succ hup, hstep, hanswer, Except.map, hgoes]
      rw [List.length_cons, Nat.add_le_add_iff_right, ← Nat.add_assoc, Nat.add_right_comm]
      exact hlater

end Follow

/-! ## A loop or a run that ends has followed a course -/

/-- A machine has a course if the machines have one that its call goes on with. -/
theorem exists_course_of_step (executors : Executors α σ) (m : Machine α σ)
    (h : ∀ later, m.step executors = (.ok true, later) →
      ∃ calls ending last, Course executors later calls ending last) :
    ∃ calls ending last, Course executors m calls ending last := by
  rcases m.step_cases executors with ⟨hup, -⟩ | ⟨instruction, index, hup, habsent, -⟩ |
    ⟨call, -, hcall, hstep⟩
  · exact ⟨_, _, _, .ranOff hup⟩
  · exact ⟨_, _, _, .absent hup habsent⟩
  · cases hanswer : call.answer with
    | error fault => exact ⟨_, _, _, .failed hcall hanswer⟩
    | ok answer =>
      by_cases hgoes : answer.goesOn = true
      · rw [hanswer, Except.map, hgoes] at hstep
        obtain ⟨calls, ending, last, hcourse⟩ := h _ hstep
        exact ⟨_, _, _, .goesOn hcall hanswer hgoes hcourse⟩
      · exact ⟨_, _, _, .told hcall hanswer (Bool.not_eq_true _ ▸ hgoes)⟩

theorem exists_course_of_loop {executors : Executors α σ} {limit : Nat} {m : Machine α σ}
    (h : (m.loop executors limit).1 ≠ .unfinished) :
    ∃ calls ending last, Course executors m calls ending last := by
  induction limit generalizing m with
  | zero => exact absurd rfl h
  | succ limit ih =>
    refine exists_course_of_step executors m fun later hstep => ih ?_
    simpa only [loop, hstep] using h

theorem exists_course_of_runFrom {executors : Executors α σ} {limit : Nat} (done : Nat)
    {m : Machine α σ} (h : (m.runFrom executors limit done).1 ≠ .unfinished) :
    ∃ calls ending last, Course executors m calls ending last := by
  induction limit generalizing m done with
  | zero =>
    cases hup : m.upcoming with
    | none => exact ⟨_, _, _, .ranOff hup⟩
    | some instruction => rw [runFrom_zero hup] at h; exact absurd rfl h
  | succ limit ih =>
    cases hup : m.upcoming with
    | none => exact ⟨_, _, _, .ranOff hup⟩
    | some instruction =>
      refine exists_course_of_step executors m fun later hstep => ih (done + 1) ?_
      simpa only [runFrom_succ hup, hstep] using h

/-- A run ends exactly if the plain loop of steps does, and then both have made
the same calls. A run counts them. The machines behind the two are the same,
but for the counter where no instruction was left: a run leaves it in front of
the empty slots at the end, and the loop behind them. -/
theorem run_agrees_with_loop (executors : Executors α σ) (m : Machine α σ) :
    ((∃ limit, (m.run executors limit).1 ≠ .unfinished) ↔
      ∃ limit, (m.loop executors limit).1 ≠ .unfinished) ∧
    ∀ limit limit', (m.run executors limit).1 ≠ .unfinished →
      (m.loop executors limit').1 ≠ .unfinished →
      ∃ calls ending last, Course executors m calls ending last ∧
        m.run executors limit = (ending.ofRun calls.length, last) ∧
        m.loop executors limit' = (ending.ofLoop, ending.behindLoop last) := by
  refine ⟨⟨?_, ?_⟩, ?_⟩
  · rintro ⟨limit, hrun⟩
    obtain ⟨calls, ending, last, hcourse⟩ := exists_course_of_runFrom 0 hrun
    refine ⟨calls.length + 1, ?_⟩
    rcases hcourse.loop (calls.length + 1) with hloop | ⟨-, hshort⟩
    · rw [hloop]; cases ending <;> simp [CourseEnd.ofLoop]
    · omega
  · rintro ⟨limit, hloop⟩
    obtain ⟨calls, ending, last, hcourse⟩ := exists_course_of_loop hloop
    refine ⟨calls.length + 1, ?_⟩
    rcases hcourse.runFrom (calls.length + 1) 0 with hrun | ⟨-, hshort⟩
    · rw [run, hrun]; cases ending <;> simp [CourseEnd.ofRun]
    · omega
  · intro limit limit' hrun hloop
    obtain ⟨calls, ending, last, hcourse⟩ := exists_course_of_runFrom 0 hrun
    refine ⟨calls, ending, last, hcourse, ?_, ?_⟩
    · have hends := (hcourse.runFrom limit 0).resolve_right fun hshort => hrun hshort.1
      rwa [Nat.zero_add] at hends
    · exact (hcourse.loop limit').resolve_right fun hshort => hloop hshort.1

end Machine
end AsmKit
