import AsmKit.Proofs.Machine.Script

/-! # What a machine goes by

A machine goes by its program, its memory, its counter and its current
instruction, and by nothing else, as long as its executors go by nothing else.
Two machines that agree in these do the same and go on to agree, whatever the
executors keep outside of them and whatever has been reported. -/
namespace AsmKit
variable {α σ : Type}

/-- Two machines agree in all that is their own. -/
structure Machine.Alike (m n : Machine α σ) : Prop where
  program_eq : m.program = n.program
  memory_eq : m.memory = n.memory
  counter_eq : m.counter = n.counter
  current_eq : m.current = n.current

/-- Executors that act on nothing but the machine they are handed and go by nothing else, and
leave the program as it is. -/
structure Executors.Confined (executors : Executors α σ) : Prop where
  answer_eq : ∀ executor instruction {m n : Machine α σ}, m.Alike n →
    (executors executor instruction m).1 = (executors executor instruction n).1
  alike : ∀ executor instruction {m n : Machine α σ}, m.Alike n →
    (executors executor instruction m).2.Alike (executors executor instruction n).2
  program_eq : ∀ executor instruction (m : Machine α σ),
    (executors executor instruction m).2.program = m.program

namespace Machine

/-! ## Single moves -/

/-- Two answers are equal, and the machines behind them agree. -/
def OutcomesAlike {β : Type} (outcome other : β × Machine α σ) : Prop :=
  outcome.1 = other.1 ∧ outcome.2.Alike other.2

namespace Alike
variable {m n : Machine α σ}

theorem refl (m : Machine α σ) : m.Alike m := ⟨rfl, rfl, rfl, rfl⟩

theorem trans {o : Machine α σ} (h : m.Alike n) (h' : n.Alike o) : m.Alike o :=
  ⟨h.program_eq.trans h'.program_eq, h.memory_eq.trans h'.memory_eq,
    h.counter_eq.trans h'.counter_eq, h.current_eq.trans h'.current_eq⟩

theorem nextFilled_eq (h : m.Alike n) : m.nextFilled = n.nextFilled := by
  simp only [nextFilled, h.program_eq, h.counter_eq]

theorem upcoming_eq (h : m.Alike n) : m.upcoming = n.upcoming := by
  rw [upcoming, upcoming, h.nextFilled_eq, h.program_eq]

theorem target_eq (h : m.Alike n) (room : Nat) (destination : Datum) :
    m.target room destination = n.target room destination := by
  have hplace : m.place = n.place := by rw [place, place, h.current_eq]
  unfold target
  rw [h.program_eq, hplace]

theorem outside_eq (h : m.Alike n) (position : Int) : m.outside position = n.outside position := by
  have hplace : m.place = n.place := by rw [place, place, h.current_eq]
  rw [outside, outside, h.program_eq, hplace]

theorem jump (h : m.Alike n) (room : Nat) (destination : Datum) :
    OutcomesAlike (m.jump room destination) (n.jump room destination) := by
  unfold Machine.jump
  simp only [← h.target_eq room destination, ← h.program_eq, ← h.outside_eq]
  split
  · exact ⟨rfl, h⟩
  · exact ⟨rfl, h⟩
  · split
    · exact ⟨rfl, h⟩
    · exact ⟨rfl, h.program_eq, h.memory_eq, rfl, h.current_eq⟩

theorem reset (h : m.Alike n) (clearMemory : Bool) :
    (m.reset clearMemory).Alike (n.reset clearMemory) :=
  ⟨h.program_eq, by simp only [Machine.reset, h.memory_eq], rfl, rfl⟩

end Alike

section Confined
variable {executors : Executors α σ} (hconfined : executors.Confined)
include hconfined

theorem Alike.execute {m n : Machine α σ} (h : m.Alike n) (instruction : Instruction α) :
    OutcomesAlike (execute executors m instruction) (execute executors n instruction) := by
  unfold Machine.execute
  split
  · exact ⟨rfl, h⟩
  · have hreport : ∀ event, (m.report event).Alike (n.report event) :=
      fun _ => ⟨h.program_eq, h.memory_eq, h.counter_eq, h.current_eq⟩
    split
    · exact ⟨rfl, hreport _⟩
    · rename_i executor _
      exact ⟨congrArg (Except.map Datum.goesOn)
        (hconfined.answer_eq executor instruction (hreport _)),
        hconfined.alike executor instruction (hreport _)⟩

/-- Machines that agree step alike. -/
theorem Alike.step {m n : Machine α σ} (h : m.Alike n) :
    OutcomesAlike (m.step executors) (n.step executors) := by
  unfold Machine.step
  rw [← h.nextFilled_eq, ← h.program_eq]
  dsimp only
  split
  · exact ⟨rfl, rfl, h.memory_eq, rfl, h.current_eq⟩
  · refine Alike.execute hconfined ?_ _
    exact ⟨rfl, h.memory_eq, rfl, rfl⟩

theorem Alike.runFrom {m n : Machine α σ} (h : m.Alike n) (limit done : Nat) :
    OutcomesAlike (m.runFrom executors limit done) (n.runFrom executors limit done) := by
  induction limit generalizing m n done with
  | zero =>
    cases hup : m.upcoming with
    | none =>
      rw [runFrom_of_upcoming_none hup, runFrom_of_upcoming_none (h.upcoming_eq ▸ hup)]
      exact ⟨rfl, h⟩
    | some instruction =>
      rw [runFrom_zero hup, runFrom_zero (h.upcoming_eq ▸ hup)]
      exact ⟨rfl, h⟩
  | succ limit ih =>
    cases hup : m.upcoming with
    | none =>
      rw [runFrom_of_upcoming_none hup, runFrom_of_upcoming_none (h.upcoming_eq ▸ hup)]
      exact ⟨rfl, h⟩
    | some instruction =>
      rw [runFrom_succ hup, runFrom_succ (h.upcoming_eq ▸ hup)]
      obtain ⟨hanswer, hlater⟩ := Alike.step hconfined h
      generalize m.step executors = outcome at hanswer hlater ⊢
      generalize n.step executors = other at hanswer hlater ⊢
      obtain ⟨answer, later⟩ := outcome
      obtain ⟨answer', later'⟩ := other
      cases hanswer
      match answer with
      | .ok true => exact ih hlater (done + 1)
      | .ok false => exact ⟨rfl, hlater⟩
      | .error fault => exact ⟨rfl, hlater⟩

/-- An operation has the same reply from machines that agree, and they agree behind it. -/
theorem Alike.perform {m n : Machine α σ} (h : m.Alike n) (operation : Operation σ) :
    OutcomesAlike (operation.perform executors m) (operation.perform executors n) := by
  cases operation with
  | step =>
    obtain ⟨hanswer, hlater⟩ := Alike.step hconfined h
    exact ⟨congrArg Reply.stepped hanswer, hlater⟩
  | run limit =>
    obtain ⟨hanswer, hlater⟩ := Alike.runFrom hconfined h limit 0
    exact ⟨congrArg Reply.ran hanswer, hlater⟩
  | jump room destination =>
    obtain ⟨hanswer, hlater⟩ := h.jump room destination
    exact ⟨congrArg Reply.jumped hanswer, hlater⟩
  | reset clearMemory => exact ⟨rfl, h.reset clearMemory⟩
  | remember change =>
    exact ⟨rfl, h.program_eq, congrArg change h.memory_eq, h.counter_eq, h.current_eq⟩
  | note change => exact ⟨rfl, h.program_eq, h.memory_eq, h.counter_eq, h.current_eq⟩

end Confined

/-- The single moves of a machine leave its program as it is. -/
theorem steady_program (program : Program α) : Steady (σ := σ) (·.program = program) where
  entered := fun h _ => h
  ranOff := fun h _ => h
  report := fun _ h => h
  jump := by
    intro m room destination h
    rcases m.jump_cases room destination with ⟨position, -, -, hjump⟩ | ⟨-, hjump⟩
    · rw [hjump]
      exact h
    · rw [hjump]
      exact h
  reset := fun _ h => h
  remember := fun _ h => h
  note := fun _ h => h

end Machine

/-- An operation leaves the program as it is if the executors do. -/
theorem Executors.Confined.perform_program {executors : Executors α σ}
    (hconfined : executors.Confined) (operation : Operation σ) (m : Machine α σ) :
    (operation.perform executors m).2.program = m.program := by
  have hkeep : executors.Keep (·.program = m.program) := by
    intro executor instruction n hn
    rw [hconfined.program_eq, hn]
  exact (Machine.steady_program m.program).perform hkeep rfl operation

/-! ## Executors that play scripts -/

/-- Two scripts that perform the same operations and go by their replies, and by the machines that
these leave, alike. -/
inductive Script.Alike : Script α σ → Script α σ → Prop
  | finish (answer : Except MachineFault Datum) : Alike (.finish answer) (.finish answer)
  | act (operation : Operation σ) {next other : Reply → Machine α σ → Script α σ} :
      (∀ reply {m n : Machine α σ}, m.Alike n → Alike (next reply m) (other reply n)) →
      Alike (.act operation next) (.act operation other)

theorem Script.Alike.play {executors : Executors α σ} (hconfined : executors.Confined)
    {script other : Script α σ} (h : script.Alike other) {m n : Machine α σ} (hmn : m.Alike n) :
    Machine.OutcomesAlike (script.play executors m) (other.play executors n) := by
  induction h generalizing m n with
  | finish answer => exact ⟨rfl, hmn⟩
  | act operation _ ih =>
    obtain ⟨hreply, hlater⟩ := hmn.perform hconfined operation
    unfold Script.play
    dsimp only
    rw [← hreply]
    exact ih _ hlater hlater

/-- Executors that play scripts are confined, at every depth, if the scripts go by the machine that
they are handed alone: they may step it, run it, jump in it, reset it and change its memory. -/
theorem Executors.confined_ofScripts {scripts : α → Instruction α → Machine α σ → Script α σ}
    (h : ∀ executor instruction {m n : Machine α σ}, m.Alike n →
      (scripts executor instruction m).Alike (scripts executor instruction n))
    (tooDeep : MachineFault) (depth : Nat) : (ofScripts scripts tooDeep depth).Confined := by
  induction depth with
  | zero => exact ⟨fun _ _ _ _ _ => rfl, fun _ _ _ _ h => h, fun _ _ _ => rfl⟩
  | succ depth ih =>
    refine ⟨?_, ?_, ?_⟩
    · intro executor instruction m n hmn
      exact ((h executor instruction hmn).play ih hmn).1
    · intro executor instruction m n hmn
      exact ((h executor instruction hmn).play ih hmn).2
    · intro executor instruction m
      exact (Machine.steady_program m.program).play
        (fun executor instruction n hn => (ih.program_eq executor instruction n).trans hn)
        (scripts executor instruction m) rfl

end AsmKit
