import AsmKit.Proofs.Machine.Step

/-! # Executors that work on their machine

An executor may step and run the machine that it is handed, jump, reset it and
change its memory, and go by what comes of that. A script says what it does; a
step that a script makes plays scripts in turn, one level deeper. A property
that the single moves of a machine keep is kept by whatever scripts do, at any
depth, and so holds of every machine that a new one can become. -/
namespace AsmKit

/-- What may be done with a machine. -/
inductive Operation (σ : Type) where
  | step
  | run (limit : Nat)
  | jump (room : Nat) (destination : Datum)
  | reset (clearMemory : Bool)
  | remember (change : Memory → Memory)
  | note (change : σ → σ)

/-- What an operation hands back. -/
inductive Reply where
  | stepped (answer : Except MachineFault Bool)
  | ran (ending : Machine.RunEnd)
  | jumped (answer : Except MachineFault (Option Problem))
  | done

/-- What an executor does: it performs operations, goes by their replies and the machines that
they leave, and answers in the end. -/
inductive Script (α σ : Type) where
  | finish (answer : Except MachineFault Datum)
  | act (operation : Operation σ) (next : Reply → Machine α σ → Script α σ)

variable {α σ : Type}

/-- The reply to an operation and the machine behind it. -/
def Operation.perform (executors : Executors α σ) (m : Machine α σ) :
    Operation σ → Reply × Machine α σ
  | .step =>
    let outcome := m.step executors
    (.stepped outcome.1, outcome.2)
  | .run limit =>
    let outcome := m.run executors limit
    (.ran outcome.1, outcome.2)
  | .jump room destination =>
    let outcome := m.jump room destination
    (.jumped outcome.1, outcome.2)
  | .reset clearMemory => (.done, m.reset clearMemory)
  | .remember change => (.done, { m with memory := change m.memory })
  | .note change => (.done, { m with host := change m.host })

/-- The answer of a script and the machine as it leaves it. -/
def Script.play (executors : Executors α σ) :
    Script α σ → Machine α σ → Except MachineFault Datum × Machine α σ
  | .finish answer, m => (answer, m)
  | .act operation next, m =>
    let outcome := operation.perform executors m
    (next outcome.1 outcome.2).play executors outcome.2

namespace Executors

/-- Executors that play scripts. The calls inside a call play the scripts in turn, down to a
depth at which a call fails instead. -/
def ofScripts (scripts : α → Instruction α → Machine α σ → Script α σ) (tooDeep : MachineFault) :
    Nat → Executors α σ
  | 0 => fun _ _ m => (.error tooDeep, m)
  | depth + 1 => fun executor instruction m =>
    (scripts executor instruction m).play (ofScripts scripts tooDeep depth) m

/-- Executors leave a property as it is. -/
def Keep (executors : Executors α σ) (I : Machine α σ → Prop) : Prop :=
  ∀ executor instruction m, I m → I (executors executor instruction m).2

end Executors

namespace Machine

/-- The machines that a new one over a program becomes, whatever operations are performed on it
and whatever the scripts of its instructions do. The machine that an executor is handed is among
them, and so is all that it makes of it on the way. -/
inductive Reachable (scripts : α → Instruction α → Machine α σ → Script α σ)
    (tooDeep : MachineFault) (program : Program α) : Machine α σ → Prop
  | fresh (memory : Memory) (host : σ) (journal : Array Log.Event) :
      Reachable scripts tooDeep program { program, memory, host, journal }
  | performed {m : Machine α σ} (depth : Nat) (operation : Operation σ) :
      Reachable scripts tooDeep program m → Reachable scripts tooDeep program
        (operation.perform (Executors.ofScripts scripts tooDeep depth) m).2
  | handed {m : Machine α σ} {call : Call α σ} (depth : Nat) :
      Reachable scripts tooDeep program m →
      m.call? (Executors.ofScripts scripts tooDeep depth) = some call →
      Reachable scripts tooDeep program call.given

/-- A property of machines that the single moves of a machine keep. -/
structure Steady (I : Machine α σ → Prop) : Prop where
  entered : ∀ {m instruction}, I m → m.upcoming = some instruction → I (m.entered instruction)
  ranOff : ∀ {m}, I m → m.upcoming = none → I { m with counter := m.nextFilled }
  report : ∀ {m} event, I m → I (m.report event)
  jump : ∀ {m} room destination, I m → I (m.jump room destination).2
  reset : ∀ {m} clearMemory, I m → I (m.reset clearMemory)
  remember : ∀ {m} (change : Memory → Memory), I m → I { m with memory := change m.memory }
  note : ∀ {m} (change : σ → σ), I m → I { m with host := change m.host }

namespace Steady
variable {I : Machine α σ → Prop} {executors : Executors α σ} {m : Machine α σ}

theorem given (hI : Steady I) {call : Call α σ} (h : I m) (hcall : m.call? executors = some call) :
    I call.given := by
  obtain ⟨instruction, operands, hup, rfl⟩ := call?_eq_some hcall
  have hgiven := hI.report (.stepped instruction.lineNumber instruction.mnemonic operands)
    (hI.entered h hup)
  unfold callOf
  split <;> exact hgiven

theorem left (hI : Steady I) (hkeep : executors.Keep I) {call : Call α σ} (h : I m)
    (hcall : m.call? executors = some call) : I call.left := by
  obtain ⟨instruction, operands, hup, rfl⟩ := call?_eq_some hcall
  have hgiven := hI.report (.stepped instruction.lineNumber instruction.mnemonic operands)
    (hI.entered h hup)
  unfold callOf
  split
  · exact hgiven
  · exact hkeep _ _ _ hgiven

/-- A step keeps what its moves and the executors keep. -/
theorem step (hI : Steady I) (hkeep : executors.Keep I) (h : I m) : I (m.step executors).2 := by
  rcases m.step_cases executors with ⟨hup, hstep⟩ | ⟨instruction, _, hup, -, hstep⟩ |
    ⟨call, -, hcall, hstep⟩
  · rw [hstep]; exact hI.ranOff h hup
  · rw [hstep]; exact hI.entered h hup
  · rw [hstep]; exact hI.left hkeep h hcall

theorem runFrom (hI : Steady I) (hkeep : executors.Keep I) (limit done : Nat) (h : I m) :
    I (m.runFrom executors limit done).2 := by
  induction limit generalizing m done with
  | zero =>
    cases hup : m.upcoming with
    | none => rw [runFrom_of_upcoming_none hup]; exact h
    | some instruction => rw [runFrom_zero hup]; exact h
  | succ limit ih =>
    cases hup : m.upcoming with
    | none => rw [runFrom_of_upcoming_none hup]; exact h
    | some instruction =>
      have hlater := hI.step hkeep h
      rw [runFrom_succ hup]
      split <;> rename_i hstep <;> rw [hstep] at hlater
      · exact ih (done + 1) hlater
      · exact hlater
      · exact hlater

theorem perform (hI : Steady I) (hkeep : executors.Keep I) (h : I m) (operation : Operation σ) :
    I (operation.perform executors m).2 := by
  cases operation with
  | step => exact hI.step hkeep h
  | run limit => exact hI.runFrom hkeep limit 0 h
  | jump room destination => exact hI.jump room destination h
  | reset clearMemory => exact hI.reset clearMemory h
  | remember change => exact hI.remember change h
  | note change => exact hI.note change h

theorem play (hI : Steady I) (hkeep : executors.Keep I) (script : Script α σ) (h : I m) :
    I (script.play executors m).2 := by
  induction script generalizing m with
  | finish answer => exact h
  | act operation next ih => exact ih _ _ (hI.perform hkeep h operation)

/-- Scripts keep, at every depth, what the single moves of a machine keep. -/
theorem ofScripts (hI : Steady I) (scripts : α → Instruction α → Machine α σ → Script α σ)
    (tooDeep : MachineFault) (depth : Nat) :
    (Executors.ofScripts scripts tooDeep depth).Keep I := by
  induction depth with
  | zero => exact fun _ _ _ h => h
  | succ depth ih => exact fun _ _ _ h => hI.play ih _ h

/-- What the single moves of a machine keep, and new machines have, all reachable ones have. -/
theorem of_reachable (hI : Steady I) {scripts : α → Instruction α → Machine α σ → Script α σ}
    {tooDeep : MachineFault} {program : Program α}
    (hfresh : ∀ memory host journal, I { program, memory, host, journal })
    (h : Reachable scripts tooDeep program m) : I m := by
  induction h with
  | fresh memory host journal => exact hfresh memory host journal
  | performed depth operation _ ih =>
    exact hI.perform (hI.ofScripts scripts tooDeep depth) ih operation
  | handed depth _ hcall ih => exact hI.given ih hcall

end Steady
end Machine
end AsmKit
