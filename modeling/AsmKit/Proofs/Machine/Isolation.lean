import AsmKit.Machine.Bench
import AsmKit.Proofs.Machine.Confined

/-! # Machines side by side

Machines take turns on a bench, in any order. A turn of one leaves the counter
and the current instruction of every other where they are, and the memory too
if they do not share it. So a machine whose memory no other one uses goes the
way that it would go alone, and machines that share a memory are told apart by
nothing but their counters and current instructions. -/
namespace AsmKit
variable {α σ β : Type}

/-- What is done with a machine in its turn: an operation, or anything done with its stack and heap
that is answered from them. -/
inductive Action (σ β : Type) where
  | operate (operation : Operation σ)
  | consult (use : Memory → β × Memory)

/-- What comes of a turn. -/
inductive Response (β : Type) where
  | replied (reply : Reply)
  | answered (answer : β)

/-- The answer to an action, and the machine behind it. -/
def Action.perform (executors : Executors α σ) (m : Machine α σ) :
    Action σ β → Response β × Machine α σ
  | .operate operation =>
    let outcome := operation.perform executors m
    (.replied outcome.1, outcome.2)
  | .consult use =>
    let outcome := use m.memory
    (.answered outcome.1, { m with memory := outcome.2 })

/-- The answers to some actions, one after the other, and the machine behind them. -/
def Machine.performAll (executors : Executors α σ) :
    List (Action σ β) → Machine α σ → List (Response β) × Machine α σ
  | [], m => ([], m)
  | action :: rest, m =>
    let outcome := action.perform executors m
    let later := performAll executors rest outcome.2
    (outcome.1 :: later.1, later.2)

/-- What belongs to one seat, of what is listed with seats. -/
def ofSeat {γ : Type} (index : Nat) (entries : List (Nat × γ)) : List γ :=
  (entries.filter fun entry => entry.1 == index).map Prod.snd

theorem ofSeat_cons_self {γ : Type} (index : Nat) (entry : γ) (rest : List (Nat × γ)) :
    ofSeat index ((index, entry) :: rest) = entry :: ofSeat index rest := by
  simp [ofSeat]

theorem ofSeat_cons_other {γ : Type} {index other : Nat} (h : other ≠ index) (entry : γ)
    (rest : List (Nat × γ)) : ofSeat index ((other, entry) :: rest) = ofSeat index rest := by
  simp [ofSeat, h]

section Actions
variable {executors : Executors α σ} (hconfined : executors.Confined)
include hconfined

theorem Machine.Alike.act {m n : Machine α σ} (h : m.Alike n) (action : Action σ β) :
    OutcomesAlike (action.perform executors m) (action.perform executors n) := by
  cases action with
  | operate operation =>
    obtain ⟨hreply, hlater⟩ := h.perform hconfined operation
    exact ⟨congrArg Response.replied hreply, hlater⟩
  | consult use =>
    have huse : use m.memory = use n.memory := congrArg use h.memory_eq
    exact ⟨by simp only [Action.perform, huse], h.program_eq, by simp only [Action.perform, huse],
      h.counter_eq, h.current_eq⟩

theorem Action.perform_program (action : Action σ β) (m : Machine α σ) :
    (action.perform executors m).2.program = m.program := by
  cases action with
  | operate operation => exact hconfined.perform_program operation m
  | consult use => rfl

end Actions

namespace Bench

/-- The machine at a seat. -/
def machineAt (bench : Bench α σ) (index : Nat) : Machine α σ := (bench.use index).machine

/-- One turn: an action of the machine at a seat. -/
def turn (executors : Executors α σ) (bench : Bench α σ) (index : Nat) (action : Action σ β) :
    Response β × Bench α σ :=
  let outcome := action.perform executors (bench.machineAt index)
  (outcome.1, (bench.use index).update outcome.2)

/-- Turns one after the other, each at its seat: the answers with their seats, and the bench behind
the turns. -/
def play (executors : Executors α σ) :
    List (Nat × Action σ β) → Bench α σ → List (Nat × Response β) × Bench α σ
  | [], bench => ([], bench)
  | (index, action) :: rest, bench =>
    let outcome := bench.turn executors index action
    let later := play executors rest outcome.2
    ((index, outcome.1) :: later.1, later.2)

/-- The bench with one more machine over a program, which has a memory of its own. -/
def addMachineAlone (bench : Bench α σ) (program : Nat) : Bench α σ :=
  let grown := bench.addMemory
  grown.2.addMachine program grown.1

/-- A machine sits at a seat, over a program and a memory that are there. -/
structure Seated (bench : Bench α σ) (index program memory : Nat) : Prop where
  seat : ∃ seat, bench.seats[index]? = some seat ∧ seat.program = program ∧ seat.memory = memory
  program_lt : program < bench.programs.size
  memory_lt : memory < bench.memories.size

/-! ## What a turn changes -/

namespace Seated
variable {bench : Bench α σ} {index other program program' memory memory' : Nat}

/-- The seats stay, with their programs and memories, whatever becomes of the machine in turn. -/
theorem update (h : bench.Seated index program memory) (other : Nat) (m : Machine α σ) :
    ((bench.use other).update m).Seated index program memory := by
  obtain ⟨seat, hseat, hprogram, hmemory⟩ := h.seat
  refine ⟨?_, by simpa [Bench.update, use] using h.program_lt,
    by simpa [Bench.update, use] using h.memory_lt⟩
  by_cases heq : other = index
  · subst heq
    obtain ⟨hlt, hget⟩ := Array.getElem?_eq_some_iff.mp hseat
    refine ⟨{ seat with counter := m.counter, current := m.current }, ?_, hprogram, hmemory⟩
    simp [Bench.update, use, Bench.seat, hlt, hget]
  · refine ⟨seat, ?_, hprogram, hmemory⟩
    simpa [Bench.update, use, Array.getElem?_setIfInBounds_ne heq] using hseat

/-- The machine in turn is what became of it. -/
theorem machineAt_update_self (h : bench.Seated index program memory) (m : Machine α σ) :
    ((bench.use index).update m).machineAt index = m := by
  obtain ⟨seat, hseat, rfl, rfl⟩ := h.seat
  obtain ⟨hlt, hget⟩ := Array.getElem?_eq_some_iff.mp hseat
  simp [machineAt, machine, Bench.update, use, Bench.seat, hlt, hget, h.program_lt, h.memory_lt]

theorem machineAt_eq (h : bench.Seated index program memory) :
    ∃ seat, bench.seats[index]? = some seat ∧ (bench.machineAt index).counter = seat.counter ∧
      (bench.machineAt index).current = seat.current ∧
      bench.programs[program]? = some (bench.machineAt index).program ∧
      bench.memories[memory]? = some (bench.machineAt index).memory := by
  obtain ⟨seat, hseat, rfl, rfl⟩ := h.seat
  have hprogram := h.program_lt
  have hmemory := h.memory_lt
  refine ⟨seat, hseat, ?_⟩
  simp [machineAt, machine, use, Bench.seat, hseat, hprogram, hmemory]

/-- Machines at one memory have the same stack and the same heap. -/
theorem memory_eq (h : bench.Seated index program memory)
    (h' : bench.Seated other program' memory) :
    (bench.machineAt index).memory = (bench.machineAt other).memory := by
  obtain ⟨_, -, -, -, -, hmemory⟩ := h.machineAt_eq
  obtain ⟨_, -, -, -, -, hmemory'⟩ := h'.machineAt_eq
  exact Option.some.inj (hmemory.symm.trans hmemory')

/-- What becomes of another machine, which leaves its program as it is, moves neither the counter
nor the current instruction, and nothing in a memory of its own. -/
theorem machineAt_update_other (h : bench.Seated index program memory)
    (h' : bench.Seated other program' memory') (hne : other ≠ index) {m : Machine α σ}
    (hprogram : m.program = (bench.machineAt other).program) :
    (((bench.use other).update m).machineAt index).program = (bench.machineAt index).program ∧
      (((bench.use other).update m).machineAt index).counter = (bench.machineAt index).counter ∧
      (((bench.use other).update m).machineAt index).current = (bench.machineAt index).current ∧
      (memory ≠ memory' →
        (((bench.use other).update m).machineAt index).memory =
          (bench.machineAt index).memory) := by
  obtain ⟨seat, hseat, hcounter, hcurrent, hprograms, hmemories⟩ := h.machineAt_eq
  obtain ⟨seat', hseat', hcounter', hcurrent', hprograms', hmemories'⟩ :=
    (h.update other m).machineAt_eq
  obtain ⟨turn, hturn, hturnProgram, hturnMemory⟩ := h'.seat
  have hinturn : (bench.use other).seat = turn := by simp [use, Bench.seat, hturn]
  have hsame : seat' = seat := by
    have hstays : ((bench.use other).update m).seats[index]? = bench.seats[index]? :=
      Array.getElem?_setIfInBounds_ne hne
    rw [hstays, hseat] at hseat'
    exact (Option.some.inj hseat').symm
  rw [hcounter', hcurrent', hcounter, hcurrent, hsame]
  refine ⟨?_, rfl, rfl, fun hapart => ?_⟩
  · have hprogramsEq : ((bench.use other).update m).programs =
        bench.programs.setIfInBounds program' m.program := by
      simp only [Bench.update, hinturn, hturnProgram]
      rfl
    rw [hprogramsEq] at hprograms'
    by_cases heq : program' = program
    · -- The other machine works on the same program, which it puts back as it was.
      obtain ⟨_, -, -, -, hother, -⟩ := h'.machineAt_eq
      subst heq
      rw [Array.getElem?_setIfInBounds_self_of_lt h.program_lt, hprogram] at hprograms'
      rw [← Option.some.inj hprograms', ← Option.some.inj (hprograms.symm.trans hother)]
    · rw [Array.getElem?_setIfInBounds_ne heq, hprograms] at hprograms'
      exact (Option.some.inj hprograms').symm
  · have hmemoriesEq : ((bench.use other).update m).memories =
        bench.memories.setIfInBounds memory' m.memory := by
      simp only [Bench.update, hinturn, hturnMemory]
      rfl
    rw [hmemoriesEq, Array.getElem?_setIfInBounds_ne hapart.symm, hmemories] at hmemories'
    exact (Option.some.inj hmemories').symm

end Seated

/-! ## Turns -/

section Turns
variable {executors : Executors α σ} {bench : Bench α σ} {index program memory : Nat}

theorem Seated.turn (h : bench.Seated index program memory) (executors : Executors α σ)
    (other : Nat) (action : Action σ β) :
    (bench.turn executors other action).2.Seated index program memory :=
  h.update other _

theorem Seated.play (h : bench.Seated index program memory) (executors : Executors α σ)
    (turns : List (Nat × Action σ β)) :
    (bench.play executors turns).2.Seated index program memory := by
  induction turns generalizing bench with
  | nil => exact h
  | cons turn rest ih => exact ih (h.turn executors turn.1 turn.2)

theorem machineAt_turn_self (h : bench.Seated index program memory) (action : Action σ β) :
    (bench.turn executors index action).2.machineAt index =
      (action.perform executors (bench.machineAt index)).2 :=
  h.machineAt_update_self _

section Confined
variable (hconfined : executors.Confined)
include hconfined

/-- A turn of one machine moves no other. -/
theorem unmoved_turn (h : bench.Seated index program memory) {other program' memory' : Nat}
    (h' : bench.Seated other program' memory') (hne : other ≠ index) (action : Action σ β) :
    ((bench.turn executors other action).2.machineAt index).counter =
        (bench.machineAt index).counter ∧
      ((bench.turn executors other action).2.machineAt index).current =
        (bench.machineAt index).current := by
  obtain ⟨-, hcounter, hcurrent, -⟩ :=
    h.machineAt_update_other h' hne (action.perform_program hconfined (bench.machineAt other))
  exact ⟨hcounter, hcurrent⟩

/-- A turn of one machine leaves another one, with a memory of its own, as it is. -/
theorem alike_turn (h : bench.Seated index program memory) {other program' memory' : Nat}
    (h' : bench.Seated other program' memory') (hne : other ≠ index) (hapart : memory ≠ memory')
    (action : Action σ β) :
    ((bench.turn executors other action).2.machineAt index).Alike (bench.machineAt index) := by
  obtain ⟨hprogram, hcounter, hcurrent, hmemory⟩ :=
    h.machineAt_update_other h' hne (action.perform_program hconfined (bench.machineAt other))
  exact ⟨hprogram, hmemory hapart, hcounter, hcurrent⟩

/-- Among machines that do not use its memory, a machine answers as it would alone, and goes where
it would go alone. -/
theorem play_alone {turns : List (Nat × Action σ β)} (h : bench.Seated index program memory)
    (hothers : ∀ turn ∈ turns, turn.1 ≠ index →
      ∃ program' memory', bench.Seated turn.1 program' memory' ∧ memory ≠ memory')
    {m : Machine α σ} (hm : (bench.machineAt index).Alike m) :
    ofSeat index (bench.play executors turns).1 =
        (m.performAll executors (ofSeat index turns)).1 ∧
      ((bench.play executors turns).2.machineAt index).Alike
        (m.performAll executors (ofSeat index turns)).2 := by
  induction turns generalizing bench m with
  | nil => exact ⟨rfl, hm⟩
  | cons turn rest ih =>
    obtain ⟨other, action⟩ := turn
    obtain ⟨hturn, hrest⟩ := List.forall_mem_cons.mp hothers
    have hlater : ∀ turn ∈ rest, turn.1 ≠ index → ∃ program' memory',
        (bench.turn executors other action).2.Seated turn.1 program' memory' ∧
          memory ≠ memory' := by
      intro turn hmem hne
      obtain ⟨program', memory', h', hapart⟩ := hrest turn hmem hne
      exact ⟨program', memory', h'.turn executors other action, hapart⟩
    have hseated := h.turn executors other action
    by_cases hself : other = index
    · subst hself
      -- In its own turn the machine does what the one alone does.
      obtain ⟨hanswer, hbehind⟩ := hm.act hconfined action
      rw [← machineAt_turn_self h action] at hbehind
      obtain ⟨hanswers, hlast⟩ := ih hseated hlater hbehind
      rw [play, ofSeat_cons_self, ofSeat_cons_self, Machine.performAll]
      exact ⟨List.cons_eq_cons.mpr ⟨hanswer, hanswers⟩, hlast⟩
    · -- In another's turn it stays as it is.
      obtain ⟨program', memory', h', hapart⟩ := hturn hself
      have hstays := (alike_turn hconfined h h' hself hapart action).trans hm
      obtain ⟨hanswers, hlast⟩ := ih hseated hlater hstays
      rw [play, ofSeat_cons_other hself, ofSeat_cons_other hself]
      exact ⟨hanswers, hlast⟩

end Confined
end Turns

/-! ## New machines -/

theorem Seated.addMachineAlone {bench : Bench α σ} {index program memory : Nat}
    (h : bench.Seated index program memory) (other : Nat) :
    (bench.addMachineAlone other).Seated index program memory := by
  obtain ⟨seat, hseat, hprogram, hmemory⟩ := h.seat
  obtain ⟨hlt, hget⟩ := Array.getElem?_eq_some_iff.mp hseat
  refine ⟨⟨seat, ?_, hprogram, hmemory⟩, h.program_lt, ?_⟩
  · simpa [Bench.addMachineAlone, addMemory, addMachine, Array.getElem?_push_lt hlt] using hget
  · simpa [Bench.addMachineAlone, addMemory, addMachine] using Nat.lt_succ_of_lt h.memory_lt

/-- A machine that is given no memory starts with an empty one that no machine has yet. -/
theorem seated_addMachineAlone {bench : Bench α σ} {program : Nat}
    (h : program < bench.programs.size) :
    (bench.addMachineAlone program).Seated bench.seats.size program bench.memories.size := by
  refine ⟨⟨_, Array.getElem?_push_size, rfl, rfl⟩, h, ?_⟩
  simp [Bench.addMachineAlone, addMemory, addMachine]

/-- Let two machines over one program take turns in any order, with executors that act on nothing
but the machine they are handed and leave the program as it is. If their memories are different,
each gives the answers, and ends with the counter, the current instruction, the stack and the heap,
that its own actions alone give in their order. If they are given one memory, both have the same
stack and heap after any turns, and a turn of one moves neither the counter nor the current
instruction of the other. A machine that is given no memory gets another one than every machine
before it has. -/
theorem machines_share_memory_alone {executors : Executors α σ}
    (hconfined : executors.Confined) {bench : Bench α σ}
    {first second program memory memory' : Nat} (hne : first ≠ second)
    (hfirst : bench.Seated first program memory) (hsecond : bench.Seated second program memory')
    {turns : List (Nat × Action σ β)}
    (hturns : ∀ turn ∈ turns, turn.1 = first ∨ turn.1 = second) :
    let outcome := bench.play executors turns
    (memory ≠ memory' → ∀ index, index = first ∨ index = second →
      let alone := (bench.machineAt index).performAll executors (ofSeat index turns)
      ofSeat index outcome.1 = alone.1 ∧ (outcome.2.machineAt index).Alike alone.2) ∧
    (memory = memory' →
      (outcome.2.machineAt first).memory = (outcome.2.machineAt second).memory ∧
      ∀ (action : Action σ β) (index other : Nat),
        (index = first ∧ other = second ∨ index = second ∧ other = first) →
        let next := (outcome.2.turn executors other action).2
        (next.machineAt index).counter = (outcome.2.machineAt index).counter ∧
          (next.machineAt index).current = (outcome.2.machineAt index).current) ∧
    ∀ index program' given, bench.Seated index program' given →
      (bench.addMachineAlone program).Seated index program' given ∧
      ∃ own, (bench.addMachineAlone program).Seated bench.seats.size program own ∧ own ≠ given := by
  intro outcome
  have hfirst' := hfirst.play executors turns
  have hsecond' := hsecond.play executors turns
  refine ⟨?_, ?_, ?_⟩
  · intro hapart index hindex
    rcases hindex with rfl | rfl
    · refine play_alone hconfined hfirst (fun turn hmem hother => ?_) (.refl _)
      exact ⟨program, memory', (hturns turn hmem).resolve_left hother ▸ hsecond, hapart⟩
    · refine play_alone hconfined hsecond (fun turn hmem hother => ?_) (.refl _)
      exact ⟨program, memory, (hturns turn hmem).resolve_right hother ▸ hfirst, hapart.symm⟩
  · intro hshared
    subst hshared
    refine ⟨hfirst'.memory_eq hsecond', ?_⟩
    intro action index other hseats
    rcases hseats with ⟨rfl, rfl⟩ | ⟨rfl, rfl⟩
    · exact unmoved_turn hconfined hfirst' hsecond' hne.symm action
    · exact unmoved_turn hconfined hsecond' hfirst' hne action
  · intro index program' given h
    exact ⟨h.addMachineAlone program, _, seated_addMachineAlone hfirst.program_lt,
      Nat.ne_of_gt h.memory_lt⟩

/-- Executors that push their number. -/
def pushing : Executors Nat Unit :=
  Executors.ofScripts (fun number _ _ => .act
    (.remember fun memory => { memory with stack := memory.stack.push (.int number) })
    fun _ _ => .finish (.ok .null)) (.raised "depth" "") 1

theorem confined_pushing : pushing.Confined := by
  refine Executors.confined_ofScripts ?_ _ _
  intro number _ _ _ _
  exact .act _ fun _ _ _ _ => .finish (.ok .null)

/-- A program of two pushes, and machines over it: two with a memory each, and a third at the
memory of the first. -/
def threeMachines : Bench Nat Unit where
  programs := #[{ slots := [some ⟨1, "one", "one", [], some 1⟩, some ⟨2, "two", "two", [], some 2⟩]
                  lineCount := 2 }]
  memories := #[{}, {}]
  seats := #[⟨0, 0, 1, none⟩, ⟨0, 1, 1, none⟩, ⟨0, 0, 1, none⟩]
  host := ()

theorem pushes_stay_apart :
    let pop : Action Unit (Option Datum) := .consult fun memory =>
      (memory.stack.pop.1, { memory with stack := memory.stack.pop.2 })
    let apart := [(0, .operate .step), (1, .operate .step), (1, pop), (0, .operate .step), (0, pop)]
    let shared := [(0, .operate .step), (2, pop)]
    pushing.Confined ∧ threeMachines.Seated 0 0 0 ∧ threeMachines.Seated 1 0 1 ∧
      threeMachines.Seated 2 0 0 ∧
      ofSeat 1 (threeMachines.play pushing apart).1 =
        ((threeMachines.machineAt 1).performAll pushing [.operate .step, pop]).1 ∧
      ((threeMachines.play pushing shared).2.machineAt 0).memory =
        ((threeMachines.play pushing shared).2.machineAt 2).memory := by
  intro pop apart shared
  have hfirst : threeMachines.Seated 0 0 0 := ⟨⟨_, rfl, rfl, rfl⟩, by decide, by decide⟩
  have hsecond : threeMachines.Seated 1 0 1 := ⟨⟨_, rfl, rfl, rfl⟩, by decide, by decide⟩
  have hthird : threeMachines.Seated 2 0 0 := ⟨⟨_, rfl, rfl, rfl⟩, by decide, by decide⟩
  have hturns : ∀ turn ∈ apart, turn.1 = 0 ∨ turn.1 = 1 := by simp [apart]
  have hturns' : ∀ turn ∈ shared, turn.1 = 0 ∨ turn.1 = 2 := by simp [shared]
  obtain ⟨hapart, -, -⟩ :=
    machines_share_memory_alone confined_pushing (by decide) hfirst hsecond hturns
  obtain ⟨-, hshared, -⟩ :=
    machines_share_memory_alone confined_pushing (by decide) hfirst hthird hturns'
  exact ⟨confined_pushing, hfirst, hsecond, hthird, (hapart (by decide) 1 (.inr rfl)).1,
    (hshared rfl).1⟩

end Bench
end AsmKit
