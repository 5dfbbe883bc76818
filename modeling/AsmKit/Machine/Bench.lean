import AsmKit.Machine.Basic

/-!
Several machines side by side. Machines may share a program, so that a label set through one is
known to the others, and a memory; each has a counter and a current instruction of its own.
-/

namespace AsmKit

/-- A machine's own part: which program and which memory it works on, its counter and its current
instruction. -/
structure Seat (α : Type) where
  program : Nat
  memory : Nat
  counter : Int := 1
  current : Option (Instruction α) := none

/-- Programs, memories, and the machines over them, one of which is active. -/
structure Bench (α σ : Type) where
  programs : Array (Program α) := #[]
  memories : Array Memory := #[]
  seats : Array (Seat α) := #[]
  active : Nat := 0
  host : σ
  journal : Array Log.Event := #[]

namespace Bench

variable {α σ : Type}

def seat (bench : Bench α σ) : Seat α := bench.seats[bench.active]?.getD ⟨0, 0, 1, none⟩

def machine (bench : Bench α σ) : Machine α σ :=
  let seat := bench.seat
  { program := bench.programs[seat.program]?.getD {}
    memory := bench.memories[seat.memory]?.getD {}
    counter := seat.counter
    current := seat.current
    host := bench.host
    journal := bench.journal }

/-- The bench after the active machine has become `m`; machines that share its program or memory see
the change. -/
def update (bench : Bench α σ) (m : Machine α σ) : Bench α σ :=
  let seat := bench.seat
  { bench with
    programs := bench.programs.setIfInBounds seat.program m.program
    memories := bench.memories.setIfInBounds seat.memory m.memory
    seats := bench.seats.setIfInBounds bench.active
      { seat with counter := m.counter, current := m.current }
    host := m.host
    journal := m.journal }

def addProgram (bench : Bench α σ) (program : Program α) : Nat × Bench α σ :=
  (bench.programs.size, { bench with programs := bench.programs.push program })

def addMemory (bench : Bench α σ) : Nat × Bench α σ :=
  (bench.memories.size, { bench with memories := bench.memories.push {} })

def addMachine (bench : Bench α σ) (program memory : Nat) : Bench α σ :=
  { bench with
    seats := bench.seats.push { program, memory }
    active := bench.seats.size }

def use (bench : Bench α σ) (index : Nat) : Bench α σ := { bench with active := index }

def memoryOf? (bench : Bench α σ) (index : Nat) : Option Nat :=
  bench.seats[index]?.map Seat.memory

end Bench
end AsmKit
