import AsmKit.Proofs.Machine.Executing
import AsmKit.Proofs.Machine.Loop

/-! # What one step does

A step walks over empty slots, a position at a time, until it stands at an
instruction or behind the slots. The walk always ends: at the first instruction
from the counter on, and without one behind the slots. Main statement: the step
hands that instruction to its executor, once, and answers for what comes back;
without one it moves the counter and does nothing else. -/
namespace AsmKit

namespace Program
variable {α : Type}

/-- The position is one to walk past: it does not lie behind the slots and holds no instruction. -/
def Passes (program : Program α) (position : Int) : Prop :=
  position ≤ program.slots.length ∧ program.get? position = none

/-- A walk from a position on, the number of its turns, and where it ends. -/
inductive Walk (program : Program α) : Int → Nat → Int → Prop
  | stand {position : Int} : ¬ program.Passes position → Walk program position 0 position
  | turn {position last : Int} {turns : Nat} : program.Passes position →
      Walk program (position + 1) turns last → Walk program position (turns + 1) last

/-- From each position there is one walk. -/
theorem Walk.unique {program : Program α} {start last other : Int} {turns more : Nat}
    (h : program.Walk start turns last) (h' : program.Walk start more other) :
    more = turns ∧ other = last := by
  induction h generalizing more other with
  | stand hstop =>
    cases h' with
    | stand _ => exact ⟨rfl, rfl⟩
    | turn hpass _ => exact absurd hpass hstop
  | turn hpass _ ih =>
    cases h' with
    | stand hstop => exact absurd hpass hstop
    | turn _ hrest =>
      obtain ⟨rfl, rfl⟩ := ih hrest
      exact ⟨rfl, rfl⟩

theorem walk_of_passes {program : Program α} {start last : Int} (hle : start ≤ last)
    (hpass : ∀ between, start ≤ between → between < last → program.Passes between)
    (hstop : ¬ program.Passes last) : program.Walk start (last - start).toNat last := by
  generalize hturns : (last - start).toNat = turns
  induction turns generalizing start with
  | zero =>
    obtain rfl : start = last := by omega
    exact .stand hstop
  | succ turns ih =>
    refine .turn (hpass start (by omega) (by omega)) (ih (by omega) ?_ (by omega))
    exact fun between hlow hhigh => hpass between (by omega) hhigh

theorem FirstFrom.unique {program : Program α} {start position other : Int}
    {instruction another : Instruction α} (h : program.FirstFrom start position instruction)
    (h' : program.FirstFrom start other another) : other = position ∧ another = instruction := by
  have hget := h.get?_eq
  have hget' := h'.get?_eq
  rcases Int.lt_trichotomy position other with hlt | rfl | hgt
  · rw [h'.empty_between position h.start_le hlt] at hget
    cases hget
  · rw [hget] at hget'
    exact ⟨rfl, (Option.some.inj hget').symm⟩
  · rw [h.empty_between other h'.start_le hgt] at hget'
    cases hget'

end Program

namespace Machine
variable {α σ : Type}

/-! ## The walk to the next position -/

theorem counter_le_nextFilled (m : Machine α σ) : m.counter ≤ m.nextFilled := by
  rcases m.nextFilled_cases with ⟨_, -, hle, -⟩ | ⟨-, hnext⟩
  · exact hle
  · omega

/-- From the counter the walk ends at the next position. -/
theorem walk_nextFilled (m : Machine α σ) :
    m.program.Walk m.counter (m.nextFilled - m.counter).toNat m.nextFilled := by
  refine Program.walk_of_passes m.counter_le_nextFilled (fun between hlow hhigh => ?_) ?_
  · refine ⟨?_, get?_of_lt_nextFilled hlow hhigh⟩
    rcases m.nextFilled_cases with ⟨_, -, -, -, hlast⟩ | ⟨-, hnext⟩ <;> omega
  · rintro ⟨hlast, hempty⟩
    rcases m.nextFilled_cases with ⟨instruction, hup, -⟩ | ⟨-, hnext⟩
    · rw [upcoming, hempty] at hup
      cases hup
    · omega

/-- Positions in front of the first slot are as good as the first slot itself. -/
theorem firstFrom_nextFilled {m : Machine α σ} {instruction : Instruction α}
    (h : m.upcoming = some instruction) :
    m.program.FirstFrom (max m.counter 1) m.nextFilled instruction := by
  obtain ⟨hpos, -⟩ := Program.get?_eq_some_iff.mp h
  have hle := m.counter_le_nextFilled
  exact ⟨by omega, h, fun _ hlow hhigh => get?_of_lt_nextFilled (by omega) hhigh⟩

theorem upcoming_of_firstFrom {m : Machine α σ} {position : Int} {instruction : Instruction α}
    (h : m.program.FirstFrom (max m.counter 1) position instruction) :
    m.upcoming = some instruction ∧ m.nextFilled = position := by
  have hlow := h.start_le
  rcases m.upcoming_cases with ⟨other, hup, -⟩ | ⟨-, hempty⟩
  · obtain ⟨hnext, rfl⟩ := h.unique (firstFrom_nextFilled hup)
    exact ⟨hup, hnext⟩
  · have hget := h.get?_eq
    rw [hempty position (by omega)] at hget
    cases hget

theorem upcoming_eq_none {m : Machine α σ}
    (h : ∀ position, max m.counter 1 ≤ position → m.program.get? position = none) :
    m.upcoming = none := by
  rw [Option.eq_none_iff_forall_ne_some]
  intro instruction hup
  have hfirst := firstFrom_nextFilled hup
  rw [upcoming, h _ hfirst.start_le] at hup
  cases hup

/-! ## The call of a step -/

/-- How a step answers for its executor: null counts as a yes, and any other datum as what it is. -/
inductive Answers : Except MachineFault Datum → Except MachineFault Bool → Prop
  | null : Answers (.ok .null) (.ok true)
  | datum {datum : Datum} : datum ≠ .null → Answers (.ok datum) (.ok datum.isTrue)
  | fault (fault : MachineFault) : Answers (.error fault) (.error fault)

theorem answers_goesOn (answer : Except MachineFault Datum) :
    Answers answer (answer.map Datum.goesOn) := by
  match answer with
  | .error fault => exact .fault fault
  | .ok .null => exact .null
  | .ok (.bool _) | .ok (.int _) | .ok (.float _) | .ok (.text _) | .ok (.list _)
  | .ok (.record _) => exact .datum nofun

theorem exists_presentOperands {operands : List (Option String)} (h : none ∉ operands)
    (first : Nat) :
    ∃ texts, operands = texts.map some ∧ presentOperands first operands = .ok texts := by
  induction operands generalizing first with
  | nil => exact ⟨[], rfl, rfl⟩
  | cons operand rest ih =>
    cases operand with
    | none => exact absurd List.mem_cons_self h
    | some text =>
      obtain ⟨texts, hrest, hpresent⟩ :=
        ih (fun hmem => h (List.mem_cons_of_mem _ hmem)) (first + 1)
      exact ⟨text :: texts, by rw [hrest]; rfl, by rw [presentOperands, hpresent]; rfl⟩

/-- The machine that an executor is handed: the counter stands behind the instruction, which is the
current one. The step is reported, and nothing else is changed. -/
def handed (m : Machine α σ) (position : Int) (instruction : Instruction α)
    (texts : List String) : Machine α σ :=
  { m with
    counter := position + 1
    current := some instruction
    journal :=
      m.journal.push (.stepped instruction.lineNumber instruction.mnemonic texts) }

/-- The machine with a record of calls beside what the executors keep. -/
def withRecord (m : Machine α σ) (record : List (Instruction α)) :
    Machine α (σ × List (Instruction α)) :=
  { m with host := (m.host, record) }

theorem step_of_present (executors : Executors α σ) {m : Machine α σ}
    {instruction : Instruction α} {texts : List String} (hup : m.upcoming = some instruction)
    (htexts : presentOperands 0 instruction.operands = .ok texts) :
    m.step executors =
      match instruction.executor with
      | none => (.error (.noExecutor instruction.mnemonic instruction.lineNumber),
          m.handed m.nextFilled instruction texts)
      | some executor =>
        let outcome := executors executor instruction (m.handed m.nextFilled instruction texts)
        (outcome.1.map Datum.goesOn, outcome.2) := by
  unfold upcoming at hup
  simp only [step, hup, execute, htexts]
  rfl

theorem step_noting {executors : Executors α σ} {m : Machine α σ} {instruction : Instruction α}
    {texts : List String} {executor : α} (hup : m.upcoming = some instruction)
    (htexts : presentOperands 0 instruction.operands = .ok texts)
    (hexecutor : instruction.executor = some executor) (record : List (Instruction α)) :
    (m.withRecord record).step (noting executors) =
      ((m.step executors).1, (m.step executors).2.withRecord (record ++ [instruction])) := by
  have hup' : (m.withRecord record).upcoming = some instruction := hup
  rw [step_of_present _ hup htexts, step_of_present _ hup' htexts, hexecutor]
  rfl

/-- The walk from the counter ends. If it ends at an instruction, which is then the first from the
counter on, the step calls the executor of it once, with the machine as it was but for the counter
and the current instruction. If there is no instruction from the counter on, the step says no and
moves the counter behind the program, where a further step changes nothing. -/
theorem step_runs_first_instruction {m : Machine α σ}
    (hoperands : ∀ instruction, some instruction ∈ m.program.slots →
      none ∉ instruction.operands) :
    (∃ turns last, m.program.Walk m.counter turns last ∧
      ∀ more other, m.program.Walk m.counter more other → more = turns ∧ other = last) ∧
    (∀ position instruction,
      m.program.FirstFrom (max m.counter 1) position instruction →
        m.upcoming = some instruction ∧
        (∃ turns, m.program.Walk m.counter turns position) ∧
        ∃ texts, instruction.operands = texts.map some ∧
          let given := m.handed position instruction texts
          ∀ executors : Executors α σ,
            (instruction.executor = none → m.step executors =
              (.error (.noExecutor instruction.mnemonic instruction.lineNumber), given)) ∧
            ∀ executor, instruction.executor = some executor →
              Answers (executors executor instruction given).1 (m.step executors).1 ∧
              (m.step executors).2 = (executors executor instruction given).2 ∧
              ∀ record, (m.withRecord record).step (noting executors) =
                ((m.step executors).1,
                  (m.step executors).2.withRecord (record ++ [instruction]))) ∧
    ((∀ position, max m.counter 1 ≤ position → m.program.get? position = none) →
      m.upcoming = none ∧
      let last := { m with counter := max m.counter (m.program.slots.length + 1) }
      (∃ turns, m.program.Walk m.counter turns last.counter) ∧
      ∀ executors : Executors α σ, m.step executors = (.ok false, last) ∧
        last.step executors = (.ok false, last)) := by
  refine ⟨⟨_, _, m.walk_nextFilled, fun _ _ h => m.walk_nextFilled.unique h⟩, ?_, ?_⟩
  · intro position instruction hfirst
    obtain ⟨hup, rfl⟩ := upcoming_of_firstFrom hfirst
    obtain ⟨-, hslot⟩ := Program.get?_eq_some_iff.mp hfirst.get?_eq
    obtain ⟨texts, hmap, htexts⟩ :=
      exists_presentOperands (hoperands instruction (List.mem_of_getElem? hslot)) 0
    refine ⟨hup, ⟨_, m.walk_nextFilled⟩, texts, hmap, fun executors => ⟨?_, ?_⟩⟩
    · intro hnone
      rw [step_of_present executors hup htexts, hnone]
    · intro executor hexecutor
      have hstep := step_of_present executors hup htexts
      rw [hexecutor] at hstep
      refine ⟨?_, by rw [hstep], fun record => step_noting hup htexts hexecutor record⟩
      rw [hstep]
      exact answers_goesOn _
  · intro hempty
    have hup := upcoming_eq_none hempty
    have hnext := nextFilled_of_upcoming_none hup
    refine ⟨hup, ⟨_, hnext ▸ m.walk_nextFilled⟩, fun executors => ⟨step_of_upcoming_none hup, ?_⟩⟩
    -- Behind the program there is nothing left either, and the counter is not moved again.
    let last := { m with counter := max m.counter (m.program.slots.length + 1) }
    have hlast : last.upcoming = none :=
      upcoming_eq_none fun position hle => hempty position (by
        have hcounter : last.counter = max m.counter (m.program.slots.length + 1) := rfl
        omega)
    have hstay : max last.counter (last.program.slots.length + 1) = last.counter := by
      show max (max m.counter (m.program.slots.length + 1)) (m.program.slots.length + 1) =
        max m.counter (m.program.slots.length + 1)
      omega
    have hstep : last.step executors =
        (.ok false, { last with counter := max last.counter (last.program.slots.length + 1) }) :=
      step_of_upcoming_none hlast
    rw [hstay] at hstep
    exact hstep

/-- One instruction between two gaps: a step from far in front of the slots walks to it and answers
for the empty text that its executor hands back, and a step from behind it runs off the program. -/
theorem step_walks_over_gaps :
    let program : Program Nat :=
      { slots := [none, some ⟨2, "nop", "nop", [], some 7⟩, none], lineCount := 3 }
    let machine (counter : Int) : Machine Nat Unit := { program, counter, host := () }
    let executors : Executors Nat Unit := fun _ _ m => (.ok (.text ""), m)
    (∀ instruction, some instruction ∈ program.slots → none ∉ instruction.operands) ∧
      (∃ turns, program.Walk (-1) turns 2) ∧
      ((machine (-1)).step executors).1 = .ok false ∧ ((machine (-1)).step executors).2.counter = 3 ∧
      (machine 3).step executors = (.ok false, machine 4) ∧
      (machine 4).step executors = (.ok false, machine 4) := by
  intro program machine executors
  let nop : Instruction Nat := ⟨2, "nop", "nop", [], some 7⟩
  have hoperands : ∀ instruction, some instruction ∈ program.slots →
      none ∉ instruction.operands := by
    intro instruction hmem
    obtain rfl : instruction = nop := by simpa [program, nop] using hmem
    exact List.not_mem_nil
  have hfirst : program.FirstFrom (max (-1) 1) 2 nop := by
    refine ⟨by decide, rfl, fun between hlow hhigh => ?_⟩
    obtain rfl : between = 1 := by omega
    rfl
  obtain ⟨-, hruns, -⟩ := step_runs_first_instruction (m := machine (-1)) hoperands
  obtain ⟨-, hwalk, texts, -, hcall⟩ := hruns 2 nop hfirst
  obtain ⟨hanswer, hlater, -⟩ := (hcall executors).2 7 rfl
  obtain ⟨-, -, hnone⟩ := step_runs_first_instruction (m := machine 3) hoperands
  obtain ⟨-, -, hoff⟩ := hnone fun position hle => by
    rw [Option.eq_none_iff_forall_ne_some]
    intro instruction hget
    obtain ⟨-, hslot⟩ := Program.get?_eq_some_iff.mp hget
    obtain ⟨hlt, -⟩ := List.getElem?_eq_some_iff.mp hslot
    have hlow : max (3 : Int) 1 ≤ position := hle
    have hlength : (position - 1).toNat < 3 := hlt
    obtain rfl : position = 3 := by omega
    cases hslot
  refine ⟨hoperands, hwalk, ?_, by rw [hlater]; rfl, hoff executors⟩
  generalize ((machine (-1)).step executors).1 = answer at hanswer ⊢
  cases hanswer
  rfl

end Machine
end AsmKit
