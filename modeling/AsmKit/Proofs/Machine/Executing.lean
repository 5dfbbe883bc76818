import AsmKit.Proofs.Instruction.Operands
import AsmKit.Proofs.Machine.Step
import AsmKit.Proofs.Program.Reached

/-! # When a step reaches its executor

An instruction of a program has as many operands as its form has operand types,
and a step that finds it calls its executor, unless an operand is absent. An
operand is absent where the rule of its type matches without its first group.
Then the step fails, and the executor is not called. -/
namespace AsmKit

namespace Settings

/-- Settings with one operand rule, whose only group may take nothing. -/
def optionalGroup : Settings :=
  { standard with operandRules := [("t", ⟨"(a)?b", {}, 1, .seq
    (.loop .greedy 0 (some 1) (.group (some 1) (oneOf [.point 97]))) (oneOf [.point 98])⟩)] }

open scoped Text.Nameless in
theorem resolve_optionalGroup :
    Overrides.resolve (.named [("syntax", .table [("t", .datum (.text "(a)?b"))])]) =
      .ok optionalGroup :=
  eq_ok_of_toOption (by decide +kernel)

end Settings

namespace Machine
variable {α σ : Type}

/-- The next step calls the executor of the instruction and answers as the executor does. -/
def Executes (executors : Executors α σ) (m : Machine α σ) (instruction : Instruction α) : Prop :=
  ∃ call, m.call? executors = some call ∧ call.instruction = instruction ∧
    m.step executors = (call.answer.map Datum.goesOn, call.left)

theorem none_mem_of_presentOperands_error {operands : List (Option String)} {index first : Nat}
    (h : presentOperands first operands = .error index) : none ∈ operands := by
  induction operands generalizing first index with
  | nil => cases h
  | cons operand rest ih =>
    cases operand with
    | none => exact List.mem_cons_self
    | some text =>
      rw [presentOperands] at h
      cases hrest : presentOperands (first + 1) rest with
      | error other => exact List.mem_cons_of_mem _ (ih hrest)
      | ok texts => rw [hrest] at h; cases h

theorem none_notMem_of_presentOperands_ok {operands : List (Option String)} {first : Nat}
    {texts : List String} (h : presentOperands first operands = .ok texts) : none ∉ operands := by
  induction operands generalizing first texts with
  | nil => simp
  | cons operand rest ih =>
    cases operand with
    | none => cases h
    | some text =>
      rw [presentOperands] at h
      cases hrest : presentOperands (first + 1) rest with
      | error other => rw [hrest] at h; cases h
      | ok texts => simpa using ih hrest

theorem upcoming_of_first_slot {m : Machine α σ} {instruction : Instruction α}
    {rest : List (Option (Instruction α))} (hslots : m.program.slots = some instruction :: rest)
    (hcounter : m.counter = 1) : m.upcoming = some instruction := by
  have hnext : m.nextFilled = 1 := by simp [nextFilled, hslots, hcounter, List.findIdx?_cons]
  simp [upcoming, hnext, Program.get?, hslots]

/-- A step executes the instruction it finds exactly if all operands are there. -/
theorem executes_iff {executors : Executors α σ} {m : Machine α σ} {instruction : Instruction α}
    (hup : m.upcoming = some instruction) :
    m.Executes executors instruction ↔ none ∉ instruction.operands := by
  cases hoperands : presentOperands 0 instruction.operands with
  | error index =>
    have hcall : m.call? executors = none := by simp only [call?, hup, hoperands]
    constructor
    · rintro ⟨_, hsome, -⟩
      rw [hcall] at hsome
      cases hsome
    · intro h
      exact absurd (none_mem_of_presentOperands_error hoperands) h
  | ok texts =>
    refine ⟨fun _ => none_notMem_of_presentOperands_ok hoperands, fun _ => ?_⟩
    rcases m.step_cases executors with ⟨hnone, -⟩ | ⟨other, index, hsome, habsent, -⟩ |
      ⟨call, hsome, hcall, hstep⟩
    · rw [hup] at hnone; cases hnone
    · rw [hup] at hsome; cases hsome; rw [hoperands] at habsent; cases habsent
    · rw [hup] at hsome; cases hsome; exact ⟨call, hcall, rfl, hstep⟩

end Machine

namespace Program
variable {α : Type} {forms : List (InstructionForm α)} {settings : Settings}

/-- An instruction in a slot is what one of the forms makes of the tokens of its line. -/
theorem Reached.reads {lines : List String} {filled placed : Nat} {program : Program α}
    (h : Reached forms settings lines filled placed program) {instruction : Instruction α}
    (hmem : some instruction ∈ program.slots) :
    ∃ form ∈ forms, ∃ tokens, settings.statementOf instruction.text = form.mnemonic :: tokens ∧
      form.Reads settings tokens instruction := by
  obtain ⟨index, hslot⟩ := List.mem_iff_getElem?.mp hmem
  obtain ⟨line, -, hfilled⟩ := h.slotOf hslot
  cases hfilled with
  | filled hstatement hresolve _ htext =>
    obtain ⟨form, hform, hname, hreads⟩ := FormSearch.reads_of_answer hresolve
    exact ⟨form, hform, _, by rw [htext, hname]; exact hstatement, hreads⟩

end Program

theorem none_notMem_of_readOperands {settings : Settings} {pairs : List (String × String)}
    {operands : List (Option String)} (h : List.Forall₂ (ReadOperand settings) pairs operands)
    (hrules : ∀ entry ∈ settings.operandRules, ∀ token, decodeOperand entry.2 token ≠ some none) :
    none ∉ operands := by
  induction h with
  | nil => simp
  | @cons pair operand _ _ hread _ ih =>
    obtain ⟨rule, -, hrule, -, hdecode, -⟩ := hread
    have hmem := Settings.mem_of_operandRule hrule
    have hne : operand ≠ none := by
      rintro rfl
      exact hrules _ hmem _ hdecode
    simpa [eq_comm] using ⟨hne, ih⟩

namespace Machine
variable {α σ : Type} {forms : List (InstructionForm α)} {settings : Settings}

/-- An instruction of a program that was read is what one of the forms makes of the tokens of its
line. A step that finds it calls its executor exactly if no operand is absent, and none is where
no rule of the settings matches without its first group. -/
theorem step_executes_iff_operands_present {source later : LineSource} {report : Report α}
    (hread : Program.read forms settings source = .ok (report, later)) :
    (∀ instruction, some instruction ∈ report.program.slots → ∃ form ∈ forms, ∃ tokens,
      settings.statementOf instruction.text = form.mnemonic :: tokens ∧
        form.Reads settings tokens instruction) ∧
    (∀ (executors : Executors α σ) (m : Machine α σ) instruction,
      m.program = report.program → m.upcoming = some instruction →
        some instruction ∈ report.program.slots ∧
          (m.Executes executors instruction ↔ none ∉ instruction.operands)) ∧
    ((∀ entry ∈ settings.operandRules, ∀ token, decodeOperand entry.2 token ≠ some none) →
      ∀ instruction, some instruction ∈ report.program.slots → none ∉ instruction.operands) := by
  obtain ⟨lines, -, -, filled, placed, hreached⟩ := Program.read_reached hread
  refine ⟨fun instruction hmem => hreached.reads hmem, ?_, ?_⟩
  · intro executors m instruction hprogram hup
    obtain ⟨-, hslot⟩ := Program.get?_eq_some_iff.mp hup
    rw [hprogram] at hslot
    exact ⟨List.mem_of_getElem? hslot, executes_iff hup⟩
  · intro hrules instruction hmem
    obtain ⟨form, -, tokens, -, hreads⟩ := hreached.reads hmem
    exact none_notMem_of_readOperands hreads.operands hrules

/-- A number is an operand that is there, so the step that finds its instruction executes it. -/
theorem number_operand_is_executed :
    ∃ (report : Report Nat) (later : LineSource) (m : Machine Nat Unit)
      (instruction : Instruction Nat),
      Program.read [⟨"push", ["imm"], some 7⟩] .standard (.given ["push 5"] 0) =
        .ok (report, later) ∧
      m.program = report.program ∧ m.upcoming = some instruction ∧
      instruction.operands = [some "5"] ∧
      m.Executes (fun _ _ m => (.ok .null, m)) instruction := by
  let instruction : Instruction Nat := ⟨1, "push 5", "push", [some "5"], some 7⟩
  obtain ⟨report, later, hread, hslots⟩ : ∃ (report : Report Nat) (later : LineSource),
      Program.read [⟨"push", ["imm"], some 7⟩] .standard (.given ["push 5"] 0) =
        .ok (report, later) ∧ report.program.slots = [some instruction] :=
    ⟨Program.readLines [⟨"push", ["imm"], some 7⟩] .standard {} ["push 5"], _, rfl,
      by decide +kernel⟩
  let m : Machine Nat Unit := { program := report.program, host := () }
  have hup : m.upcoming = some instruction := upcoming_of_first_slot hslots rfl
  obtain ⟨-, hsteps, -⟩ := step_executes_iff_operands_present (σ := Unit) hread
  obtain ⟨-, hexecutes⟩ := hsteps (fun _ _ m => (.ok .null, m)) m instruction rfl hup
  exact ⟨report, later, m, instruction, hread, rfl, hup, rfl,
    hexecutes.mpr (by simp [instruction])⟩

section
open scoped Text.Nameless

/-- A rule with an optional group, `(a)?b`, reads an absent operand from the token `b`. The line is
accepted, and the step that finds it fails in front of the executor. -/
theorem optional_group_keeps_step_from_executor :
    ∃ (settings : Settings) (report : Report Nat) (later : LineSource)
      (instruction : Instruction Nat),
      Settings.Overrides.resolve (.named [("syntax", .table [("t", .datum (.text "(a)?b"))])]) =
        .ok settings ∧
      Program.read [⟨"m", ["t"], some 7⟩] settings (.text (.ofText settings "m b".toList)) =
        .ok (report, later) ∧
      report.ending = .complete ∧ report.program.slots = [some instruction] ∧
      instruction.operands = [none] ∧
      ∀ (executors : Executors Nat Unit) (memory : Memory),
        let m : Machine Nat Unit := { program := report.program, memory, host := () }
        m.upcoming = some instruction ∧ ¬ m.Executes executors instruction ∧
          (m.step executors).1 = .error (.absentOperand 0) := by
  let instruction : Instruction Nat := ⟨1, "m b", "m", [none], some 7⟩
  obtain ⟨report, later, hread, hending, hslots⟩ : ∃ (report : Report Nat) (later : LineSource),
      Program.read [⟨"m", ["t"], some 7⟩] .optionalGroup
        (.text (.ofText .optionalGroup "m b".toList)) = .ok (report, later) ∧
      report.ending = .complete ∧ report.program.slots = [some instruction] :=
    ⟨_, _, Program.read_text _ _ _, by decide +kernel, by decide +kernel⟩
  refine ⟨.optionalGroup, report, later, instruction, Settings.resolve_optionalGroup, hread,
    hending, hslots, rfl, ?_⟩
  intro executors memory m
  have hup : m.upcoming = some instruction := upcoming_of_first_slot hslots rfl
  refine ⟨hup, ?_, congrArg Prod.fst (step_of_absent hup rfl)⟩
  rw [executes_iff hup]
  exact fun h => h List.mem_cons_self

end

end Machine
end AsmKit
