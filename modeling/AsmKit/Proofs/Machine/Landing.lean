import AsmKit.Proofs.Machine.Executing

/-! # Where a jump to a label lands

A label of a program that was read lies on one of its lines, the first that has
it, so a jump to it always succeeds. From there the next step finds the first
instruction at or below that line. This holds of partial programs as well, whose
last label may mark a line without a slot. -/
namespace AsmKit.Machine
open Program (FirstLabelled Reached)
variable {α σ : Type} {forms : List (InstructionForm α)} {settings : Settings}
  {lines : List String}

/-- The instruction stands on a line of the text, whose number and text it carries. -/
def StandsOn (lines : List String) (position : Int) (instruction : Instruction α) : Prop :=
  instruction.lineNumber = position ∧ lines[(position - 1).toNat]? = some instruction.text

/-- How a machine at a position goes on: its next step finds the first instruction from the
position on, and executes it unless an operand is absent; without one it answers no. -/
def GoesOnFrom (lines : List String) (location : Int) (m : Machine α σ) : Prop :=
  (∃ position instruction, m.program.FirstFrom location position instruction ∧
    StandsOn lines position instruction ∧ ∀ executors : Executors α σ,
      (m.Executes executors instruction ↔ none ∉ instruction.operands)) ∨
  (∀ position, location ≤ position → m.program.get? position = none) ∧
    ∀ executors : Executors α σ, m.step executors =
      (.ok false, { m with counter := max m.counter (m.program.slots.length + 1) })

theorem standsOn_of_get? {filled placed : Nat} {program : Program α}
    (h : Reached forms settings lines filled placed program) {position : Int}
    {instruction : Instruction α} (hget : program.get? position = some instruction) :
    StandsOn lines position instruction := by
  obtain ⟨hpos, hslot⟩ := Program.get?_eq_some_iff.mp hget
  obtain ⟨line, hline, hfilled⟩ := h.slotOf hslot
  cases hfilled with
  | filled _ _ hnumber htext =>
    refine ⟨?_, by rw [htext]; exact hline⟩
    rw [hnumber]
    omega

theorem goesOnFrom_counter {filled placed : Nat} {m : Machine α σ}
    (h : Reached forms settings lines filled placed m.program) :
    GoesOnFrom lines m.counter m := by
  rcases m.upcoming_cases with ⟨instruction, hup, hfirst⟩ | ⟨hup, hempty⟩
  · exact .inl ⟨m.nextFilled, instruction, hfirst, standsOn_of_get? h hfirst.get?_eq,
      fun _ => executes_iff hup⟩
  · exact .inr ⟨hempty, fun _ => step_of_upcoming_none hup⟩

/-- Every label of a program that was read, in full or in part, is kept under its own name and lies
on the first line that has it. A jump to it goes there from any machine over the program, and the
next step finds the first instruction from there on. -/
theorem label_lands_on_first_instruction {source later : LineSource} {report : Report α}
    (h : source.HandsOut lines) (hread : Program.read forms settings source = .ok (report, later))
    {name : String} {label : Label} (hentry : (name, label) ∈ report.program.labels) :
    label.name = name ∧ report.program.label? name = some label.location ∧
    (1 ≤ label.location ∧ label.location ≤ report.program.lineCount) ∧
    (∃ index : Nat, label.location = index + 1 ∧ FirstLabelled settings lines name index) ∧
    ∀ (m : Machine α σ) (room : Nat), m.program = report.program →
      ∃ back, m.jump room (.text name) = (.ok none, back) ∧
        back = { m.report (.jumped name label.location) with counter := label.location } ∧
        GoesOnFrom lines label.location back := by
  obtain ⟨drained, after, hdrain, filled, placed, hreached⟩ := Program.read_reached hread
  obtain ⟨after', hdrain'⟩ := h.drain
  obtain ⟨rfl, -⟩ := Prod.mk.inj (Except.ok.inj (hdrain.symm.trans hdrain'))
  obtain ⟨hname, hlabel⟩ := hreached.labels.label?_of_mem hentry
  obtain ⟨index, hlocation, hplaced, hfirst⟩ := hreached.firstLabelled hlabel
  have hcount := hreached.placed_le
  refine ⟨hname, hlabel, by omega, ⟨index, hlocation, hfirst⟩, ?_⟩
  intro m room hprogram
  refine ⟨_, jump_label m room (by rw [hprogram]; exact hlabel) (by omega)
    (by rw [hprogram]; omega), rfl, ?_⟩
  rw [← hprogram] at hreached
  have hback : Reached forms settings drained filled placed
      { m.report (.jumped name label.location) with counter := label.location }.program :=
    hreached
  exact goesOnFrom_counter hback

/-- A label in front of a statement that no form accepts marks the line behind the last slot. A jump
goes there, and the next step says no. -/
theorem label_of_refused_line_is_a_target :
    ∃ (report : Report Nat) (later : LineSource) (back : Machine Nat Unit),
      Program.read [⟨"nop", [], some 7⟩] .standard (.given ["nop", "c: bad"] 0) =
        .ok (report, later) ∧
      report.ending = .stopped ⟨2, "c: bad", [.noSuchMnemonic "bad"]⟩ ∧
      ("c", ⟨"c", 2⟩) ∈ report.program.labels ∧ (2 : Int) ≤ report.program.lineCount ∧
      ({ program := report.program, host := () } : Machine Nat Unit).jump 0 (.text "c") =
        (.ok none, back) ∧
      back.counter = 2 ∧ GoesOnFrom ["nop", "c: bad"] 2 back := by
  obtain ⟨report, later, hread, hending, hlabels⟩ : ∃ (report : Report Nat) (later : LineSource),
      Program.read [⟨"nop", [], some 7⟩] .standard (.given ["nop", "c: bad"] 0) =
        .ok (report, later) ∧
      report.ending = .stopped ⟨2, "c: bad", [.noSuchMnemonic "bad"]⟩ ∧
      report.program.labels = [("c", ⟨"c", 2⟩)] :=
    ⟨Program.readLines [⟨"nop", [], some 7⟩] .standard {} ["nop", "c: bad"], _, rfl,
      by decide +kernel, by decide +kernel⟩
  have hentry : ("c", (⟨"c", 2⟩ : Label)) ∈ report.program.labels := by
    rw [hlabels]
    exact List.mem_cons_self
  obtain ⟨-, -, ⟨-, hinside⟩, -, hjump⟩ := label_lands_on_first_instruction (σ := Unit)
    (LineSource.handsOut_given ["nop", "c: bad"] 0) hread hentry
  obtain ⟨back, hback, heq, hgoes⟩ := hjump { program := report.program, host := () } 0 rfl
  exact ⟨report, later, back, hread, hending, hentry, hinside, hback, by rw [heq], hgoes⟩

section
open scoped Text.Nameless

/-- A jump to a label in front of an instruction with an absent operand succeeds, but the next step
does not execute the instruction. -/
theorem labelled_absent_operand_is_not_executed :
    ∃ (settings : Settings) (report : Report Nat) (later : LineSource)
      (instruction : Instruction Nat),
      Settings.Overrides.resolve (.named [("syntax", .table [("t", .datum (.text "(a)?b"))])]) =
        .ok settings ∧
      Program.read [⟨"m", ["t"], some 7⟩] settings (.text (.ofText settings "l: m b".toList)) =
        .ok (report, later) ∧
      report.ending = .complete ∧ report.program.labels = [("l", ⟨"l", 1⟩)] ∧
      report.program.slots = [some instruction] ∧
      ∀ (executors : Executors Nat Unit) (memory : Memory), ∃ back : Machine Nat Unit,
        ({ program := report.program, memory, host := () } : Machine Nat Unit).jump 0 (.text "l") =
          (.ok none, back) ∧
        ¬ back.Executes executors instruction ∧
        (back.step executors).1 = .error (.absentOperand 0) := by
  let instruction : Instruction Nat := ⟨1, "l: m b", "m", [none], some 7⟩
  obtain ⟨report, later, hread, hending, hlabels, hslots, hcount⟩ :
      ∃ (report : Report Nat) (later : LineSource),
      Program.read [⟨"m", ["t"], some 7⟩] .optionalGroup
        (.text (.ofText .optionalGroup "l: m b".toList)) = .ok (report, later) ∧
      report.ending = .complete ∧ report.program.labels = [("l", ⟨"l", 1⟩)] ∧
      report.program.slots = [some instruction] ∧ report.program.lineCount = 1 :=
    ⟨_, _, Program.read_text _ _ _, by decide +kernel, by decide +kernel, by decide +kernel,
      by decide +kernel⟩
  refine ⟨.optionalGroup, report, later, instruction, Settings.resolve_optionalGroup, hread,
    hending, hlabels, hslots, ?_⟩
  intro executors memory
  let m : Machine Nat Unit := { program := report.program, memory, host := () }
  let back : Machine Nat Unit := { m.report (.jumped "l" 1) with counter := 1 }
  have hlabel : m.program.label? "l" = some 1 := by
    show (report.program.labels.lookup "l").map Label.location = some 1
    rw [hlabels]
    rfl
  have hjump : m.jump 0 (.text "l") = (.ok none, back) :=
    jump_label m 0 hlabel (by omega) (by show (1 : Int) ≤ report.program.lineCount; omega)
  have hup : back.upcoming = some instruction := upcoming_of_first_slot hslots rfl
  refine ⟨back, hjump, ?_, congrArg Prod.fst (step_of_absent hup rfl)⟩
  rw [executes_iff hup]
  exact fun h => h List.mem_cons_self

end

end AsmKit.Machine
