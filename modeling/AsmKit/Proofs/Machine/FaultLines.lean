import AsmKit.Proofs.Machine.Confined
import AsmKit.Proofs.Machine.Landing
import AsmKit.Proofs.Machine.Walking

/-! # Which line a fault of a jump names

A jump that is refused names the line of the current instruction. A step makes
an instruction current before it calls the executor, and only executing another
one or a reset changes that; so a jump of the executor names the line on which
the instruction stands. A new machine has no current instruction, nor has one
that was reset, until it executes something; their jumps name no line. -/
namespace AsmKit

/-- The line number and the text that a fault names. -/
def MachineFault.place? : MachineFault → Option (Int × String)
  | .badTarget _ lineNumber text => some (lineNumber, text)
  | .targetOutside _ _ lineNumber text => some (lineNumber, text)
  | .targetUnread _ _ | .unshown _ | .noExecutor _ _ | .absentOperand _ | .raised _ _ => none

variable {α σ : Type}

/-! ## Operations that execute nothing -/

/-- The operation does not call an executor. -/
def Operation.ExecutesNothing (executors : Executors α σ) (m : Machine α σ) :
    Operation σ → Prop
  | .step | .run _ => m.call? executors = none
  | .jump _ _ | .reset _ | .remember _ | .note _ => True

/-- The operation puts the machine back to its start. -/
def Operation.Resets : Operation σ → Prop
  | .reset _ => True
  | .step | .run _ | .jump _ _ | .remember _ | .note _ => False

/-- The operation moves the counter, going by the reply to it. -/
def Operation.Moves : Operation σ → Reply → Prop
  | .jump _ _, .jumped answer => answer = .ok none
  | .step, _ | .reset _, _ => True
  | _, _ => False

/-- How far a script has come, if it has not executed anything and has not reset its machine: what
it has done, with the replies, what it still does, and the machine as it has it then. -/
inductive Script.Comes (executors : Executors α σ) (script : Script α σ) (given : Machine α σ) :
    List (Operation σ × Reply) → Script α σ → Machine α σ → Prop
  | start : Comes executors script given [] script given
  | act {past : List (Operation σ × Reply)} {operation : Operation σ}
      {next : Reply → Machine α σ → Script α σ} {now : Machine α σ} :
      Comes executors script given past (.act operation next) now →
      operation.ExecutesNothing executors now → ¬ operation.Resets →
      Comes executors script given
        (past ++ [(operation, (operation.perform executors now).1)])
        (next (operation.perform executors now).1 (operation.perform executors now).2)
        (operation.perform executors now).2

namespace Machine

/-- The machines that have executed nothing since they were new or were last reset. -/
inductive Idle (scripts : α → Instruction α → Machine α σ → Script α σ) (tooDeep : MachineFault)
    (program : Program α) : Machine α σ → Prop
  | fresh (memory : Memory) (host : σ) (journal : Array Log.Event) :
      Idle scripts tooDeep program { program, memory, host, journal }
  | reset {m : Machine α σ} (clearMemory : Bool) :
      Reachable scripts tooDeep program m → Idle scripts tooDeep program (m.reset clearMemory)
  | performed {m : Machine α σ} (depth : Nat) (operation : Operation σ) :
      Idle scripts tooDeep program m →
      operation.ExecutesNothing (Executors.ofScripts scripts tooDeep depth) m →
      Idle scripts tooDeep program
        (operation.perform (Executors.ofScripts scripts tooDeep depth) m).2

/-! ## Refused jumps -/

/-- A jump that is refused names the place of the machine and leaves the machine as it is. -/
theorem place?_of_jump {m : Machine α σ} {room : Nat} {destination : Datum} {fault : MachineFault}
    (h : (m.jump room destination).1 = .error fault) (hkind : fault.kind = .execution) :
    fault.place? = some m.place ∧ (m.jump room destination).2 = m := by
  have hplace : fault.place? = some m.place := by
    unfold jump at h
    split at h
    · rename_i other htarget
      cases h
      unfold target at htarget
      split at htarget
      · -- A text is never a bad target: it fails where it is no decimal number.
        split at htarget
        · cases htarget
        · split at htarget
          · split at htarget
            · cases htarget
            · cases htarget; cases hkind
          · cases htarget
      · cases htarget
      · split at htarget
        · cases htarget; rfl
        · -- What cannot be shown fails in another way than the execution does.
          rename_i obstacle _
          cases htarget
          cases obstacle <;> cases hkind
    · cases h
    · split at h
      · rename_i position _ _
        obtain rfl := Except.error.inj h
        by_cases htell : m.program.CanTell position
        · rw [outside_of_canTell htell]
          rfl
        · rw [outside_of_not_canTell htell] at hkind
          cases hkind
      · cases h
  refine ⟨hplace, ?_⟩
  rcases m.jump_cases room destination with ⟨position, -, -, hjump⟩ | ⟨-, hsame⟩
  · rw [hjump] at h; cases h
  · exact hsame

theorem counter_of_jump {m : Machine α σ} {room : Nat} {destination : Datum}
    (h : (m.jump room destination).1 ≠ .ok none) :
    (m.jump room destination).2.counter = m.counter := by
  rcases m.jump_cases room destination with ⟨position, -, -, hjump⟩ | ⟨-, hsame⟩
  · rw [hjump] at h; exact absurd rfl h
  · rw [hsame]

theorem current_of_jump (m : Machine α σ) (room : Nat) (destination : Datum) :
    (m.jump room destination).2.current = m.current := by
  rcases m.jump_cases room destination with ⟨position, -, -, hjump⟩ | ⟨-, hsame⟩
  · rw [hjump]; rfl
  · rw [hsame]

/-! ## The current instruction -/

section Programs
variable {program : Program α}
  (hoperands : ∀ instruction, some instruction ∈ program.slots → none ∉ instruction.operands)
include hoperands

/-- With all operands there, a step that makes no call has found nothing to execute. -/
theorem upcoming_eq_none_of_call? {executors : Executors α σ} {m : Machine α σ}
    (hprogram : m.program = program) (h : m.call? executors = none) : m.upcoming = none := by
  rw [Option.eq_none_iff_forall_ne_some]
  intro instruction hup
  obtain ⟨-, hslot⟩ := Program.get?_eq_some_iff.mp hup
  rw [hprogram] at hslot
  obtain ⟨texts, -, htexts⟩ :=
    exists_presentOperands (hoperands instruction (List.mem_of_getElem? hslot)) 0
  simp only [call?, hup, htexts] at h
  cases h

/-- What executes nothing leaves the current instruction as it is, but for a reset, and the counter
too unless it moves it. -/
theorem perform_of_executesNothing {executors : Executors α σ} {m : Machine α σ}
    {operation : Operation σ} (hprogram : m.program = program)
    (h : operation.ExecutesNothing executors m) :
    ((operation.perform executors m).2.current = m.current ∨
      operation.Resets ∧ (operation.perform executors m).2.current = none) ∧
    ((operation.perform executors m).2.counter = m.counter ∨
      operation.Moves (operation.perform executors m).1) := by
  cases operation with
  | step =>
    have hup := upcoming_eq_none_of_call? hoperands hprogram h
    exact ⟨.inl (by simp only [Operation.perform, step_of_upcoming_none hup]), .inr trivial⟩
  | run limit =>
    have hup := upcoming_eq_none_of_call? hoperands hprogram h
    have hrun : (Operation.run limit).perform executors m = (.ran (.finished 0), m) := by
      simp only [Operation.perform, Machine.run, runFrom_of_upcoming_none hup]
    rw [hrun]
    exact ⟨.inl rfl, .inl rfl⟩
  | jump room destination =>
    refine ⟨.inl (m.current_of_jump room destination), ?_⟩
    by_cases hmoved : (m.jump room destination).1 = .ok none
    · exact .inr hmoved
    · exact .inl (counter_of_jump hmoved)
  | reset clearMemory => exact ⟨.inr ⟨trivial, rfl⟩, .inr trivial⟩
  | remember change => exact ⟨.inl rfl, .inl rfl⟩
  | note change => exact ⟨.inl rfl, .inl rfl⟩

/-- A script that executes nothing and resets nothing leaves its instruction current. -/
theorem current_of_comes {executors : Executors α σ}
    (hkeep : executors.Keep (·.program = program)) {script rest : Script α σ}
    {given now : Machine α σ} {past : List (Operation σ × Reply)}
    (hprogram : given.program = program) (h : script.Comes executors given past rest now) :
    now.program = program ∧ now.current = given.current ∧
      (now.counter = given.counter ∨ ∃ act ∈ past, act.1.Moves act.2) := by
  induction h with
  | start => exact ⟨hprogram, rfl, .inl rfl⟩
  | @act past operation next now _ hnothing hreset ih =>
    obtain ⟨hnow, hcurrent, hcounter⟩ := ih
    obtain ⟨hkept, hstays⟩ := perform_of_executesNothing hoperands hnow hnothing
    refine ⟨(steady_program program).perform hkeep hnow operation, ?_, ?_⟩
    · rw [hkept.resolve_right fun h => hreset h.1, hcurrent]
    · rcases hcounter with hcounter | ⟨act, hact, hmoves⟩
      · rcases hstays with hstays | hmoves
        · exact .inl (hstays.trans hcounter)
        · exact .inr ⟨_, List.mem_append_right _ List.mem_cons_self, hmoves⟩
      · exact .inr ⟨act, List.mem_append_left _ hact, hmoves⟩

theorem Idle.current_eq_none {scripts : α → Instruction α → Machine α σ → Script α σ}
    {tooDeep : MachineFault} {m : Machine α σ} (h : Idle scripts tooDeep program m) :
    m.program = program ∧ m.current = none := by
  induction h with
  | fresh memory host journal => exact ⟨rfl, rfl⟩
  | @reset m clearMemory hreach =>
    have hprogram : m.program = program :=
      (steady_program program).of_reachable (fun _ _ _ => rfl) hreach
    exact ⟨hprogram, rfl⟩
  | performed depth operation _ hnothing ih =>
    obtain ⟨hprogram, hcurrent⟩ := ih
    refine ⟨(steady_program program).perform
      ((steady_program program).ofScripts scripts tooDeep depth) hprogram operation, ?_⟩
    rcases (perform_of_executesNothing hoperands hprogram hnothing).1 with hkept | ⟨-, hnone⟩
    · rw [hkept, hcurrent]
    · exact hnone

end Programs

/-! ## The script of a call -/

theorem play_of_comes {executors : Executors α σ} {script rest : Script α σ}
    {given now : Machine α σ} {past : List (Operation σ × Reply)}
    (h : script.Comes executors given past rest now) :
    script.play executors given = rest.play executors now := by
  induction h with
  | start => rfl
  | act _ _ _ ih => exact ih

/-- The executor of a call plays its script with the machine that it is handed. The counter of that
machine stands behind the instruction, which is the current one. -/
theorem call?_ofScripts {scripts : α → Instruction α → Machine α σ → Script α σ}
    {tooDeep : MachineFault} {depth : Nat} {m : Machine α σ} {call : Call α σ} {executor : α}
    (h : m.call? (Executors.ofScripts scripts tooDeep (depth + 1)) = some call)
    (hexecutor : call.instruction.executor = some executor) :
    call.given.program = m.program ∧ call.given.counter = m.nextFilled + 1 ∧
      call.given.current = some call.instruction ∧
      m.step (Executors.ofScripts scripts tooDeep (depth + 1)) =
        let outcome := (scripts executor call.instruction call.given).play
          (Executors.ofScripts scripts tooDeep depth) call.given
        (outcome.1.map Datum.goesOn, outcome.2) := by
  obtain ⟨-, hstep⟩ := step_of_call h
  obtain ⟨instruction, operands, -, rfl⟩ := call?_eq_some h
  cases hinstruction : instruction.executor with
  | none =>
    simp only [callOf, hinstruction] at hexecutor
    cases hexecutor
  | some other =>
    simp only [callOf, hinstruction] at hexecutor hstep ⊢
    cases hexecutor
    exact ⟨rfl, rfl, rfl, hstep⟩

/-- Say an executor is called by a step of a machine, however the machine has come about, and jumps
without having executed or reset anything. If the jump is refused, the fault names the line of the
instruction and its text, and nothing has changed; the counter stands behind the instruction unless
the executor has moved it. A fault that the executor lets through is that of the step. A jump from a
machine that has executed nothing since its last reset names line zero and an empty text. -/
theorem refused_jump_names_running_line {forms : List (InstructionForm α)} {settings : Settings}
    {lines : List String} {source later : LineSource} {report : Report α}
    {scripts : α → Instruction α → Machine α σ → Script α σ} {tooDeep : MachineFault}
    (h : source.HandsOut lines) (hread : Program.read forms settings source = .ok (report, later))
    (hoperands : ∀ instruction, some instruction ∈ report.program.slots →
      none ∉ instruction.operands) :
    (∀ (m : Machine α σ) (depth : Nat) (call : Call α σ) (executor : α),
      Reachable scripts tooDeep report.program m →
      m.call? (Executors.ofScripts scripts tooDeep (depth + 1)) = some call →
      call.instruction.executor = some executor →
      ∃ (index : Nat) (line : String), lines[index]? = some line ∧
        report.program.FirstFrom m.counter (index + 1) call.instruction ∧
        ∀ past room destination next now fault,
          (scripts executor call.instruction call.given).Comes
            (Executors.ofScripts scripts tooDeep depth) call.given past
            (.act (.jump room destination) next) now →
          (now.jump room destination).1 = .error fault → fault.kind = .execution →
          fault.place? = some ((index : Int) + 1, line) ∧ (now.jump room destination).2 = now ∧
          (now.counter = (index : Int) + 1 + 1 ∨ ∃ act ∈ past, act.1.Moves act.2) ∧
          (next (.jumped (.error fault)) now = .finish (.error fault) →
            m.step (Executors.ofScripts scripts tooDeep (depth + 1)) = (.error fault, now))) ∧
    ∀ (m : Machine α σ) (room : Nat) (destination : Datum) (fault : MachineFault),
      Idle scripts tooDeep report.program m →
      (m.jump room destination).1 = .error fault → fault.kind = .execution →
      fault.place? = some (0, "") ∧ (m.jump room destination).2 = m := by
  obtain ⟨drained, after, hdrain, filled, placed, hreached⟩ := Program.read_reached hread
  obtain ⟨after', hdrain'⟩ := h.drain
  obtain ⟨rfl, -⟩ := Prod.mk.inj (Except.ok.inj (hdrain.symm.trans hdrain'))
  refine ⟨fun m depth call executor hreach hcall hexecutor => ?_,
    fun m room destination fault hidle hjump hkind => ?_⟩
  · have hprogram : m.program = report.program :=
      (steady_program report.program).of_reachable (fun _ _ _ => rfl) hreach
    obtain ⟨hgiven, hcounter, hcurrent, hstep⟩ := call?_ofScripts hcall hexecutor
    obtain ⟨hup, -⟩ := step_of_call hcall
    have hget : report.program.get? m.nextFilled = some call.instruction := by
      rw [← hprogram]
      exact hup
    obtain ⟨hnumber, hline⟩ := standsOn_of_get? hreached hget
    obtain ⟨hpos, -⟩ := Program.get?_eq_some_iff.mp hup
    have hposition : (((m.nextFilled - 1).toNat : Nat) : Int) + 1 = m.nextFilled := by omega
    refine ⟨(m.nextFilled - 1).toNat, call.instruction.text, hline, ?_, ?_⟩
    · rw [hposition, ← hprogram]
      exact ⟨m.counter_le_nextFilled, hup, fun _ hlow hhigh => get?_of_lt_nextFilled hlow hhigh⟩
    · intro past room destination next now fault hcomes hjump hkind
      obtain ⟨-, hnow, hmoved⟩ := current_of_comes hoperands
        ((steady_program report.program).ofScripts scripts tooDeep depth)
        (hgiven.trans hprogram) hcomes
      obtain ⟨hplace, hsame⟩ := place?_of_jump hjump hkind
      have hrunning : now.place = (call.instruction.lineNumber, call.instruction.text) := by
        rw [place, hnow, hcurrent]
      refine ⟨by rw [hplace, hrunning, hnumber, hposition], hsame, ?_, fun hthrough => ?_⟩
      · rw [hposition, ← hcounter]
        exact hmoved
      · rw [hstep, play_of_comes hcomes]
        simp only [Script.play, Operation.perform, hjump, hsame, hthrough]
        rfl
  · obtain ⟨-, hnone⟩ := hidle.current_eq_none hoperands
    obtain ⟨hplace, hsame⟩ := place?_of_jump hjump hkind
    refine ⟨?_, hsame⟩
    rw [hplace, place, hnone]

/-- Executors that jump to a line far behind the program and let the fault through. -/
def jumpingFar : Nat → Instruction Nat → Machine Nat Unit → Script Nat Unit := fun _ _ _ =>
  .act (.jump 0 (.int 9)) fun reply _ =>
    match reply with
    | .jumped (.error fault) => .finish (.error fault)
    | _ => .finish (.ok .null)

/-- A far jump from the second of two lines, and once more behind a reset. -/
theorem far_jump_names_second_line :
    let executors := Executors.ofScripts jumpingFar (.raised "depth" "") 1
    ∃ (report : Report Nat) (later : LineSource) (m : Machine Nat Unit) (call : Call Nat Unit)
      (fault other : MachineFault),
      Program.read [⟨"nop", [], some 7⟩] .standard (.given ["", "a: nop"] 0) =
        .ok (report, later) ∧
      Reachable jumpingFar (.raised "depth" "") report.program m ∧
      m.call? executors = some call ∧ m.step executors = (.error fault, call.given) ∧
      fault.kind = .execution ∧ fault.place? = some (2, "a: nop") ∧ call.given.counter = 3 ∧
      (call.given.reset.jump 0 (.int 9)).1 = .error other ∧ other.place? = some (0, "") := by
  intro executors
  let nop : Instruction Nat := ⟨2, "a: nop", "nop", [], some 7⟩
  obtain ⟨report, later, hread, hslots, hcount⟩ : ∃ (report : Report Nat) (later : LineSource),
      Program.read [⟨"nop", [], some 7⟩] .standard (.given ["", "a: nop"] 0) =
        .ok (report, later) ∧
      report.program.slots = [none, some nop] ∧ report.program.lineCount = 2 :=
    ⟨Program.readLines [⟨"nop", [], some 7⟩] .standard {} ["", "a: nop"], _, rfl,
      by decide +kernel, by decide +kernel⟩
  have hoperands : ∀ instruction, some instruction ∈ report.program.slots →
      none ∉ instruction.operands := by
    intro instruction hmem
    obtain rfl : instruction = nop := by simpa [hslots] using hmem
    exact List.not_mem_nil
  let m : Machine Nat Unit := { program := report.program, host := () }
  have hreach : Reachable jumpingFar (.raised "depth" "") report.program m := .fresh {} () #[]
  have hup : m.upcoming = some nop := by
    simp [upcoming, nextFilled, Program.get?, m, hslots, List.findIdx?_cons]
  let given : Machine Nat Unit := (m.entered nop).report (.stepped 2 "nop" [])
  have hcall : m.call? executors = some (callOf executors given nop) := by
    simp only [call?, hup]
    rfl
  obtain ⟨hnames, hidle⟩ := refused_jump_names_running_line
    (LineSource.handsOut_given ["", "a: nop"] 0) hread hoperands
  obtain ⟨index, line, hline, hfirst, hrefused⟩ := hnames m 0 _ 7 hreach hcall rfl
  have hjump : ∀ now : Machine Nat Unit, now.program = report.program →
      (now.jump 0 (.int 9)).1 = .error (.targetOutside 9 2 now.place.1 now.place.2) := by
    intro now hprogram
    have htell : report.program.CanTell 9 := by
      rw [Program.CanTell, hcount]
      decide +kernel
    simp [jump, target, outside, htell, hprogram, hcount]
  obtain ⟨hplace, -, hcounter, hstep⟩ :=
    hrefused [] 0 (.int 9) _ given _ .start (hjump given rfl) rfl
  have hreset := hidle given.reset 0 (.int 9) _ (.reset false (.handed 1 hreach hcall))
    (hjump given.reset rfl) rfl
  have hindex : index = 1 := by
    obtain ⟨-, hslot⟩ := Program.get?_eq_some_iff.mp hfirst.get?_eq
    have hposition : ((index : Int) + 1 - 1).toNat = index := by omega
    rw [hslots, hposition] at hslot
    have hlength : index < 2 := (List.getElem?_eq_some_iff.mp hslot).1
    obtain rfl | rfl : index = 0 ∨ index = 1 := by omega
    · cases hslot
    · rfl
  subst hindex
  cases hline
  refine ⟨report, later, m, _, _, _, hread, hreach, hcall, hstep rfl, rfl, hplace, ?_,
    hjump given.reset rfl, hreset.1⟩
  exact hcounter.resolve_right (by simp)

end Machine
end AsmKit
