import AsmKit.Proofs.Instruction.Choosing
import AsmKit.Proofs.Program.Alike
import AsmKit.Proofs.Program.Reached

/-! # Executors are carried, and never looked at

Forms that differ in their executors alone read every source alike: the same
slots but for the executors, the same labels, the same errors. Equality of
instructions says nothing of their executors, so what an instruction carries is
stated by itself: the executor of the first form of its mnemonic that accepts
the tokens of its line, and that is a form at the same place in either list. -/
namespace AsmKit
variable {α β : Type}

/-- Forms of one mnemonic with the same operand types, whatever executors they have. -/
structure InstructionForm.SameShape (form : InstructionForm α) (other : InstructionForm β) :
    Prop where
  mnemonic_eq : form.mnemonic = other.mnemonic
  operandTypes_eq : form.operandTypes = other.operandTypes

/-- The instruction with another executor in the place of its own. -/
def Instruction.rebind (executor : Option β) (instruction : Instruction α) : Instruction β :=
  ⟨instruction.lineNumber, instruction.text, instruction.mnemonic, instruction.operands, executor⟩

theorem Instruction.agrees_rebind (executor : Option β) (instruction : Instruction α) :
    instruction.agrees (instruction.rebind executor) = true := by
  simp [agrees, rebind]

namespace InstructionForm.SameShape
variable {form : InstructionForm α} {other : InstructionForm β}

/-- Tokens are read alike, and the executor is put to what was read. -/
theorem read_eq (h : form.SameShape other) (rules : RuleLookup) (tokens : List String)
    (lineNumber : Int) (text : String) : other.read rules tokens lineNumber text =
      (form.read rules tokens lineNumber text).map
        (Verdict.map (Instruction.rebind other.executor)) := by
  have harity : other.arity = form.arity := by rw [arity, arity, h.operandTypes_eq]
  unfold InstructionForm.read
  rw [harity, ← h.mnemonic_eq, ← h.operandTypes_eq]
  by_cases hlength : (tokens.length != form.arity) = true
  · simp [hlength, Except.map, Verdict.map]
  · rw [if_neg hlength, if_neg hlength]
    generalize readOperands rules form.mnemonic (tokens.zip form.operandTypes) = outcome
    rcases outcome with fault | operands | problem <;> rfl

theorem accepts_eq (h : form.SameShape other) (settings : Settings) (tokens : List String) :
    other.accepts settings tokens = form.accepts settings tokens := by
  unfold accepts
  rw [h.read_eq]
  generalize form.read settings.operandRule tokens 0 "" = verdict
  rcases verdict with fault | instruction | problem <;> rfl

end InstructionForm.SameShape

section Forms
variable {forms : List (InstructionForm α)} {others : List (InstructionForm β)}
  (h : List.Forall₂ InstructionForm.SameShape forms others)
include h

/-- The search goes the same way among forms of the same shapes. -/
theorem FormSearch.run_sameShape (rules : RuleLookup) (mnemonic : String) (tokens : List String)
    (lineNumber : Int) (text : String) :
    (run rules mnemonic tokens lineNumber text forms).refusals.map (·.2) =
        (run rules mnemonic tokens lineNumber text others).refusals.map (·.2) ∧
      ((run rules mnemonic tokens lineNumber text forms).choice = .none ∧
          (run rules mnemonic tokens lineNumber text others).choice = .none ∨
        (∃ fault, (run rules mnemonic tokens lineNumber text forms).choice = .failed fault ∧
          (run rules mnemonic tokens lineNumber text others).choice = .failed fault) ∨
        ∃ a b, (run rules mnemonic tokens lineNumber text forms).choice = .found a ∧
          (run rules mnemonic tokens lineNumber text others).choice = .found b ∧
          a.agrees b = true) := by
  induction h with
  | nil => exact ⟨rfl, .inl ⟨rfl, rfl⟩⟩
  | @cons form other forms others hform _ ih =>
    rw [run, run, ← hform.mnemonic_eq, hform.read_eq]
    split
    · exact ih
    · generalize form.read rules tokens lineNumber text = verdict
      rcases verdict with fault | instruction | problem
      · exact ⟨rfl, .inr (.inl ⟨fault, rfl, rfl⟩)⟩
      · exact ⟨rfl, .inr (.inr ⟨_, _, rfl, rfl, instruction.agrees_rebind _⟩)⟩
      · exact ⟨congrArg (problem :: ·) ih.1, ih.2⟩

/-- What the forms make of a statement is the same up to executors. -/
theorem Program.resolve_sameShape (settings : Settings) (lineNumber : Nat)
    (line mnemonic : String) (tokens : List String) :
    AnswersAlike (fun a b => a.agrees b = true) Eq
      (resolve forms settings lineNumber line mnemonic tokens)
      (resolve others settings lineNumber line mnemonic tokens) := by
  obtain ⟨hrefusals, hchoice⟩ :=
    FormSearch.run_sameShape h settings.operandRule mnemonic tokens lineNumber line
  unfold resolve FormSearch.answer
  rcases hchoice with ⟨hnone, hnone'⟩ | ⟨fault, hfailed, hfailed'⟩ | ⟨a, b, hfound, hfound', hab⟩
  · rw [hnone, hnone', FormSearch.problems_eq, FormSearch.problems_eq, hrefusals]
    exact .refused rfl
  · rw [hfailed, hfailed']
    exact .failed fault
  · rw [hfound, hfound']
    exact .found hab

/-- The first form to accept tokens stands at the same place in either list. -/
theorem FirstToAccept.sameShape {settings : Settings} {mnemonic : String} {tokens : List String}
    {index : Nat} {form : InstructionForm α}
    (hfirst : FirstToAccept settings forms mnemonic tokens index form) :
    ∃ other, FirstToAccept settings others mnemonic tokens index other := by
  induction h generalizing index with
  | nil => cases hfirst.form_eq
  | @cons head head' forms others hhead _ ih =>
    cases index with
    | zero =>
      obtain rfl : head = form := by simpa using hfirst.form_eq
      refine ⟨head', .head (hhead.mnemonic_eq ▸ hfirst.mnemonic_eq) ?_⟩
      rw [hhead.accepts_eq]
      exact hfirst.accepts
    | succ index =>
      obtain ⟨other, hother⟩ := ih hfirst.tail
      refine ⟨other, hother.cons fun hname => ?_⟩
      rw [hhead.accepts_eq]
      exact hfirst.first 0 (Nat.succ_pos index) head rfl (hhead.mnemonic_eq.trans hname)

end Forms

namespace Program

/-- An instruction carries the executor of the first form of its mnemonic that accepts the tokens
of its line. -/
theorem Reached.firstToAccept {forms : List (InstructionForm α)} {settings : Settings}
    {lines : List String} {filled placed position : Nat} {program : Program α}
    {instruction : Instruction α} (h : Reached forms settings lines filled placed program)
    (hslot : program.slots[position]? = some (some instruction)) :
    ∃ line tokens index form, lines[position]? = some line ∧
      settings.statementOf line = instruction.mnemonic :: tokens ∧
      FirstToAccept settings forms instruction.mnemonic tokens index form ∧
      instruction.executor = form.executor := by
  obtain ⟨line, hline, hslotOf⟩ := h.slotOf hslot
  cases hslotOf with
  | @filled mnemonic tokens _ hstatement hresolve _ _ =>
    have hfound := FormSearch.answer_eq_ok_iff.mp hresolve
    obtain ⟨index, form, hfirst, hread⟩ := FormSearch.exists_first_of_found hfound
    obtain ⟨-, -, hmnemonic, hexecutor⟩ := InstructionForm.read_accepted hread
    obtain rfl : mnemonic = instruction.mnemonic := by rw [hmnemonic, hfirst.mnemonic_eq]
    exact ⟨line, tokens, index, form, hline, hstatement, hfirst, hexecutor⟩

/-- The executors of two instructions of a line are those of forms that stand at one place in two
lists: the first of the mnemonic there to accept the tokens of the line. -/
def BoundAtOnePlace (settings : Settings) (forms : List (InstructionForm α))
    (others : List (InstructionForm β)) (line : String) (a : Instruction α)
    (b : Instruction β) : Prop :=
  ∃ tokens index form other, settings.statementOf line = a.mnemonic :: tokens ∧
    FirstToAccept settings forms a.mnemonic tokens index form ∧
    FirstToAccept settings others a.mnemonic tokens index other ∧
    a.executor = form.executor ∧ b.executor = other.executor

/-- Forms that differ in their executors alone read a source alike: both fail for the same fault of
the source, or they leave the same of it, end the same and have programs with the same labels whose
slots agree up to executors. The executors in a slot are those of forms at one place in both lists,
the first of the mnemonic to accept the tokens of the line. -/
theorem read_ignores_executors {forms : List (InstructionForm α)}
    {others : List (InstructionForm β)}
    (h : List.Forall₂ InstructionForm.SameShape forms others) (settings : Settings)
    (source : LineSource) :
    (∃ fault, read forms settings source = .error fault ∧
      read others settings source = .error fault) ∨
    ∃ (lines : List String) (after : LineSource) (report : Report α) (report' : Report β)
        (later : LineSource), source.drain = .ok (lines, after) ∧
      read forms settings source = .ok (report, later) ∧
      read others settings source = .ok (report', later) ∧
      report.ending = report'.ending ∧
      report.program.Alike (fun a b => a.agrees b = true) report'.program ∧
      ∀ (position : Nat) (a : Instruction α), report.program.slots[position]? = some (some a) →
        ∃ b line, report'.program.slots[position]? = some (some b) ∧
          lines[position]? = some line ∧ BoundAtOnePlace settings forms others line a b := by
  rcases read_alike (resolve_sameShape h settings) (fun _ => rfl) source with
    hfault | ⟨report, report', later, hread, hread', hprogram, hending⟩
  · exact .inl hfault
  · obtain ⟨lines, after, hdrain, filled, placed, hreached⟩ := read_reached hread
    obtain ⟨lines', after', hdrain', filled', placed', hreached'⟩ := read_reached hread'
    obtain ⟨rfl, -⟩ := Prod.mk.inj (Except.ok.inj (hdrain.symm.trans hdrain'))
    refine .inr ⟨lines, after, report, report', later, hdrain, hread, hread', hending.eq,
      hprogram, ?_⟩
    intro position a hslot
    obtain ⟨line, tokens, index, form, hline, hstatement, hfirst, hexecutor⟩ :=
      hreached.firstToAccept hslot
    obtain ⟨b, hslot', -⟩ := hprogram.slot hslot
    obtain ⟨line', tokens', index', other, hline', hstatement', hfirst', hexecutor'⟩ :=
      hreached'.firstToAccept hslot'
    cases hline.symm.trans hline'
    obtain ⟨hmnemonic, rfl⟩ := List.cons.inj (hstatement.symm.trans hstatement')
    rw [← hmnemonic] at hfirst'
    -- The form that answers in one list stands where the one that answers in the other does.
    obtain ⟨found, hfound⟩ := hfirst.sameShape h
    obtain ⟨rfl, rfl⟩ := hfound.unique hfirst'
    exact ⟨b, line, hslot', hline, tokens, index, form, found, hstatement, hfirst, hfound,
      hexecutor, hexecutor'⟩

/-- A form without an executor is in the place of one that has it, and there are other executors of
another sort. -/
theorem read_binds_by_place :
    let forms : List (InstructionForm Nat) := [⟨"push", ["reg"], some 1⟩, ⟨"push", ["imm"], some 2⟩]
    let others : List (InstructionForm String) :=
      [⟨"push", ["reg"], some "stack"⟩, ⟨"push", ["imm"], none⟩]
    List.Forall₂ InstructionForm.SameShape forms others ∧
      ∃ report report' later, read forms .standard (.given ["push 7"] 0) = .ok (report, later) ∧
        read others .standard (.given ["push 7"] 0) = .ok (report', later) ∧
        report.ending = report'.ending ∧
        ∃ a b, report.program.slots[0]? = some (some a) ∧
          report'.program.slots[0]? = some (some b) ∧ a.executor = some 2 ∧ b.executor = none := by
  intro forms others
  have hshapes : List.Forall₂ InstructionForm.SameShape forms others :=
    .cons ⟨rfl, rfl⟩ (.cons ⟨rfl, rfl⟩ .nil)
  refine ⟨hshapes, ?_⟩
  rcases read_ignores_executors hshapes .standard (.given ["push 7"] 0) with
    ⟨fault, hfault, -⟩ |
    ⟨lines, after, report, report', later, -, hread, hread', hending, -, hslots⟩
  · cases hfault
  · refine ⟨report, report', later, hread, hread', hending, ?_⟩
    cases hread
    have hslot : (readLines forms .standard {} ["push 7"]).program.slots[0]? =
        some (some ⟨1, "push 7", "push", [some "7"], some 2⟩) := by decide +kernel
    obtain ⟨b, line, hslot', -, tokens, index, form, other, -, hfirst, hfirst', hexecutor,
      hexecutor'⟩ := hslots 0 _ hslot
    refine ⟨_, b, hslot, hslot', rfl, ?_⟩
    have hform := hfirst.form_eq
    have hother := hfirst'.form_eq
    rw [hexecutor']
    match index with
    | 0 =>
      cases hform
      cases hexecutor
    | 1 =>
      cases hother
      rfl
    | index + 2 => cases hform

end Program
end AsmKit
