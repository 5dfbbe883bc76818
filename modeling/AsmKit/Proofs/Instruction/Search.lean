import AsmKit.Instruction.Search

/-! # What the search among forms finds

An instruction that is found belongs to the line that was searched for and to
one of the forms, the first of its mnemonic that accepts the tokens. -/
namespace AsmKit
variable {α : Type}

theorem InstructionForm.read_accepted {form : InstructionForm α} {rules : RuleLookup}
    {tokens : List String} {lineNumber : Int} {text : String} {instruction : Instruction α}
    (h : form.read rules tokens lineNumber text = .ok (.accepted instruction)) :
    instruction.lineNumber = lineNumber ∧ instruction.text = text ∧
      instruction.mnemonic = form.mnemonic ∧ instruction.executor = form.executor := by
  unfold InstructionForm.read at h
  split at h
  · cases h
  · split at h
    · cases h
    · cases h
    · cases h
      exact ⟨rfl, rfl, rfl, rfl⟩

/-- Whether the form takes the tokens for its operands, on whatever line they stand. -/
def InstructionForm.accepts (settings : Settings) (form : InstructionForm α)
    (tokens : List String) : Bool :=
  match form.read settings.operandRule tokens 0 "" with
  | .ok (.accepted _) => true
  | _ => false

namespace FormSearch

/-- An answer is an instruction exactly if the search found it. -/
theorem answer_eq_ok_iff {search : FormSearch α} {mnemonic : String}
    {instruction : Instruction α} :
    search.answer mnemonic = .ok (.ok instruction) ↔ search.choice = .found instruction := by
  unfold answer
  cases search.choice <;> simp

theorem answer_eq_error_iff {search : FormSearch α} {mnemonic : String}
    {fault : Settings.Fault} :
    search.answer mnemonic = .error fault ↔ search.choice = .failed fault := by
  unfold answer
  cases search.choice <;> simp

/-- The first form of the mnemonic that accepts the tokens is the one that answers, if no form
before it fails for its settings. -/
theorem answer_of_first {rules : RuleLookup} {mnemonic : String} {tokens : List String}
    {lineNumber : Int} {text : String} {earlier later : List (InstructionForm α)}
    {form : InstructionForm α} {instruction : Instruction α}
    (hearlier : ∀ other ∈ earlier, other.mnemonic = mnemonic →
      ∃ problem, other.read rules tokens lineNumber text = .ok (.refused problem))
    (hname : form.mnemonic = mnemonic)
    (hread : form.read rules tokens lineNumber text = .ok (.accepted instruction)) :
    (run rules mnemonic tokens lineNumber text (earlier ++ form :: later)).answer mnemonic =
      .ok (.ok instruction) := by
  have hchoice : (run rules mnemonic tokens lineNumber text (earlier ++ form :: later)).choice =
      .found instruction := by
    induction earlier with
    | nil => simp [run, hname, hread]
    | cons other earlier ih =>
      obtain ⟨hother, hearlier⟩ := List.forall_mem_cons.mp hearlier
      rw [List.cons_append, run]
      split
      · exact ih hearlier
      · rename_i hsame
        obtain ⟨problem, hrefused⟩ := hother (by simpa using hsame)
        rw [hrefused]
        exact ih hearlier
  exact answer_eq_ok_iff.mpr hchoice

/-- The instruction that is found is what one of the forms reads. -/
theorem run_found {rules : RuleLookup} {mnemonic : String} {tokens : List String}
    {lineNumber : Int} {text : String} {forms : List (InstructionForm α)}
    {instruction : Instruction α}
    (h : (run rules mnemonic tokens lineNumber text forms).choice = .found instruction) :
    ∃ form ∈ forms, form.mnemonic = mnemonic ∧
      form.read rules tokens lineNumber text = .ok (.accepted instruction) := by
  induction forms with
  | nil => cases h
  | cons form rest ih =>
    rw [run] at h
    split at h
    · obtain ⟨found, hmem, hread⟩ := ih h
      exact ⟨found, List.mem_cons_of_mem _ hmem, hread⟩
    · rename_i hname
      have hname : form.mnemonic = mnemonic := by simpa using hname
      split at h
      · cases h
      · rename_i accepted hread
        cases h
        exact ⟨form, List.mem_cons_self, hname, hread⟩
      · obtain ⟨found, hmem, hread⟩ := ih h
        exact ⟨found, List.mem_cons_of_mem _ hmem, hread⟩

/-- An answer that is an instruction carries the number and text of its line. -/
theorem answer_instruction {rules : RuleLookup} {mnemonic : String} {tokens : List String}
    {lineNumber : Int} {text : String} {forms : List (InstructionForm α)}
    {instruction : Instruction α}
    (h : (run rules mnemonic tokens lineNumber text forms).answer mnemonic =
      .ok (.ok instruction)) :
    instruction.lineNumber = lineNumber ∧ instruction.text = text := by
  obtain ⟨form, -, -, hread⟩ := run_found (answer_eq_ok_iff.mp h)
  exact ⟨(InstructionForm.read_accepted hread).1, (InstructionForm.read_accepted hread).2.1⟩

end FormSearch

/-! ## The same tokens on another line -/

/-- The instruction as it is read so many lines further down. -/
def Instruction.moveDown (count : Nat) (instruction : Instruction α) : Instruction α :=
  { instruction with lineNumber := instruction.lineNumber + count }

def Verdict.map {β γ : Type} (f : β → γ) : Verdict β → Verdict γ
  | .accepted value => .accepted (f value)
  | .refused problem => .refused problem

def Choice.map {β : Type} (f : Instruction α → Instruction β) : Choice α → Choice β
  | .found instruction => .found (f instruction)
  | .none => .none
  | .failed fault => .failed fault

/-- The line number goes into the instruction, and nothing else depends on it. -/
theorem InstructionForm.read_moveDown (form : InstructionForm α) (rules : RuleLookup)
    (tokens : List String) (lineNumber : Int) (text : String) (count : Nat) :
    form.read rules tokens (lineNumber + count) text =
      (form.read rules tokens lineNumber text).map (Verdict.map (Instruction.moveDown count)) := by
  unfold InstructionForm.read
  split
  · rfl
  · generalize readOperands rules form.mnemonic (tokens.zip form.operandTypes) = outcome
    rcases outcome with fault | operands | problem <;> rfl

namespace FormSearch

theorem run_moveDown (rules : RuleLookup) (mnemonic : String) (tokens : List String)
    (lineNumber : Int) (text : String) (count : Nat) (forms : List (InstructionForm α)) :
    run rules mnemonic tokens (lineNumber + count) text forms =
      { run rules mnemonic tokens lineNumber text forms with
        choice := (run rules mnemonic tokens lineNumber text forms).choice.map
          (Instruction.moveDown count) } := by
  induction forms with
  | nil => rfl
  | cons form rest ih =>
    simp only [run]
    split
    · exact ih
    · rw [form.read_moveDown]
      generalize form.read rules tokens lineNumber text = verdict
      rcases verdict with fault | instruction | problem
      · rfl
      · rfl
      · simp only [Except.map, Verdict.map, ih]

theorem answer_moveDown (rules : RuleLookup) (mnemonic : String) (tokens : List String)
    (lineNumber : Int) (text : String) (count : Nat) (forms : List (InstructionForm α)) :
    (run rules mnemonic tokens (lineNumber + count) text forms).answer mnemonic =
      ((run rules mnemonic tokens lineNumber text forms).answer mnemonic).map
        (Except.map (Instruction.moveDown count)) := by
  rw [run_moveDown]
  generalize run rules mnemonic tokens lineNumber text forms = search
  obtain ⟨refusals, instruction | - | fault⟩ := search <;> rfl

end FormSearch
end AsmKit
