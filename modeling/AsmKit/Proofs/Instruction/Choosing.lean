import AsmKit.Proofs.Instruction.Search

/-! # Which forms a search depends on

A search passes over the forms of other mnemonics, and it asks no form behind
one that accepts the tokens. What it finds is therefore settled by the forms of
one mnemonic in their order, and stays as it is when forms are added behind
them. A search that every form refuses has one problem for each of them, and
one that fails has met an operand type without a rule. -/
namespace AsmKit
variable {α : Type}

namespace InstructionForm

/-- Whether a form accepts tokens does not depend on the line that they stand on. -/
theorem accepts_iff (settings : Settings) (form : InstructionForm α) (tokens : List String)
    (lineNumber : Int) (text : String) : form.accepts settings tokens = true ↔
      ∃ instruction, form.read settings.operandRule tokens lineNumber text =
        .ok (.accepted instruction) := by
  unfold accepts InstructionForm.read
  by_cases hlength : (tokens.length != form.arity) = true
  · simp [hlength]
  · generalize readOperands settings.operandRule form.mnemonic (tokens.zip form.operandTypes) =
      outcome
    rcases outcome with fault | operands | problem <;> simp [hlength]

theorem exists_rule_of_readOperands {rules : RuleLookup} {mnemonic : String}
    {pairs : List (String × String)} {fault : Settings.Fault}
    (h : readOperands rules mnemonic pairs = .error fault) :
    ∃ pair ∈ pairs, rules pair.2 = .error fault := by
  induction pairs with
  | nil => cases h
  | cons pair rest ih =>
    obtain ⟨token, operandType⟩ := pair
    unfold readOperands at h
    split at h
    · rename_i other hrule
      cases h
      exact ⟨_, List.mem_cons_self, hrule⟩
    · split at h
      · cases h
      · split at h
        · rename_i other hrest
          cases h
          obtain ⟨later, hlater, hrule⟩ := ih hrest
          exact ⟨later, List.mem_cons_of_mem _ hlater, hrule⟩
        · cases h
        · cases h

/-- A form fails for one of its operand types, whose rule cannot be looked up. -/
theorem exists_rule_of_read {form : InstructionForm α} {rules : RuleLookup}
    {tokens : List String} {lineNumber : Int} {text : String} {fault : Settings.Fault}
    (h : form.read rules tokens lineNumber text = .error fault) :
    ∃ operandType ∈ form.operandTypes, rules operandType = .error fault := by
  unfold InstructionForm.read at h
  split at h
  · cases h
  · split at h
    · rename_i other hoperands
      cases h
      obtain ⟨pair, hpair, hrule⟩ := exists_rule_of_readOperands hoperands
      exact ⟨pair.2, (List.of_mem_zip hpair).2, hrule⟩
    · cases h
    · cases h

/-- The problem that a form finds with tokens, if it refuses them. -/
def refusal? (rules : RuleLookup) (tokens : List String) (lineNumber : Int) (text : String)
    (form : InstructionForm α) : Option Problem :=
  match form.read rules tokens lineNumber text with
  | .ok (.refused problem) => some problem
  | _ => none

theorem refusal?_eq_some_iff {form : InstructionForm α} {rules : RuleLookup}
    {tokens : List String} {lineNumber : Int} {text : String} {problem : Problem} :
    form.refusal? rules tokens lineNumber text = some problem ↔
      form.read rules tokens lineNumber text = .ok (.refused problem) := by
  unfold refusal?
  generalize form.read rules tokens lineNumber text = verdict
  rcases verdict with fault | instruction | other <;> simp

end InstructionForm

/-- The form at an index is the first of its mnemonic that accepts the tokens. -/
structure FirstToAccept (settings : Settings) (forms : List (InstructionForm α))
    (mnemonic : String) (tokens : List String) (index : Nat) (form : InstructionForm α) : Prop where
  form_eq : forms[index]? = some form
  mnemonic_eq : form.mnemonic = mnemonic
  accepts : form.accepts settings tokens = true
  first : ∀ i < index, ∀ earlier, forms[i]? = some earlier → earlier.mnemonic = mnemonic →
    earlier.accepts settings tokens = false

namespace FirstToAccept
variable {settings : Settings} {forms : List (InstructionForm α)} {mnemonic : String}
  {tokens : List String} {form : InstructionForm α}

theorem head (hname : form.mnemonic = mnemonic) (haccepts : form.accepts settings tokens = true) :
    FirstToAccept settings (form :: forms) mnemonic tokens 0 form :=
  ⟨rfl, hname, haccepts, fun i hi => absurd hi (Nat.not_lt_zero i)⟩

/-- A form of another mnemonic, or one that does not accept the tokens, may stand in front. -/
theorem cons {index : Nat} (h : FirstToAccept settings forms mnemonic tokens index form)
    {other : InstructionForm α}
    (hother : other.mnemonic = mnemonic → other.accepts settings tokens = false) :
    FirstToAccept settings (other :: forms) mnemonic tokens (index + 1) form := by
  refine ⟨by simpa using h.form_eq, h.mnemonic_eq, h.accepts, ?_⟩
  intro i hi earlier hearlier hname
  cases i with
  | zero =>
    simp only [List.getElem?_cons_zero, Option.some.injEq] at hearlier
    subst hearlier
    exact hother hname
  | succ i => exact h.first i (by omega) earlier (by simpa using hearlier) hname

theorem tail {index : Nat} {other : InstructionForm α}
    (h : FirstToAccept settings (other :: forms) mnemonic tokens (index + 1) form) :
    FirstToAccept settings forms mnemonic tokens index form := by
  refine ⟨by simpa using h.form_eq, h.mnemonic_eq, h.accepts, ?_⟩
  intro i hi earlier hearlier hname
  exact h.first (i + 1) (by omega) earlier (by simpa using hearlier) hname

/-- There is one first form. -/
theorem unique {index index' : Nat} {form' : InstructionForm α}
    (h : FirstToAccept settings forms mnemonic tokens index form)
    (h' : FirstToAccept settings forms mnemonic tokens index' form') :
    index = index' ∧ form = form' := by
  rcases Nat.lt_trichotomy index index' with hlt | rfl | hlt
  · have hnot := h'.first index hlt form h.form_eq h.mnemonic_eq
    simp [h.accepts] at hnot
  · exact ⟨rfl, Option.some.inj (h.form_eq.symm.trans h'.form_eq)⟩
  · have hnot := h.first index' hlt form' h'.form_eq h'.mnemonic_eq
    simp [h'.accepts] at hnot

end FirstToAccept

namespace FormSearch
section Searches
variable (rules : RuleLookup) (mnemonic : String) (tokens : List String) (lineNumber : Int)
  (text : String)

/-- Forms of other mnemonics are passed over. -/
theorem run_filter (forms : List (InstructionForm α)) :
    run rules mnemonic tokens lineNumber text
        (forms.filter fun form => form.mnemonic == mnemonic) =
      run rules mnemonic tokens lineNumber text forms := by
  induction forms with
  | nil => rfl
  | cons form rest ih =>
    by_cases hname : form.mnemonic = mnemonic
    · simp [run, hname, ih]
    · simp [run, hname, ih]

/-- Forms behind others are asked only where all of these refuse. -/
theorem run_append (forms more : List (InstructionForm α)) :
    run rules mnemonic tokens lineNumber text (forms ++ more) =
      let front := run rules mnemonic tokens lineNumber text forms
      let back := run rules mnemonic tokens lineNumber text more
      match front.choice with
      | .none => ⟨front.refusals ++ back.refusals, back.choice⟩
      | _ => front := by
  induction forms with
  | nil => rfl
  | cons form rest ih =>
    rw [List.cons_append, run, run]
    split
    · exact ih
    · split
      · rfl
      · rfl
      · rw [ih]
        generalize run rules mnemonic tokens lineNumber text rest = front
        obtain ⟨refusals, instruction | - | fault⟩ := front <;> rfl

variable {rules mnemonic tokens lineNumber text}

theorem run_append_of_found {forms : List (InstructionForm α)} {instruction : Instruction α}
    (h : (run rules mnemonic tokens lineNumber text forms).choice = .found instruction)
    (more : List (InstructionForm α)) :
    run rules mnemonic tokens lineNumber text (forms ++ more) =
      run rules mnemonic tokens lineNumber text forms := by
  rw [run_append]
  simp only [h]

/-- A search fails for an operand type of one of the forms. -/
theorem exists_rule_of_failed {forms : List (InstructionForm α)} {fault : Settings.Fault}
    (h : (run rules mnemonic tokens lineNumber text forms).choice = .failed fault) :
    ∃ form ∈ forms, ∃ operandType ∈ form.operandTypes, rules operandType = .error fault := by
  induction forms with
  | nil => cases h
  | cons form rest ih =>
    have hlater : (run rules mnemonic tokens lineNumber text rest).choice = .failed fault →
        ∃ other ∈ form :: rest, ∃ operandType ∈ other.operandTypes,
          rules operandType = .error fault := by
      intro hrest
      obtain ⟨other, hother, hrule⟩ := ih hrest
      exact ⟨other, List.mem_cons_of_mem _ hother, hrule⟩
    rw [run] at h
    split at h
    · exact hlater h
    · split at h
      · rename_i other hread
        cases h
        exact ⟨form, List.mem_cons_self, InstructionForm.exists_rule_of_read hread⟩
      · cases h
      · exact hlater h

/-- Where all forms of the mnemonic refuse the tokens, the search has their problems in order. -/
theorem run_of_refused {forms : List (InstructionForm α)}
    (h : ∀ form ∈ forms, form.mnemonic = mnemonic →
      (form.refusal? rules tokens lineNumber text).isSome) :
    (run rules mnemonic tokens lineNumber text forms).choice = .none ∧
      (run rules mnemonic tokens lineNumber text forms).refusals.map (·.2) =
        (forms.filter fun form => form.mnemonic == mnemonic).filterMap
          (InstructionForm.refusal? rules tokens lineNumber text) := by
  induction forms with
  | nil => exact ⟨rfl, rfl⟩
  | cons form rest ih =>
    obtain ⟨hform, hrest⟩ := List.forall_mem_cons.mp h
    obtain ⟨hchoice, hrefusals⟩ := ih hrest
    by_cases hname : form.mnemonic = mnemonic
    · obtain ⟨problem, hproblem⟩ := Option.isSome_iff_exists.mp (hform hname)
      have hread := InstructionForm.refusal?_eq_some_iff.mp hproblem
      simp [run, hname, hread, hchoice, hrefusals, hproblem]
    · simp [run, hname, hchoice, hrefusals]

/-- What a line is reported for: the problems that its forms found, or that there is no form. -/
def reported (mnemonic : String) : List Problem → List Problem
  | [] => [.noSuchMnemonic mnemonic]
  | problems => problems

theorem problems_eq (mnemonic : String) (search : FormSearch α) :
    search.problems mnemonic = reported mnemonic (search.refusals.map (·.2)) := by
  unfold problems
  cases search.refusals with
  | nil => rfl
  | cons refusal rest => rfl

theorem reported_perm (mnemonic : String) {problems others : List Problem}
    (h : problems.Perm others) : (reported mnemonic problems).Perm (reported mnemonic others) := by
  cases problems with
  | nil =>
    rw [h.nil_eq]
  | cons problem rest =>
    cases others with
    | nil => cases h.eq_nil
    | cons problem' rest' => exact h

end Searches

/-- An instruction is found by the first form of its mnemonic that accepts the tokens. -/
theorem exists_first_of_found {settings : Settings} {mnemonic : String} {tokens : List String}
    {lineNumber : Int} {text : String} {forms : List (InstructionForm α)}
    {instruction : Instruction α}
    (h : (run settings.operandRule mnemonic tokens lineNumber text forms).choice =
      .found instruction) :
    ∃ index form, FirstToAccept settings forms mnemonic tokens index form ∧
      form.read settings.operandRule tokens lineNumber text = .ok (.accepted instruction) := by
  induction forms with
  | nil => cases h
  | cons form rest ih =>
    rw [run] at h
    split at h
    · rename_i hother
      obtain ⟨index, found, hfirst, hread⟩ := ih h
      refine ⟨index + 1, found, hfirst.cons fun hname => ?_, hread⟩
      simp [hname] at hother
    · rename_i hname
      have hname : form.mnemonic = mnemonic := by simpa using hname
      split at h
      · cases h
      · rename_i accepted hread
        cases h
        exact ⟨0, form, .head hname ((form.accepts_iff settings tokens _ _).mpr ⟨_, hread⟩), hread⟩
      · rename_i problem hrefused
        obtain ⟨index, found, hfirst, hread⟩ := ih h
        refine ⟨index + 1, found, hfirst.cons fun _ => ?_, hread⟩
        rw [← Bool.not_eq_true, form.accepts_iff settings tokens lineNumber text, hrefused]
        simp
end FormSearch
end AsmKit
