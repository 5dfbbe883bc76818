import AsmKit.Proofs.Instruction.Choosing
import AsmKit.Proofs.Instruction.Reading
import AsmKit.Proofs.Settings.Standard
import Mathlib.Data.List.Forall2

/-! # What the search among forms answers

The search skips the forms of a mnemonic that refuse, and its answer is what the
first of the others makes of the tokens. Where there is no other, the answer has
the problem of each form. The outcomes are said by themselves first, and then
the answer of the search is the one outcome that there is. -/
namespace AsmKit
variable {α : Type}

namespace FormSearch
variable {settings : Settings} {mnemonic : String} {tokens : List String} {lineNumber : Int}
  {text : String}

/-- The forms of a mnemonic. -/
def candidates (mnemonic : String) (forms : List (InstructionForm α)) : List (InstructionForm α) :=
  forms.filter fun form => form.mnemonic == mnemonic

theorem mem_candidates {forms : List (InstructionForm α)} {form : InstructionForm α} :
    form ∈ candidates mnemonic forms ↔ form ∈ forms ∧ form.mnemonic = mnemonic := by
  simp [candidates]

/-- The search skips a form that refuses the tokens, for whatever problem. -/
def Skips (settings : Settings) (tokens : List String) (form : InstructionForm α) : Prop :=
  ∃ problem, form.Refuses settings tokens problem

theorem isSome_refusal?_of_skips {form : InstructionForm α} (h : Skips settings tokens form) :
    (form.refusal? settings.operandRule tokens lineNumber text).isSome := by
  obtain ⟨problem, hrefuses⟩ := h
  rw [InstructionForm.refusal?_eq_some_iff.mpr
    (InstructionForm.read_of_refuses hrefuses lineNumber text)]
  rfl

/-- A form of the mnemonic that does not refuse ends the search. Forms behind it are not asked. -/
theorem run_cons_of_not_skips {form : InstructionForm α} (hname : form.mnemonic = mnemonic)
    (hform : ¬ Skips settings tokens form) (back : List (InstructionForm α)) :
    run settings.operandRule mnemonic tokens lineNumber text (form :: back) =
      ⟨[], match form.read settings.operandRule tokens lineNumber text with
        | .error fault => .failed fault
        | .ok (.accepted instruction) => .found instruction
        | .ok (.refused _) => .none⟩ := by
  have hsame : ¬ (form.mnemonic != mnemonic) = true := by simpa using hname
  rw [run, if_neg hsame]
  cases hread : form.read settings.operandRule tokens lineNumber text with
  | error fault => rfl
  | ok verdict =>
    cases verdict with
    | accepted instruction => rfl
    | refused problem => exact absurd ⟨problem, InstructionForm.read_refused_iff.mp hread⟩ hform

theorem run_append_of_not_skips {form : InstructionForm α} (hname : form.mnemonic = mnemonic)
    (hform : ¬ Skips settings tokens form) (front back others : List (InstructionForm α)) :
    run settings.operandRule mnemonic tokens lineNumber text (front ++ form :: others) =
      run settings.operandRule mnemonic tokens lineNumber text (front ++ form :: back) := by
  rw [run_append, run_append, run_cons_of_not_skips hname hform,
    run_cons_of_not_skips hname hform]

/-! ### Where all refuse -/

theorem exists_problems_iff {asked : List (InstructionForm α)} :
    (∃ problems, List.Forall₂ (InstructionForm.Refuses settings · tokens ·) asked problems) ↔
      ∀ form ∈ asked, Skips settings tokens form := by
  induction asked with
  | nil => exact ⟨fun _ => nofun, fun _ => ⟨[], .nil⟩⟩
  | cons form rest ih =>
    rw [List.forall_mem_cons, ← ih]
    constructor
    · rintro ⟨_, hrefuses⟩
      cases hrefuses with
      | cons hform hrest => exact ⟨⟨_, hform⟩, _, hrest⟩
    · rintro ⟨⟨problem, hform⟩, problems, hrest⟩
      exact ⟨problem :: problems, .cons hform hrest⟩

theorem filterMap_refusal? {asked : List (InstructionForm α)} {problems : List Problem}
    (h : List.Forall₂ (InstructionForm.Refuses settings · tokens ·) asked problems) :
    asked.filterMap (InstructionForm.refusal? settings.operandRule tokens lineNumber text) =
      problems := by
  induction h with
  | nil => rfl
  | cons hform _ ih =>
    have hread := InstructionForm.read_of_refuses hform lineNumber text
    rw [List.filterMap_cons, InstructionForm.refusal?_eq_some_iff.mpr hread, ih]

/-! ## Outcomes -/

/-- What comes of tokens behind a mnemonic. The first form that does not refuse settles it, or else
all forms have a problem, and a mnemonic without forms is a problem by itself. -/
inductive Outcome (settings : Settings) (forms : List (InstructionForm α)) (mnemonic : String)
    (tokens : List String) (lineNumber : Int) (text : String) :
    Except Settings.Fault (Except (List Problem) (Instruction α)) → Prop
  | accepted {form : InstructionForm α} {instruction : Instruction α} :
      StopsAt (Skips settings tokens) (candidates mnemonic forms) form →
      form.read settings.operandRule tokens lineNumber text = .ok (.accepted instruction) →
      Outcome settings forms mnemonic tokens lineNumber text (.ok (.ok instruction))
  | failed {form : InstructionForm α} {operandType : String} :
      StopsAt (Skips settings tokens) (candidates mnemonic forms) form →
      form.LacksRule settings tokens operandType →
      Outcome settings forms mnemonic tokens lineNumber text (.error (.noRule operandType))
  | unknown : candidates mnemonic forms = [] →
      Outcome settings forms mnemonic tokens lineNumber text
        (.ok (.error [.noSuchMnemonic mnemonic]))
  | refused {problems : List Problem} : candidates mnemonic forms ≠ [] →
      List.Forall₂ (InstructionForm.Refuses settings · tokens ·) (candidates mnemonic forms)
        problems →
      Outcome settings forms mnemonic tokens lineNumber text (.ok (.error problems))

section Outcomes
variable {forms : List (InstructionForm α)}

theorem choice_of_stopsAt {form : InstructionForm α}
    (h : StopsAt (Skips settings tokens) (candidates mnemonic forms) form) :
    (run settings.operandRule mnemonic tokens lineNumber text forms).choice =
      match form.read settings.operandRule tokens lineNumber text with
      | .error fault => .failed fault
      | .ok (.accepted instruction) => .found instruction
      | .ok (.refused _) => .none := by
  obtain ⟨front, back, hsplit, hfront, hform⟩ := h
  have hmem : form ∈ candidates mnemonic forms := by
    rw [hsplit]
    simp
  have hnone : (run settings.operandRule mnemonic tokens lineNumber text front).choice = .none :=
    (run_of_refused fun earlier hmem _ => isSome_refusal?_of_skips (hfront earlier hmem)).1
  rw [candidates] at hsplit
  rw [← run_filter, hsplit, run_append, run_cons_of_not_skips (mem_candidates.mp hmem).2 hform]
  simp only [hnone]

theorem answer_of_refuses {problems : List Problem}
    (h : List.Forall₂ (InstructionForm.Refuses settings · tokens ·)
      (candidates mnemonic forms) problems) :
    (run settings.operandRule mnemonic tokens lineNumber text forms).answer mnemonic =
      .ok (.error (reported mnemonic problems)) := by
  have hskips := exists_problems_iff.mp ⟨problems, h⟩
  have hrefused : ∀ form ∈ forms, form.mnemonic = mnemonic →
      (form.refusal? settings.operandRule tokens lineNumber text).isSome :=
    fun form hmem hname =>
      isSome_refusal?_of_skips (hskips form (mem_candidates.mpr ⟨hmem, hname⟩))
  have hsame : (forms.filter fun form => form.mnemonic == mnemonic).filterMap
      (InstructionForm.refusal? settings.operandRule tokens lineNumber text) = problems :=
    filterMap_refusal? h
  obtain ⟨hchoice, hproblems⟩ := run_of_refused hrefused
  rw [answer, hchoice, problems_eq, hproblems, hsame]

/-- An outcome is what the search answers. -/
theorem Outcome.answer_eq {outcome : Except Settings.Fault (Except (List Problem) (Instruction α))}
    (h : Outcome settings forms mnemonic tokens lineNumber text outcome) :
    (run settings.operandRule mnemonic tokens lineNumber text forms).answer mnemonic =
      outcome := by
  cases h with
  | accepted hstops hread =>
    apply answer_eq_ok_iff.mpr
    rw [choice_of_stopsAt hstops, hread]
  | failed hstops hlacks =>
    apply answer_eq_error_iff.mpr
    rw [choice_of_stopsAt hstops, InstructionForm.read_of_lacksRule hlacks]
  | unknown hnone =>
    have hrefuses : List.Forall₂ (InstructionForm.Refuses settings · tokens ·)
        (candidates mnemonic forms) [] := by
      rw [hnone]
      exact .nil
    exact answer_of_refuses hrefuses
  | @refused problems hsome hrefuses =>
    have hreported : reported mnemonic problems = problems := by
      cases problems with
      | nil => exact absurd (List.forall₂_nil_right_iff.mp hrefuses) hsome
      | cons problem rest => rfl
    rw [answer_of_refuses hrefuses, hreported]

/-- There is an outcome for all tokens. -/
theorem exists_outcome (settings : Settings) (forms : List (InstructionForm α))
    (mnemonic : String) (tokens : List String) (lineNumber : Int) (text : String) :
    ∃ outcome, Outcome settings forms mnemonic tokens lineNumber text outcome := by
  rcases StopsAt.exists_or_all (Skips settings tokens) (candidates mnemonic forms) with
    hall | ⟨form, hstops⟩
  · obtain ⟨problems, hrefuses⟩ := exists_problems_iff.mpr hall
    by_cases hnone : candidates mnemonic forms = []
    · exact ⟨_, .unknown hnone⟩
    · exact ⟨_, .refused hnone hrefuses⟩
  · have hform : ¬ Skips settings tokens form := by
      obtain ⟨_, _, _, _, hform⟩ := hstops
      exact hform
    rcases form.refuses_or_lacksRule_or_fits settings tokens with
      hrefuses | ⟨operandType, hlacks⟩ | ⟨hlength, hfits⟩
    · exact absurd hrefuses hform
    · exact ⟨_, .failed hstops hlacks⟩
    · obtain ⟨instruction, hread⟩ := InstructionForm.read_of_fits hlength hfits lineNumber text
      exact ⟨_, .accepted hstops hread⟩

theorem answer_eq_iff {outcome : Except Settings.Fault (Except (List Problem) (Instruction α))} :
    (run settings.operandRule mnemonic tokens lineNumber text forms).answer mnemonic = outcome ↔
      Outcome settings forms mnemonic tokens lineNumber text outcome := by
  obtain ⟨other, hother⟩ := exists_outcome settings forms mnemonic tokens lineNumber text
  constructor
  · intro hanswer
    rw [hother.answer_eq] at hanswer
    exact hanswer ▸ hother
  · exact Outcome.answer_eq

end Outcomes

/-- The answer to tokens behind a mnemonic is settled by the forms of the mnemonic, in their order.
It is an instruction or a fault if the first of them that does not refuse makes this of the tokens,
and the fault is then of a type without a rule. If all refuse, the answer has their problems in
order, one for each, and these are never none: a mnemonic without forms is a problem itself. Forms
behind one that does not refuse do not count, not even for what is reported. -/
theorem answers_by_first_success (settings : Settings) (forms : List (InstructionForm α))
    (mnemonic : String) (tokens : List String) (lineNumber : Int) (text : String) :
    let reads := fun form : InstructionForm α =>
      form.read settings.operandRule tokens lineNumber text
    let search := run settings.operandRule mnemonic tokens lineNumber text forms
    (∀ form, (∀ problem, reads form = .ok (.refused problem) ↔
        form.Refuses settings tokens problem) ∧
      ∀ fault, reads form = .error fault ↔
        ∃ operandType, form.LacksRule settings tokens operandType ∧ fault = .noRule operandType) ∧
    (∀ instruction, search.answer mnemonic = .ok (.ok instruction) ↔
      ∃ form, StopsAt (Skips settings tokens) (candidates mnemonic forms) form ∧
        reads form = .ok (.accepted instruction)) ∧
    (∀ fault, search.answer mnemonic = .error fault ↔
      ∃ form operandType, StopsAt (Skips settings tokens) (candidates mnemonic forms) form ∧
        form.LacksRule settings tokens operandType ∧
        fault = .noRule operandType ∧ fault.kind = .configuration) ∧
    (∀ problems, search.answer mnemonic = .ok (.error problems) ↔
      candidates mnemonic forms = [] ∧ problems = [.noSuchMnemonic mnemonic] ∨
      candidates mnemonic forms ≠ [] ∧ List.Forall₂
        (InstructionForm.Refuses settings · tokens ·) (candidates mnemonic forms) problems) ∧
    search.answer mnemonic ≠ .ok (.error []) ∧
    ∀ front form back others, forms = front ++ form :: back → form.mnemonic = mnemonic →
      ¬ Skips settings tokens form →
      run settings.operandRule mnemonic tokens lineNumber text (front ++ form :: others) =
        search := by
  refine ⟨fun form => ⟨fun problem => InstructionForm.read_refused_iff, fun fault =>
    InstructionForm.read_failed_iff⟩, fun instruction => ?_, fun fault => ?_, fun problems => ?_,
    fun hanswer => ?_, ?_⟩
  · rw [answer_eq_iff]
    constructor
    · intro houtcome
      cases houtcome with
      | accepted hstops hread => exact ⟨_, hstops, hread⟩
    · rintro ⟨form, hstops, hread⟩
      exact .accepted hstops hread
  · rw [answer_eq_iff]
    constructor
    · intro houtcome
      cases houtcome with
      | failed hstops hlacks => exact ⟨_, _, hstops, hlacks, rfl, rfl⟩
    · rintro ⟨form, operandType, hstops, hlacks, rfl, -⟩
      exact .failed hstops hlacks
  · rw [answer_eq_iff]
    constructor
    · intro houtcome
      cases houtcome with
      | unknown hnone => exact .inl ⟨hnone, rfl⟩
      | refused hsome hrefuses => exact .inr ⟨hsome, hrefuses⟩
    · rintro (⟨hnone, rfl⟩ | ⟨hsome, hrefuses⟩)
      · exact .unknown hnone
      · exact .refused hsome hrefuses
  · cases answer_eq_iff.mp hanswer with
    | refused hsome hrefuses => exact hsome (List.forall₂_nil_right_iff.mp hrefuses)
  · rintro front form back others rfl hname hform
    exact run_append_of_not_skips hname hform front back others

/-- The first form is skipped for its arity, and the second one lacks a rule. The third would accept
the token, but it is not asked. -/
example : run Settings.standard.operandRule "push" ["1"] 1 "push 1"
    [⟨"push", [], some 1⟩, ⟨"push", ["float"], some 2⟩, ⟨"push", ["imm"], some 3⟩] =
      ⟨[(⟨"push", [], some 1⟩, .wrongCount "push" 0 1)], .failed (.noRule "float")⟩ := by
  decide +kernel

end FormSearch
end AsmKit
