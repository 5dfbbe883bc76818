import AsmKit.Proofs.Program.Lines
import Mathlib.Data.List.Forall2

/-! # Two readings of one source

Two lists of forms may belong to different executors. If on every line they
find instructions that count as the same, or both refuse it with problems that
count as the same, or both fail for one fault, then their readings stay side by
side from line to line: programs of corresponding slots with the same labels,
and endings at the same line. -/
namespace AsmKit
variable {α β : Type}

/-- What two lists of forms make of one statement corresponds. -/
inductive AnswersAlike (same : Instruction α → Instruction β → Prop)
    (alike : List Problem → List Problem → Prop) :
    Except Settings.Fault (Except (List Problem) (Instruction α)) →
      Except Settings.Fault (Except (List Problem) (Instruction β)) → Prop
  | found {a : Instruction α} {b : Instruction β} : same a b →
      AnswersAlike same alike (.ok (.ok a)) (.ok (.ok b))
  | refused {problems others : List Problem} : alike problems others →
      AnswersAlike same alike (.ok (.error problems)) (.ok (.error others))
  | failed (fault : Settings.Fault) : AnswersAlike same alike (.error fault) (.error fault)

/-- Programs of as many lines with the same labels, whose slots correspond. -/
structure Program.Alike (same : Instruction α → Instruction β → Prop) (p : Program α)
    (q : Program β) : Prop where
  slots : List.Forall₂ (Option.Rel same) p.slots q.slots
  labels : p.labels = q.labels
  lineCount : p.lineCount = q.lineCount

/-- Endings of one sort, at the same line where they are at a line. -/
inductive Ending.Alike (alike : List Problem → List Problem → Prop) : Ending → Ending → Prop
  | complete : Alike alike .complete .complete
  | stopped {problems others : List Problem} (lineNumber : Nat) (text : String) :
      alike problems others →
      Alike alike (.stopped ⟨lineNumber, text, problems⟩) (.stopped ⟨lineNumber, text, others⟩)
  | failed (fault : Settings.Fault) : Alike alike (.failed fault) (.failed fault)

/-- What two readings make of one line corresponds. -/
inductive LineOutcome.Alike (same : Instruction α → Instruction β → Prop)
    (alike : List Problem → List Problem → Prop) : LineOutcome α → LineOutcome β → Prop
  | next {p : Program α} {q : Program β} : p.Alike same q → Alike same alike (.next p) (.next q)
  | stop {p : Program α} {q : Program β} {problems others : List Problem} (lineNumber : Nat)
      (text : String) : p.Alike same q → alike problems others →
      Alike same alike (.stop p ⟨lineNumber, text, problems⟩) (.stop q ⟨lineNumber, text, others⟩)
  | fail {p : Program α} {q : Program β} (fault : Settings.Fault) : p.Alike same q →
      Alike same alike (.fail p fault) (.fail q fault)

theorem Ending.Alike.eq {ending other : Ending} (h : ending.Alike Eq other) : ending = other := by
  cases h with
  | complete => rfl
  | stopped lineNumber text hproblems => rw [hproblems]
  | failed fault => rfl

/-- Endings that are no fault are both complete, or at the same line. -/
theorem Ending.Alike.of_not_failed {alike : List Problem → List Problem → Prop}
    {ending other : Ending} (h : ending.Alike alike other)
    (hnot : ∀ fault, ending ≠ .failed fault) :
    ending = .complete ∧ other = .complete ∨
      ∃ bad bad', ending = .stopped bad ∧ other = .stopped bad' ∧
        bad.lineNumber = bad'.lineNumber ∧ bad.text = bad'.text ∧
        alike bad.problems bad'.problems := by
  cases h with
  | complete => exact .inl ⟨rfl, rfl⟩
  | stopped lineNumber text hproblems =>
    exact .inr ⟨_, _, rfl, rfl, rfl, rfl, hproblems⟩
  | failed fault => exact absurd rfl (hnot fault)

namespace Program
variable {same : Instruction α → Instruction β → Prop}
  {alike : List Problem → List Problem → Prop}

theorem alike_nil : ({} : Program α).Alike same ({} : Program β) := ⟨.nil, rfl, rfl⟩

namespace Alike
variable {p : Program α} {q : Program β}

theorem label?_eq (h : p.Alike same q) (name : String) : p.label? name = q.label? name := by
  rw [label?, label?, h.labels]

/-- Instructions stand at the same positions. -/
theorem slot (h : p.Alike same q) {position : Nat} {a : Instruction α}
    (ha : p.slots[position]? = some (some a)) :
    ∃ b, q.slots[position]? = some (some b) ∧ same a b := by
  obtain ⟨hp, hget⟩ := List.getElem?_eq_some_iff.mp ha
  have hq : position < q.slots.length := by rwa [← h.slots.length_eq]
  have hslots := h.slots.get hp hq
  rw [List.get_eq_getElem, List.get_eq_getElem, hget] at hslots
  cases hb : q.slots[position] with
  | none =>
    rw [hb] at hslots
    cases hslots
  | some b =>
    rw [hb] at hslots
    cases hslots with
    | some hab => exact ⟨b, by rw [List.getElem?_eq_getElem hq, hb], hab⟩

theorem eq {p q : Program α} (h : p.Alike Eq q) : p = q := by
  obtain ⟨slots, labels, lineCount⟩ := p
  obtain ⟨slots', labels', lineCount'⟩ := q
  obtain ⟨hslots, rfl, rfl⟩ := h
  have hequal : List.Forall₂ Eq slots slots' := by
    refine hslots.imp fun slot other hslot => ?_
    cases hslot with
    | none => rfl
    | some hsame => rw [hsame]
  rw [List.forall₂_eq_eq_eq] at hequal
  rw [hequal]

/-- One more slot on either side. -/
theorem addSlot (h : p.Alike same q) {slot : Option (Instruction α)}
    {other : Option (Instruction β)} (hslot : Option.Rel same slot other) :
    ({ p with slots := p.slots ++ [slot] } : Program α).Alike same
      { q with slots := q.slots ++ [other] } :=
  ⟨List.rel_append h.slots (.cons hslot .nil), h.labels, h.lineCount⟩

theorem begin (h : p.Alike same q) (settings : Settings) (line : String) :
    (p.begin settings line).Alike same (q.begin settings line) := by
  unfold Program.begin
  cases settings.labelOf line with
  | none => exact ⟨h.slots, h.labels, by simp [h.lineCount]⟩
  | some name =>
    have hlength := h.slots.length_eq
    exact ⟨h.slots, by simp [setLabel, h.labels, hlength], by simp [setLabel, h.lineCount]⟩

end Alike

/-! ## Line by line -/

section Readings
variable {forms : List (InstructionForm α)} {others : List (InstructionForm β)}
  {settings : Settings}
  (h : ∀ lineNumber line mnemonic tokens, AnswersAlike same alike
    (resolve forms settings lineNumber line mnemonic tokens)
    (resolve others settings lineNumber line mnemonic tokens))
include h

theorem readStatement_alike {p : Program α} {q : Program β} (hpq : p.Alike same q)
    (line : String) : LineOutcome.Alike same alike
      (p.readStatement forms settings line (settings.cutLabel line).2).1
      (q.readStatement others settings line (settings.cutLabel line).2).1 := by
  rw [readStatement_fst, readStatement_fst]
  cases settings.statementOf line with
  | nil => exact .next (hpq.addSlot .none)
  | cons mnemonic tokens =>
    have hanswers : AnswersAlike same alike
        (resolve forms settings p.lineCount line mnemonic tokens)
        (resolve others settings q.lineCount line mnemonic tokens) := by
      rw [hpq.lineCount]
      exact h q.lineCount line mnemonic tokens
    dsimp only
    generalize resolve forms settings p.lineCount line mnemonic tokens = answer at hanswers ⊢
    generalize resolve others settings q.lineCount line mnemonic tokens = answer' at hanswers ⊢
    cases hanswers with
    | found hsame => exact .next (hpq.addSlot (.some hsame))
    | refused halike =>
      rw [hpq.lineCount]
      exact .stop _ _ hpq halike
    | failed fault => exact .fail fault hpq

/-- A line is read alike behind programs that are alike. -/
theorem readLine_alike (hrefl : ∀ problems, alike problems problems) {p : Program α}
    {q : Program β} (hpq : p.Alike same q) (line : String) :
    LineOutcome.Alike same alike (readLine forms settings p line).1
      (readLine others settings q line).1 := by
  by_cases hknown : ∃ name, settings.labelOf line = some name ∧ (p.label? name).isSome
  · obtain ⟨name, hname, hp⟩ := hknown
    have hq : (q.label? name).isSome := by rwa [← hpq.label?_eq]
    rw [readLine_of_known forms hname hp, readLine_of_known others hname hq, hpq.lineCount]
    exact .stop _ _ ⟨hpq.slots, hpq.labels, rfl⟩ (hrefl _)
  · have hp : ∀ name, settings.labelOf line = some name → p.label? name = none := by
      intro name hname
      rw [← Option.not_isSome_iff_eq_none]
      exact fun hsome => hknown ⟨name, hname, hsome⟩
    have hq : ∀ name, settings.labelOf line = some name → q.label? name = none := by
      intro name hname
      rw [← hpq.label?_eq]
      exact hp name hname
    rw [readLine_of_unknown forms hp, readLine_of_unknown others hq]
    exact readStatement_alike h (hpq.begin settings line) line

/-- Readings that start alike end alike. -/
theorem readLines_alike (hrefl : ∀ problems, alike problems problems) {p : Program α}
    {q : Program β} (hpq : p.Alike same q) (lines : List String) :
    (result (readLines forms settings p lines)).1.Alike same
        (result (readLines others settings q lines)).1 ∧
      (result (readLines forms settings p lines)).2.Alike alike
        (result (readLines others settings q lines)).2 := by
  induction lines generalizing p q with
  | nil => exact ⟨hpq, .complete⟩
  | cons line rest ih =>
    have hline := readLine_alike h hrefl hpq line
    rw [result_readLines_cons, result_readLines_cons]
    generalize (readLine forms settings p line).1 = outcome at hline ⊢
    generalize (readLine others settings q line).1 = outcome' at hline ⊢
    cases hline with
    | next hlonger => exact ih hlonger
    | stop lineNumber text hlast halike => exact ⟨hlast, .stopped lineNumber text halike⟩
    | fail fault hlast => exact ⟨hlast, .failed fault⟩

/-- Two readings of one source fail for the same fault of the source, or both go to their ends,
which are alike, and leave the same of the source. -/
theorem read_alike (hrefl : ∀ problems, alike problems problems) (source : LineSource) :
    (∃ fault, read forms settings source = .error fault ∧
      read others settings source = .error fault) ∨
    ∃ report report' later, read forms settings source = .ok (report, later) ∧
      read others settings source = .ok (report', later) ∧
      report.program.Alike same report'.program ∧ report.ending.Alike alike report'.ending := by
  unfold read
  cases source.drain with
  | error fault => exact .inl ⟨fault, rfl, rfl⟩
  | ok drained =>
    obtain ⟨hprogram, hending⟩ := readLines_alike h hrefl alike_nil drained.1
    refine .inr ⟨_, _, _, rfl, ?_, hprogram, hending⟩
    have hcount : (readLines forms settings {} drained.1).program.lineCount =
        (readLines others settings {} drained.1).program.lineCount := hprogram.lineCount
    simp only [bind, Except.bind, pure, Except.pure, hcount]

end Readings
end Program
end AsmKit
