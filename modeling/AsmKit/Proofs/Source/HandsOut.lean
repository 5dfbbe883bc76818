import AsmKit.Proofs.Source.Cutting
import AsmKit.Source.Lines

/-! # What a source hands out, line by line

Asking a source for its next line until none is left relates the source to its
lines. Main statement: draining the source collects exactly those lines,
whatever kind of source it is. -/
namespace AsmKit.LineSource
open AsmKit.TextSource (Cutting Cut cutting_cutAll next?_of_cutting next?_of_nil drain_of_cutting)

/-- The source hands out these lines, one after the other, and then no more. -/
inductive HandsOut : LineSource → List String → Prop
  | done {source : LineSource} : source.hasNext = .ok false → HandsOut source []
  | line {source later : LineSource} {line : String} {lines : List String} :
      source.hasNext = .ok true → source.next = .ok (line, later) → HandsOut later lines →
      HandsOut source (line :: lines)

/-- A source hands out one list of lines. -/
theorem HandsOut.unique {source : LineSource} {lines others : List String}
    (h : source.HandsOut lines) (h' : source.HandsOut others) : lines = others := by
  induction h generalizing others with
  | done hleft =>
    cases h' with
    | done _ => rfl
    | line hmore _ _ => rw [hleft] at hmore; cases hmore
  | line hmore hnext _ ih =>
    cases h' with
    | done hleft => rw [hmore] at hleft; cases hleft
    | line _ hnext' hlater =>
      rw [hnext] at hnext'
      obtain ⟨rfl, rfl⟩ := Prod.mk.inj (Except.ok.inj hnext')
      rw [ih hlater]

theorem hasNext_of_cutting (source : TextSource) {cuts : List Cut}
    (h : Cutting source.rest cuts) : (text source).hasNext = .ok !cuts.isEmpty := by
  cases cuts with
  | nil => simp [hasNext, TextSource.hasNext, h.eq_nil]
  | cons cut more => simp [hasNext, TextSource.hasNext, h.ne_nil]

theorem handsOut_of_cutting (source : TextSource) {cuts : List Cut}
    (h : Cutting source.rest cuts) :
    HandsOut (.text source) (cuts.map (Cut.line source.comment)) := by
  induction cuts generalizing source with
  | nil => exact .done (hasNext_of_cutting source h)
  | cons cut more ih =>
    obtain ⟨rest, hrest, hnext⟩ := next?_of_cutting source h
    exact .line (hasNext_of_cutting source h) (by simp [next, hnext])
      (ih (source.behind [cut] rest) hrest)

theorem handsOut_given (lines : List String) (lineNumber : Nat) :
    HandsOut (.given lines lineNumber) lines := by
  induction lines generalizing lineNumber with
  | nil => exact .done rfl
  | cons line rest ih => exact .line rfl rfl (ih (lineNumber + 1))

/-- Draining collects the lines that the source hands out one by one. -/
theorem HandsOut.drain {source : LineSource} {lines : List String} (h : source.HandsOut lines) :
    ∃ later, source.drain = .ok (lines, later) := by
  cases source with
  | text source =>
    have hcut := cutting_cutAll source.rest
    have hlines := h.unique (handsOut_of_cutting source hcut)
    exact ⟨.text (source.behind (TextSource.cutAll source.rest) []),
      by simp [LineSource.drain, drain_of_cutting source hcut, hlines]⟩
  | given given lineNumber =>
    have hlines := h.unique (handsOut_given given lineNumber)
    exact ⟨.given [] (lineNumber + given.length), by simp [LineSource.drain, hlines]⟩
  | undefined =>
    cases h with
    | done hleft => cases hleft
    | line hmore _ _ => cases hmore

theorem next_of_hasNext_false {source : LineSource} (h : source.hasNext = .ok false) :
    ∃ fault, source.next = .error fault := by
  cases source with
  | text source =>
    have hrest : source.rest = [] := by simpa [hasNext, TextSource.hasNext] using h
    exact ⟨.exhausted, by simp [next, TextSource.next?, hrest]⟩
  | given lines lineNumber =>
    have hlines : lines = [] := by simpa [hasNext] using h
    exact ⟨.exhausted, by rw [hlines]; rfl⟩
  | undefined => cases h

/-- Behind some of its lines a source hands out the others. -/
theorem HandsOut.skip {source : LineSource} {lines : List String} (h : source.HandsOut lines)
    (n : Nat) : HandsOut (source.skip n) (lines.drop n) := by
  induction n generalizing source lines with
  | zero => exact h
  | succ n ih =>
    cases h with
    | done hleft =>
      obtain ⟨fault, hnext⟩ := next_of_hasNext_false hleft
      simp only [LineSource.skip, hnext]
      exact .done hleft
    | line _ hnext hlater =>
      simp only [LineSource.skip, hnext]
      exact ih hlater

end AsmKit.LineSource
