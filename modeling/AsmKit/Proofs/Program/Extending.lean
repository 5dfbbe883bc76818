import AsmKit.Proofs.Instruction.Choosing
import AsmKit.Proofs.Program.Successive

/-! # Readings under other forms

How the forms of different mnemonics are mixed does not matter. Forms that are
added behind the others are asked about no line that was read without them: a
complete reading stays what it is, and one that stopped goes on, if at all, from
the line at which it stopped. -/
namespace AsmKit
variable {α : Type}

/-- Two lists of forms have the same forms of each mnemonic in the same order. Only the order
between different mnemonics is left open. -/
def AgreeByMnemonic (forms others : List (InstructionForm α)) : Prop :=
  ∀ mnemonic, (forms.filter fun form => form.mnemonic == mnemonic) =
    others.filter fun form => form.mnemonic == mnemonic

theorem AgreeByMnemonic.run_eq {forms others : List (InstructionForm α)}
    (h : AgreeByMnemonic forms others) (rules : RuleLookup) (mnemonic : String)
    (tokens : List String) (lineNumber : Int) (text : String) :
    FormSearch.run rules mnemonic tokens lineNumber text forms =
      FormSearch.run rules mnemonic tokens lineNumber text others := by
  rw [← FormSearch.run_filter, h mnemonic, FormSearch.run_filter]

namespace Program
variable {forms others : List (InstructionForm α)} {settings : Settings} {lines : List String}

/-! ## The same searches -/

section Searches
variable (h : ∀ rules mnemonic tokens lineNumber text,
  FormSearch.run rules mnemonic tokens lineNumber text forms =
    FormSearch.run rules mnemonic tokens lineNumber text others)
include h

theorem readLine_congr (settings : Settings) (program : Program α) (line : String) :
    readLine forms settings program line = readLine others settings program line := by
  simp only [readLine, readStatement, h]

/-- Reading depends on the forms through what the searches among them find. -/
theorem readLines_congr (settings : Settings) (lines : List String) (program : Program α) :
    readLines forms settings program lines = readLines others settings program lines := by
  induction lines generalizing program with
  | nil => rfl
  | cons line rest ih => simp only [readLines, readLine_congr h, ih]

theorem read_congr (settings : Settings) (source : LineSource) :
    read forms settings source = read others settings source := by
  simp only [read, readLines_congr h]

end Searches

/-! ## A line that is read -/

theorem readStatement_append {line rest : String} {program longer : Program α}
    {events : List Log.Event}
    (h : program.readStatement forms settings line rest = (.next longer, events))
    (more : List (InstructionForm α)) :
    program.readStatement (forms ++ more) settings line rest = (.next longer, events) := by
  unfold readStatement at h ⊢
  dsimp only at h ⊢
  split at h
  · exact h
  · rename_i mnemonic tokens hstatement
    split at h
    · cases h
    · rename_i instruction hanswer
      have hfound := FormSearch.answer_eq_ok_iff.mp hanswer
      rw [FormSearch.run_append_of_found hfound, hanswer]
      exact h
    · cases h

/-- A line that is read is read the same with more forms behind. -/
theorem readLine_append {line : String} {program longer : Program α} {events : List Log.Event}
    (h : readLine forms settings program line = (.next longer, events))
    (more : List (InstructionForm α)) :
    readLine (forms ++ more) settings program line = (.next longer, events) := by
  unfold readLine at h ⊢
  dsimp only at h ⊢
  split at h
  · exact readStatement_append h more
  · split at h
    · cases h
    · rename_i hnew
      rw [if_neg hnew]
      generalize hplaced : Program.setLabel _ _ _ = placed at h ⊢
      rcases hstatement : placed.readStatement forms settings line (settings.cutLabel line).2 with
        ⟨outcome, below⟩
      rw [hstatement] at h
      cases h
      rw [readStatement_append hstatement more]

/-- A complete reading is the same with more forms behind. -/
theorem readLines_append {program : Program α}
    (h : (readLines forms settings program lines).ending = .complete)
    (more : List (InstructionForm α)) :
    readLines (forms ++ more) settings program lines = readLines forms settings program lines := by
  induction lines generalizing program with
  | nil => rfl
  | cons line rest ih =>
    rw [readLines] at h
    rw [readLines, readLines]
    rcases houtcome : readLine forms settings program line with
      ⟨longer | ⟨last, bad⟩ | ⟨last, fault⟩, events⟩
    all_goals rw [houtcome] at h
    · rw [readLine_append houtcome more]
      simp only [ih h]
    · cases h
    · cases h

/-! ## What the lines are, with more forms -/

theorem resolve_append {lineNumber : Nat} {line mnemonic : String} {tokens : List String}
    {instruction : Instruction α}
    (h : resolve forms settings lineNumber line mnemonic tokens = .ok (.ok instruction))
    (more : List (InstructionForm α)) :
    resolve (forms ++ more) settings lineNumber line mnemonic tokens = .ok (.ok instruction) := by
  have hfound := FormSearch.answer_eq_ok_iff.mp h
  rw [resolve, FormSearch.run_append_of_found hfound]
  exact h

/-- More forms do not make a statement refused. -/
theorem Refused.of_append {more : List (InstructionForm α)} {lineNumber : Nat} {line : String}
    (h : Refused (forms ++ more) settings lineNumber line) :
    Refused forms settings lineNumber line := by
  obtain ⟨mnemonic, tokens, hstatement, hrefused⟩ := h
  refine ⟨mnemonic, tokens, hstatement, ?_⟩
  cases hresolve : resolve forms settings lineNumber line mnemonic tokens with
  | error fault => exact .inr ⟨fault, rfl⟩
  | ok outcome =>
    cases outcome with
    | error problems => exact .inl ⟨problems, rfl⟩
    | ok instruction =>
      rw [resolve_append hresolve more] at hrefused
      rcases hrefused with ⟨_, h⟩ | ⟨_, h⟩ <;> cases h

theorem Bad.of_append {more : List (InstructionForm α)} {index : Nat}
    (h : Bad (forms ++ more) settings lines index) : Bad forms settings lines index := by
  obtain ⟨line, hline, hrepeats | ⟨hfresh, hrefused⟩⟩ := h
  · exact ⟨line, hline, .inl hrepeats⟩
  · exact ⟨line, hline, .inr ⟨hfresh, hrefused.of_append⟩⟩

theorem SlotOf.with_more {lineNumber : Nat} {line : String} {slot : Option (Instruction α)}
    (h : SlotOf forms settings lineNumber line slot) (more : List (InstructionForm α)) :
    SlotOf (forms ++ more) settings lineNumber line slot := by
  cases h with
  | empty hstatement => exact .empty hstatement
  | filled hstatement hresolve hnumber htext =>
    exact .filled hstatement (resolve_append hresolve more) hnumber htext

/-- A line settles what its slot holds. -/
theorem SlotOf.unique {lineNumber : Nat} {line : String} {slot other : Option (Instruction α)}
    (h : SlotOf forms settings lineNumber line slot)
    (hother : SlotOf forms settings lineNumber line other) : slot = other := by
  cases h with
  | empty hstatement =>
    cases hother with
    | empty _ => rfl
    | filled hother _ _ _ => cases hstatement.symm.trans hother
  | filled hstatement hresolve _ _ =>
    cases hother with
    | empty hother => cases hstatement.symm.trans hother
    | filled hother hresolve' _ _ =>
      cases hstatement.symm.trans hother
      cases hresolve.symm.trans hresolve'
      rfl

/-- The slots of the first lines are the first slots, also with more forms. -/
theorem SlotsOf.prefix_of_append {more : List (InstructionForm α)} {few many : Nat}
    {slots longer : List (Option (Instruction α))} (hle : few ≤ many)
    (h : SlotsOf forms settings (lines.take few) slots)
    (hmore : SlotsOf (forms ++ more) settings (lines.take many) longer) : slots <+: longer := by
  refine List.prefix_iff_getElem?.mpr ?_
  intro index hindex
  have hfew := h.length_eq
  have hmany := hmore.length_eq
  rw [List.length_take] at hfew hmany
  have hline : lines[index]? = some lines[index] := List.getElem?_eq_getElem (by omega)
  have hslot : longer[index]? = some longer[index] := List.getElem?_eq_getElem (by omega)
  rw [hslot]
  have hfirst := h.slot (by rwa [List.getElem?_take_of_lt (by omega)])
    (List.getElem?_eq_getElem hindex)
  have hsecond := hmore.slot (by rwa [List.getElem?_take_of_lt (by omega)]) hslot
  rw [(hfirst.with_more more).unique hsecond]

/-- Where a label is placed, up to the last line that was begun. -/
theorem Reached.label?_iff {filled placed : Nat} {program : Program α}
    (h : Reached forms settings lines filled placed program) (name : String) {location : Int}
    (hle : location ≤ placed) : program.label? name = some location ↔
      ∃ (index : Nat) (line : String), lines[index]? = some line ∧
        settings.labelOf line = some name ∧ location = index + 1 := by
  have hlookup := h.labels.location_iff name location
  rw [label?, hlookup]
  constructor
  · intro hplaced
    obtain ⟨index, line, hline, hname, hlocation⟩ := hplaced
    obtain ⟨hindex, -⟩ := List.getElem?_eq_some_iff.mp hline
    rw [List.length_take] at hindex
    rw [List.getElem?_take_of_lt (by omega)] at hline
    exact ⟨index, line, hline, hname, hlocation⟩
  · intro hlabelled
    obtain ⟨index, line, hline, hname, hlocation⟩ := hlabelled
    refine ⟨index, line, ?_, hname, hlocation⟩
    rwa [List.getElem?_take_of_lt (by omega)]

/-! ## How far a reading gets -/

theorem exists_rule_of_resolve {lineNumber : Nat} {line mnemonic : String} {tokens : List String}
    {fault : Settings.Fault}
    (h : resolve forms settings lineNumber line mnemonic tokens = .error fault) :
    ∃ form ∈ forms, ∃ operandType ∈ form.operandTypes,
      settings.operandRule operandType = .error fault :=
  FormSearch.exists_rule_of_failed (FormSearch.answer_eq_error_iff.mp h)

/-- A reading fails only for an operand type of a form that the settings have no rule for. -/
theorem exists_rule_of_readLines {fault : Settings.Fault}
    (h : (readLines forms settings {} lines).ending = .failed fault) :
    ∃ form ∈ forms, ∃ operandType ∈ form.operandTypes,
      settings.operandRule operandType = .error fault := by
  rcases exists_first_bad forms settings lines with hgood | ⟨index, line, hline, hbad, hfirst⟩
  · rw [(readLines_complete hgood).1] at h
    cases h
  · have hends := readLines_endsAt (α := α) hline hbad hfirst
    by_cases hr : Repeats settings (lines.take index) line
    · obtain ⟨-, name, -, hending⟩ := hends.repeated hr
      cases hending.symm.trans h
    · obtain ⟨-, mnemonic, tokens, -, hwhy⟩ := hends.refused hr
      rcases hwhy with ⟨problems, -, hending⟩ | ⟨other, hresolve, hending⟩
      · cases hending.symm.trans h
      · cases hending.symm.trans h
        exact exists_rule_of_resolve hresolve

/-- A fault that ends a reading is one of the configuration. -/
theorem kind_of_readLines {fault : Settings.Fault}
    (h : (readLines forms settings {} lines).ending = .failed fault) :
    fault.kind = .configuration := by
  obtain ⟨form, -, operandType, -, hrule⟩ := exists_rule_of_readLines h
  unfold Settings.operandRule at hrule
  split at hrule
  · cases hrule
  · cases hrule
    rfl

/-- A reading gets behind all lines in front of the first bad one. If it stops, it does so behind
them. -/
theorem readLines_beyond {index : Nat} (hle : index ≤ lines.length)
    (good : ∀ i < index, ¬ Bad forms settings lines i) :
    ∃ filled placed, index ≤ filled ∧ index ≤ placed ∧
      Reached forms settings lines filled placed (readLines forms settings {} lines).program ∧
      ∀ bad, (readLines forms settings {} lines).ending = .stopped bad →
        index < bad.lineNumber := by
  rcases exists_first_bad forms settings lines with hgood | ⟨stop, line, hline, hbad, hfirst⟩
  · obtain ⟨hending, hcount, hslots, hlabels⟩ := readLines_complete (α := α) hgood
    refine ⟨lines.length, lines.length, hle, hle, ⟨?_, ?_, by omega, by omega⟩, ?_⟩
    · rwa [List.take_length]
    · rwa [List.take_length]
    · intro bad hstopped
      cases hending.symm.trans hstopped
  · have hstop : index ≤ stop := by
      by_contra hlt
      exact good stop (by omega) hbad
    have hends := readLines_endsAt (α := α) hline hbad hfirst
    obtain ⟨placed, hplaced, hreached⟩ := hends.reached hline
    refine ⟨stop, placed, hstop, by omega, hreached, fun bad hstopped => ?_⟩
    have hnumber := (hends.stopped hstopped).1
    omega

end Program

/-- A reading goes on from the line at which another one stopped: the slots above that line are
the same, so are the labels placed above it, and no error is found before it. -/
structure Report.GoesOnFrom (bad : BadLine) (stopped longer : Report α) : Prop where
  above : stopped.program.slots.length + 1 = bad.lineNumber
  slots : stopped.program.slots <+: longer.program.slots
  labels : ∀ name location, location < (bad.lineNumber : Int) →
    (longer.program.label? name = some location ↔ stopped.program.label? name = some location)
  ending : longer.ending = .complete ∨
    ∃ later, longer.ending = .stopped later ∧ bad.lineNumber ≤ later.lineNumber

namespace Program
variable {forms : List (InstructionForm α)} {settings : Settings} {lines : List String}

theorem readLines_goesOn {bad : BadLine}
    (h : (readLines forms settings {} lines).ending = .stopped bad)
    (more : List (InstructionForm α)) :
    (∃ fault, (readLines (forms ++ more) settings {} lines).ending = .failed fault ∧
      fault.kind = .configuration) ∨
      Report.GoesOnFrom bad (readLines forms settings {} lines)
        (readLines (forms ++ more) settings {} lines) := by
  rcases exists_first_bad forms settings lines with hgood | ⟨index, line, hline, hbad, hfirst⟩
  · rw [(readLines_complete hgood).1] at h
    cases h
  · have hends := readLines_endsAt (α := α) hline hbad hfirst
    obtain ⟨hnumber, -⟩ := hends.stopped h
    obtain ⟨placed, hplaced, hreached⟩ := hends.reached hline
    obtain ⟨hindex, -⟩ := List.getElem?_eq_some_iff.mp hline
    have hcount := hreached.slots.length_eq
    rw [List.length_take] at hcount
    -- More forms make no line bad, so the other reading gets at least as far.
    obtain ⟨filled', placed', hfilled', hplaced', hreached', hlater⟩ :=
      readLines_beyond (Nat.le_of_lt hindex)
        fun i hi (hbad' : Bad (forms ++ more) settings lines i) => hfirst i hi hbad'.of_append
    have hslots := hreached.slots.prefix_of_append hfilled' hreached'.slots
    have hlabels : ∀ name location, location < (bad.lineNumber : Int) →
        ((readLines (forms ++ more) settings {} lines).program.label? name = some location ↔
          (readLines forms settings {} lines).program.label? name = some location) := by
      intro name location hlt
      rw [hreached'.label?_iff name (by omega), hreached.label?_iff name (by omega)]
    cases hending : (readLines (forms ++ more) settings {} lines).ending with
    | complete => exact .inr ⟨by omega, hslots, hlabels, .inl hending⟩
    | stopped later =>
      have hlater := hlater later hending
      exact .inr ⟨by omega, hslots, hlabels, .inr ⟨later, hending, by omega⟩⟩
    | failed fault => exact .inl ⟨fault, rfl, kind_of_readLines hending⟩

/-- Forms that agree by mnemonic read every source alike, down to the executors. With forms added
behind, whatever they are, a complete reading is the same, and one that stopped at a line fails
for the settings or goes on from that line. -/
theorem read_under_changed_forms (forms : List (InstructionForm α)) (settings : Settings)
    (source : LineSource) :
    (∀ others, AgreeByMnemonic forms others →
      read forms settings source = read others settings source) ∧
    ∀ report later, read forms settings source = .ok (report, later) → ∀ more,
      (report.ending = .complete → read (forms ++ more) settings source = .ok (report, later)) ∧
      ∀ bad, report.ending = .stopped bad →
        ∃ longer last, read (forms ++ more) settings source = .ok (longer, last) ∧
          ((∃ fault, longer.ending = .failed fault ∧ fault.kind = .configuration) ∨
            Report.GoesOnFrom bad report longer) := by
  refine ⟨fun others hagree => read_congr hagree.run_eq settings source, ?_⟩
  intro report later hread more
  unfold read at hread ⊢
  cases hdrain : source.drain with
  | error fault =>
    rw [hdrain] at hread
    cases hread
  | ok drained =>
    rw [hdrain] at hread
    cases hread
    refine ⟨fun hcomplete => ?_, fun bad hstopped => ⟨_, _, rfl, readLines_goesOn hstopped more⟩⟩
    simp only [bind, Except.bind, readLines_append hcomplete more]
    rfl

/-- A form for the second line lets the reading go on, and a form of an operand type without a rule
stands behind lines that are read already. -/
theorem read_goes_on_with_form :
    let nop : InstructionForm Nat := ⟨"nop", [], some 7⟩
    let push : InstructionForm Nat := ⟨"push", ["imm"], some 8⟩
    let odd : InstructionForm Nat := ⟨"nop", ["odd"], some 9⟩
    read [nop, push] .standard (.given ["a: nop", "push 1"] 0) =
        read [push, nop] .standard (.given ["a: nop", "push 1"] 0) ∧
      (∃ report later,
        read [nop, push] .standard (.given ["a: nop", "push 1"] 0) = .ok (report, later) ∧
        read [nop, push, odd] .standard (.given ["a: nop", "push 1"] 0) = .ok (report, later)) ∧
      ∃ longer last,
        read [nop, push] .standard (.given ["a: nop", "push 1"] 0) = .ok (longer, last) ∧
        longer.program.label? "a" = some 1 := by
  intro nop push odd
  have hsource := LineSource.handsOut_given ["a: nop", "push 1"] 0
  have hboth := read_of_handsOut [nop, push] .standard hsource
  have hnop := read_of_handsOut [nop] .standard hsource
  refine ⟨(read_under_changed_forms [nop, push] .standard _).1 _ ?_, ⟨_, _, hboth, ?_⟩, ?_⟩
  · intro mnemonic
    by_cases hnop : "nop" = mnemonic
    · subst hnop
      rfl
    · simp [List.filter_cons, nop, push, hnop]
  · exact ((read_under_changed_forms _ _ _).2 _ _ hboth [odd]).1 (by decide +kernel)
  · obtain ⟨longer, last, hread, hgoes⟩ :=
      ((read_under_changed_forms _ _ _).2 _ _ hnop [push]).2
        ⟨2, "push 1", [.noSuchMnemonic "push"]⟩ (by decide +kernel)
    refine ⟨longer, last, hread, ?_⟩
    rcases hgoes with ⟨fault, hfailed, -⟩ | hgoes
    · cases hboth.symm.trans hread
      have hcomplete : (readLines [nop, push] .standard {} ["a: nop", "push 1"]).ending =
          .complete := by decide +kernel
      cases hcomplete.symm.trans hfailed
    · exact (hgoes.labels "a" 1 (by decide)).mpr (by decide +kernel)

end Program
end AsmKit
