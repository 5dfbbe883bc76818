import AsmKit.Proofs.Program.Counting
import Mathlib.Data.Nat.Find

/-! # How far a reading got

Whether it ends behind the last line or at a bad one, a reading leaves the slots
of the lines above that point and the labels of those lines. The bad line itself
never has a slot; its label is there if the line is not bad for repeating it. -/
namespace AsmKit.Program
variable {α : Type} {forms : List (InstructionForm α)} {settings : Settings} {lines : List String}

/-- The program has the slots of the first `filled` lines and the labels of the first `placed`. -/
structure Reached (forms : List (InstructionForm α)) (settings : Settings) (lines : List String)
    (filled placed : Nat) (program : Program α) : Prop where
  slots : SlotsOf forms settings (lines.take filled) program.slots
  labels : LabelsOf settings (lines.take placed) program.labels
  placed_le : placed ≤ program.lineCount
  lineCount_le : program.lineCount ≤ lines.length

/-- The line at an index has a label that no line above it has. -/
structure FirstLabelled (settings : Settings) (lines : List String) (name : String)
    (index : Nat) : Prop where
  labelled : ∃ line, lines[index]? = some line ∧ settings.labelOf line = some name
  first : ∀ i < index, ∀ line, lines[i]? = some line → settings.labelOf line ≠ some name

theorem exists_first_bad (forms : List (InstructionForm α)) (settings : Settings)
    (lines : List String) : (∀ index, ¬ Bad forms settings lines index) ∨
      ∃ index line, lines[index]? = some line ∧ Bad forms settings lines index ∧
        ∀ i < index, ¬ Bad forms settings lines i := by
  by_cases hbad : ∃ index, Bad forms settings lines index
  · classical
    obtain ⟨line, hline, -⟩ := Nat.find_spec hbad
    exact .inr ⟨Nat.find hbad, line, hline, Nat.find_spec hbad, fun _ => Nat.find_min hbad⟩
  · exact .inl fun index h => hbad ⟨index, h⟩

theorem EndsAt.reached {index : Nat} {line : String} {report : Report α}
    (h : EndsAt forms settings lines index line report) (hline : lines[index]? = some line) :
    ∃ placed, index ≤ placed ∧ Reached forms settings lines index placed report.program := by
  obtain ⟨hindex, -⟩ := List.getElem?_eq_some_iff.mp hline
  have hcount := h.lineCount
  by_cases hr : Repeats settings (lines.take index) line
  · exact ⟨index, Nat.le_refl _, h.slots, (h.repeated hr).1, by omega, by omega⟩
  · exact ⟨index + 1, Nat.le_succ _, h.slots, (h.refused hr).1, by omega, by omega⟩

/-- Every reading leaves a program of the lines that it got to. -/
theorem readLines_reached (forms : List (InstructionForm α)) (settings : Settings)
    (lines : List String) : ∃ filled placed, Reached forms settings lines filled placed
      (readLines forms settings {} lines).program := by
  rcases exists_first_bad forms settings lines with hgood | ⟨index, line, hline, hbad, hfirst⟩
  · obtain ⟨-, hcount, hslots, hlabels⟩ := readLines_complete hgood
    refine ⟨lines.length, lines.length, ?_, ?_, by omega, by omega⟩
    · rwa [List.take_length]
    · rwa [List.take_length]
  · obtain ⟨placed, -, hreached⟩ := (readLines_endsAt hline hbad hfirst).reached hline
    exact ⟨index, placed, hreached⟩

/-- A reading is complete exactly if no line is bad. -/
theorem readLines_complete_iff : (readLines (α := α) forms settings {} lines).ending = .complete ↔
    ∀ index, ¬ Bad forms settings lines index := by
  constructor
  · intro hcomplete index hbad
    rcases exists_first_bad forms settings lines with hgood | ⟨i, line, hline, hb, hfirst⟩
    · exact hgood index hbad
    · -- A reading that ends at a line has one slot fewer than lines.
      have hends := readLines_endsAt (α := α) hline hb hfirst
      have hcount := ((readLines_counted forms settings lines rfl).complete_iff).mp hcomplete
      obtain ⟨hi, -⟩ := List.getElem?_eq_some_iff.mp hline
      have hslots := hends.slots.length_eq
      rw [List.length_take] at hslots
      have hlines := hends.lineCount
      omega
  · intro good
    exact (readLines_complete good).1

theorem readLines_standsFor (h : (readLines (α := α) forms settings {} lines).ending = .complete) :
    StandsFor forms settings lines (readLines forms settings {} lines).program :=
  (readLines_complete (readLines_complete_iff.mp h)).2

theorem read_reached {source later : LineSource} {report : Report α}
    (h : read forms settings source = .ok (report, later)) :
    ∃ lines after, source.drain = .ok (lines, after) ∧
      ∃ filled placed, Reached forms settings lines filled placed report.program := by
  unfold read at h
  cases hdrain : source.drain with
  | error fault => rw [hdrain] at h; cases h
  | ok drained =>
    rw [hdrain] at h
    cases h
    exact ⟨drained.1, drained.2, rfl, readLines_reached forms settings drained.1⟩

theorem read_text (forms : List (InstructionForm α)) (settings : Settings) (source : TextSource) :
    read forms settings (.text source) =
      .ok (readLines forms settings {} source.drain.1,
        (LineSource.text source).skip
          (readLines forms settings {} source.drain.1).program.lineCount) := rfl

/-! ## Entries of the label table -/

theorem LabelsOf.lookup_of_mem {labels : List (String × Label)}
    (h : LabelsOf settings lines labels) {name : String} {label : Label}
    (hmem : (name, label) ∈ labels) : labels.lookup name = some label := by
  obtain ⟨front, back, rfl⟩ := List.append_of_mem hmem
  have hnodup := h.nodup
  rw [List.map_append, List.map_cons, List.nodup_append] at hnodup
  have hfront : front.lookup name = none := by
    refine List.lookup_eq_none_iff.mpr fun entry hentry => ?_
    have hne := hnodup.2.2 entry.1 (List.mem_map_of_mem hentry) name List.mem_cons_self
    exact bne_iff_ne.mpr hne.symm
  rw [List.lookup_append, hfront]
  simp

/-- Labels stand in the table under their own names. -/
theorem LabelsOf.label?_of_mem {program : Program α} (h : LabelsOf settings lines program.labels)
    {name : String} {label : Label} (hmem : (name, label) ∈ program.labels) :
    label.name = name ∧ program.label? name = some label.location := by
  have hlookup := h.lookup_of_mem hmem
  obtain ⟨index, line, -, -, rfl⟩ := (h.lookup_iff name label).mp hlookup
  exact ⟨rfl, by rw [label?, hlookup]; rfl⟩

/-- A label is placed at the first line that has it. -/
theorem Reached.firstLabelled {filled placed : Nat} {program : Program α}
    (h : Reached forms settings lines filled placed program) {name : String} {location : Int}
    (hlabel : program.label? name = some location) :
    ∃ index : Nat, location = index + 1 ∧ index < placed ∧
      FirstLabelled settings lines name index := by
  obtain ⟨index, line, hline, hname, hlocation⟩ := (h.labels.location_iff name location).mp hlabel
  obtain ⟨hindex, -⟩ := List.getElem?_eq_some_iff.mp hline
  rw [List.length_take] at hindex
  refine ⟨index, hlocation, by omega, ⟨line, ?_, hname⟩, ?_⟩
  · rwa [List.getElem?_take_of_lt (by omega)] at hline
  · intro i hi earlier hearlier hsame
    -- An earlier line with the label would be its place too.
    have hplace : program.label? name = some ((i : Int) + 1) := by
      refine (h.labels.location_iff name _).mpr ⟨i, earlier, ?_, hsame, rfl⟩
      rwa [List.getElem?_take_of_lt (by omega)]
    rw [hlabel, hlocation] at hplace
    have heq := Option.some.inj hplace
    omega

/-- An instruction in a slot belongs to the line of the slot. -/
theorem Reached.slotOf {filled placed : Nat} {program : Program α}
    (h : Reached forms settings lines filled placed program) {index : Nat}
    {instruction : Instruction α} (hslot : program.slots[index]? = some (some instruction)) :
    ∃ line, lines[index]? = some line ∧
      SlotOf forms settings (index + 1) line (some instruction) := by
  obtain ⟨hindex, -⟩ := List.getElem?_eq_some_iff.mp hslot
  rw [h.slots.length_eq, List.length_take] at hindex
  have hline : lines[index]? = some lines[index] := List.getElem?_eq_getElem (by omega)
  refine ⟨lines[index], hline, h.slots.slot ?_ hslot⟩
  rwa [List.getElem?_take_of_lt (by omega)]

end AsmKit.Program
