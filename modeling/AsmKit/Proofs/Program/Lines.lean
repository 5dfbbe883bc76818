import AsmKit.Program.Reading
import AsmKit.Proofs.Instruction.Search
import AsmKit.Proofs.Settings.Standard
import AsmKit.Proofs.Source.HandsOut
import Mathlib.Data.List.Induction

/-! # What a program is, given its lines

Each line is judged by itself and by the labels above it: it is bad if it
repeats a label or if its statement is not accepted. The slots and the labels
of a program are described by the lines alone, without the reading of them.
Reading keeps that description as long as no line is bad, and a bad line ends
it in a way that the same description gives. -/
namespace AsmKit

namespace Settings

/-- The label of a line, if it has one. -/
def labelOf (settings : Settings) (line : String) : Option String := (settings.cutLabel line).1

/-- The tokens of a line behind its label. -/
def statementOf (settings : Settings) (line : String) : List String :=
  let rest := (settings.cutLabel line).2
  if rest == "" then [] else settings.tokens rest

end Settings

namespace Program
variable {α : Type}

/-- What the forms make of the statement of a line. -/
def resolve (forms : List (InstructionForm α)) (settings : Settings) (lineNumber : Nat)
    (line mnemonic : String) (tokens : List String) :
    Except Settings.Fault (Except (List Problem) (Instruction α)) :=
  (FormSearch.run settings.operandRule mnemonic tokens lineNumber line forms).answer mnemonic

/-- The line has a label that a line above it has. -/
def Repeats (settings : Settings) (above : List String) (line : String) : Prop :=
  ∃ name, settings.labelOf line = some name ∧
    ∃ earlier ∈ above, settings.labelOf earlier = some name

/-- The line has a statement that no form accepts, or that needs a rule which the settings lack. -/
def Refused (forms : List (InstructionForm α)) (settings : Settings) (lineNumber : Nat)
    (line : String) : Prop :=
  ∃ mnemonic tokens, settings.statementOf line = mnemonic :: tokens ∧
    ((∃ problems, resolve forms settings lineNumber line mnemonic tokens = .ok (.error problems)) ∨
      ∃ fault, resolve forms settings lineNumber line mnemonic tokens = .error fault)

/-- The line at an index repeats a label, or does not and is refused. -/
def Bad (forms : List (InstructionForm α)) (settings : Settings) (lines : List String)
    (index : Nat) : Prop :=
  ∃ line, lines[index]? = some line ∧
    (Repeats settings (lines.take index) line ∨
      ¬ Repeats settings (lines.take index) line ∧ Refused forms settings (index + 1) line)

/-- What the slot of a line holds: nothing where the line has no statement, and else the
instruction that the forms make of it, which carries the number and the text of the line. -/
inductive SlotOf (forms : List (InstructionForm α)) (settings : Settings) (lineNumber : Nat)
    (line : String) : Option (Instruction α) → Prop
  | empty : settings.statementOf line = [] → SlotOf forms settings lineNumber line none
  | filled {mnemonic : String} {tokens : List String} {instruction : Instruction α} :
      settings.statementOf line = mnemonic :: tokens →
      resolve forms settings lineNumber line mnemonic tokens = .ok (.ok instruction) →
      instruction.lineNumber = lineNumber → instruction.text = line →
      SlotOf forms settings lineNumber line (some instruction)

/-- Slots that belong to lines, one to each. -/
structure SlotsOf (forms : List (InstructionForm α)) (settings : Settings) (lines : List String)
    (slots : List (Option (Instruction α))) : Prop where
  length_eq : slots.length = lines.length
  slot : ∀ {index line slot}, lines[index]? = some line → slots[index]? = some slot →
    SlotOf forms settings (index + 1) line slot

/-- Labels that belong to lines: each label of a line, under its own name and at the position of
the line, and no other. -/
structure LabelsOf (settings : Settings) (lines : List String) (labels : List (String × Label)) :
    Prop where
  nodup : (labels.map Prod.fst).Nodup
  lookup_iff : ∀ name label, labels.lookup name = some label ↔
    ∃ (index : Nat) (line : String), lines[index]? = some line ∧
      settings.labelOf line = some name ∧ label = ⟨name, index + 1⟩

/-- A program that stands for lines all of which have been read. -/
structure StandsFor (forms : List (InstructionForm α)) (settings : Settings)
    (lines : List String) (program : Program α) : Prop where
  lineCount : program.lineCount = lines.length
  slots : SlotsOf forms settings lines program.slots
  labels : LabelsOf settings lines program.labels

/-- How reading ends at a bad line, with the lines above it read. A repeated label leaves the
labels as the lines above have them; a refused statement comes behind its label, and what the
forms say of it is how the reading ends. -/
structure EndsAt (forms : List (InstructionForm α)) (settings : Settings) (lines : List String)
    (index : Nat) (line : String) (report : Report α) : Prop where
  lineCount : report.program.lineCount = index + 1
  slots : SlotsOf forms settings (lines.take index) report.program.slots
  repeated : Repeats settings (lines.take index) line →
    LabelsOf settings (lines.take index) report.program.labels ∧
      ∃ name, settings.labelOf line = some name ∧
        report.ending = .stopped ⟨index + 1, line, [.repeatedLabel name]⟩
  refused : ¬ Repeats settings (lines.take index) line →
    LabelsOf settings (lines.take (index + 1)) report.program.labels ∧
      ∃ mnemonic tokens, settings.statementOf line = mnemonic :: tokens ∧
        ((∃ problems,
            resolve forms settings (index + 1) line mnemonic tokens = .ok (.error problems) ∧
            report.ending = .stopped ⟨index + 1, line, problems⟩) ∨
          ∃ fault, resolve forms settings (index + 1) line mnemonic tokens = .error fault ∧
            report.ending = .failed fault)

/-! ## One more line -/

theorem getElem?_concat_iff {β : Type} {items : List β} {last item : β} {index : Nat} :
    (items ++ [last])[index]? = some item ↔
      items[index]? = some item ∨ index = items.length ∧ item = last := by
  rcases Nat.lt_trichotomy index items.length with hlt | rfl | hgt
  · rw [List.getElem?_append_left hlt]
    exact ⟨Or.inl, fun h => h.resolve_right fun h => absurd h.1 (Nat.ne_of_lt hlt)⟩
  · simp [eq_comm]
  · rw [List.getElem?_eq_none (by simp; omega), List.getElem?_eq_none (by omega)]
    constructor
    · intro h; cases h
    · rintro (h | ⟨h, -⟩)
      · cases h
      · omega

theorem SlotsOf.append {forms : List (InstructionForm α)} {settings : Settings}
    {lines : List String} {slots : List (Option (Instruction α))} {line : String}
    {slot : Option (Instruction α)} (h : SlotsOf forms settings lines slots)
    (hs : SlotOf forms settings (lines.length + 1) line slot) :
    SlotsOf forms settings (lines ++ [line]) (slots ++ [slot]) := by
  refine ⟨by simp [h.length_eq], ?_⟩
  intro index other otherSlot hline hslot
  rcases getElem?_concat_iff.mp hline with hline | ⟨rfl, rfl⟩
  · rcases getElem?_concat_iff.mp hslot with hslot | ⟨rfl, -⟩
    · exact h.slot hline hslot
    · rw [h.length_eq, List.getElem?_eq_none (Nat.le_refl _)] at hline
      cases hline
  · rcases getElem?_concat_iff.mp hslot with hslot | ⟨-, rfl⟩
    · rw [← h.length_eq, List.getElem?_eq_none (Nat.le_refl _)] at hslot
      cases hslot
    · exact hs

/-- A line without a label leaves the labels as they are. -/
theorem LabelsOf.append_plain {settings : Settings} {lines : List String}
    {labels : List (String × Label)} {line : String} (h : LabelsOf settings lines labels)
    (hline : settings.labelOf line = none) : LabelsOf settings (lines ++ [line]) labels := by
  refine ⟨h.nodup, fun name label => ?_⟩
  rw [h.lookup_iff]
  constructor
  · rintro ⟨index, other, hget, hname, hloc⟩
    exact ⟨index, other, getElem?_concat_iff.mpr (.inl hget), hname, hloc⟩
  · rintro ⟨index, other, hget, hname, hloc⟩
    rcases getElem?_concat_iff.mp hget with hget | ⟨-, rfl⟩
    · exact ⟨index, other, hget, hname, hloc⟩
    · rw [hline] at hname; cases hname

theorem LabelsOf.lookup_isSome_iff {settings : Settings} {lines : List String}
    {labels : List (String × Label)} (h : LabelsOf settings lines labels) (name : String) :
    (labels.lookup name).isSome ↔ ∃ earlier ∈ lines, settings.labelOf earlier = some name := by
  rw [Option.isSome_iff_exists]
  constructor
  · rintro ⟨label, hlabel⟩
    obtain ⟨index, line, hget, hname, -⟩ := (h.lookup_iff name label).mp hlabel
    exact ⟨line, List.mem_of_getElem? hget, hname⟩
  · rintro ⟨line, hmem, hname⟩
    obtain ⟨index, hget⟩ := List.mem_iff_getElem?.mp hmem
    exact ⟨_, (h.lookup_iff name _).mpr ⟨index, line, hget, hname, rfl⟩⟩

theorem LabelsOf.label?_isSome_iff {settings : Settings} {lines : List String}
    {program : Program α} (h : LabelsOf settings lines program.labels) (name : String) :
    (program.label? name).isSome ↔ ∃ earlier ∈ lines, settings.labelOf earlier = some name := by
  rw [label?_isSome]
  exact h.lookup_isSome_iff name

/-- Where the label of a name is. -/
theorem LabelsOf.location_iff {settings : Settings} {lines : List String}
    {labels : List (String × Label)} (h : LabelsOf settings lines labels) (name : String)
    (location : Int) : (labels.lookup name).map Label.location = some location ↔
      ∃ (index : Nat) (line : String), lines[index]? = some line ∧
        settings.labelOf line = some name ∧ location = index + 1 := by
  simp only [Option.map_eq_some_iff, h.lookup_iff]
  constructor
  · rintro ⟨_, ⟨index, line, hget, hname, rfl⟩, rfl⟩
    exact ⟨index, line, hget, hname, rfl⟩
  · rintro ⟨index, line, hget, hname, rfl⟩
    exact ⟨_, ⟨index, line, hget, hname, rfl⟩, rfl⟩

/-- A new label goes to the position of its line. -/
theorem LabelsOf.append_label {settings : Settings} {lines : List String}
    {labels : List (String × Label)} {line name : String} (h : LabelsOf settings lines labels)
    (hline : settings.labelOf line = some name)
    (hnew : ¬ ∃ earlier ∈ lines, settings.labelOf earlier = some name) :
    LabelsOf settings (lines ++ [line])
      (Table.put name ⟨name, (lines.length : Int) + 1⟩ labels) := by
  have hnone : labels.lookup name = none := by
    rw [← Option.not_isSome_iff_eq_none, h.lookup_isSome_iff]
    exact hnew
  refine ⟨?_, fun other label => ?_⟩
  · rw [Table.put_of_lookup_eq_none _ hnone, List.map_append]
    refine List.nodup_append.mpr ⟨h.nodup, by simp, ?_⟩
    rintro known hknown last hlast rfl
    obtain ⟨entry, hentry, rfl⟩ := List.mem_map.mp hknown
    have hfirst : entry.1 = name := by simpa using hlast
    have hne := List.lookup_eq_none_iff.mp hnone entry hentry
    simp [hfirst] at hne
  · by_cases hother : other = name
    · subst hother
      rw [Table.lookup_put_self]
      constructor
      · rintro ⟨⟩
        exact ⟨lines.length, line, getElem?_concat_iff.mpr (.inr ⟨rfl, rfl⟩), hline, rfl⟩
      · rintro ⟨index, earlier, hget, hname, hloc⟩
        rcases getElem?_concat_iff.mp hget with hget | ⟨rfl, -⟩
        · exact absurd ⟨earlier, List.mem_of_getElem? hget, hname⟩ hnew
        · rw [hloc]
    · rw [Table.lookup_put_of_ne _ _ hother, h.lookup_iff]
      constructor
      · rintro ⟨index, earlier, hget, hname, hloc⟩
        exact ⟨index, earlier, getElem?_concat_iff.mpr (.inl hget), hname, hloc⟩
      · rintro ⟨index, earlier, hget, hname, hloc⟩
        rcases getElem?_concat_iff.mp hget with hget | ⟨-, rfl⟩
        · exact ⟨index, earlier, hget, hname, hloc⟩
        · rw [hline] at hname
          exact absurd (Option.some.inj hname).symm hother

/-! ## Reading a line -/

variable {forms : List (InstructionForm α)} {settings : Settings} {lines : List String}
  {line : String} {program : Program α}

/-- What a statement does to a program whose last line it belongs to. -/
theorem readStatement_fst (forms : List (InstructionForm α)) (settings : Settings)
    (line : String) (program : Program α) :
    (program.readStatement forms settings line (settings.cutLabel line).2).1 =
      match settings.statementOf line with
      | [] => .next { program with slots := program.slots ++ [none] }
      | mnemonic :: tokens =>
        match resolve forms settings program.lineCount line mnemonic tokens with
        | .error fault => .fail program fault
        | .ok (.ok instruction) =>
          .next { program with slots := program.slots ++ [some instruction] }
        | .ok (.error problems) => .stop program ⟨program.lineCount, line, problems⟩ := by
  have hstatement : (if (settings.cutLabel line).2 == "" then []
      else settings.tokens (settings.cutLabel line).2) = settings.statementOf line := rfl
  unfold readStatement
  dsimp only
  rw [hstatement]
  cases settings.statementOf line with
  | nil => rfl
  | cons mnemonic tokens =>
    unfold resolve
    dsimp only
    generalize (FormSearch.run settings.operandRule mnemonic tokens program.lineCount line
      forms).answer mnemonic = outcome
    rcases outcome with fault | problems | instruction <;> rfl

/-- The program at the start of one more line: the line is counted, and its label is placed. -/
def begin (settings : Settings) (line : String) (program : Program α) : Program α :=
  let counted := { program with lineCount := program.lineCount + 1 }
  match settings.labelOf line with
  | none => counted
  | some name => counted.setLabel name (program.slots.length + 1)

/-- A label that is in the table already stops the reading. -/
theorem readLine_of_known (forms : List (InstructionForm α)) {name : String}
    (hname : settings.labelOf line = some name) (hknown : (program.label? name).isSome) :
    (readLine forms settings program line).1 =
      .stop { program with lineCount := program.lineCount + 1 }
        ⟨program.lineCount + 1, line, [.repeatedLabel name]⟩ := by
  unfold Settings.labelOf at hname
  unfold label? at hknown
  unfold readLine
  simp only [hname, label?, hknown, if_true]

/-- Any other line is begun, and then its statement is read. -/
theorem readLine_of_unknown (forms : List (InstructionForm α))
    (hnew : ∀ name, settings.labelOf line = some name → program.label? name = none) :
    (readLine forms settings program line).1 =
      ((program.begin settings line).readStatement forms settings line
        (settings.cutLabel line).2).1 := by
  unfold readLine begin
  cases hlabel : settings.labelOf line with
  | none =>
    unfold Settings.labelOf at hlabel
    simp only [hlabel]
  | some name =>
    have hnone : program.labels.lookup name = none := label?_eq_none_iff.mp (hnew name hlabel)
    unfold Settings.labelOf at hlabel
    simp only [hlabel, label?, hnone, Option.map_none, Option.isSome_none, Bool.false_eq_true,
      if_false]
    rfl

theorem readLine_of_repeats (h : StandsFor forms settings lines program)
    (hr : Repeats settings lines line) :
    ∃ name, settings.labelOf line = some name ∧ (readLine forms settings program line).1 =
      .stop { program with lineCount := lines.length + 1 }
        ⟨lines.length + 1, line, [.repeatedLabel name]⟩ := by
  obtain ⟨name, hname, hearlier⟩ := hr
  have hknown : (program.label? name).isSome := (h.labels.label?_isSome_iff name).mpr hearlier
  refine ⟨name, hname, ?_⟩
  rw [readLine_of_known forms hname hknown, h.lineCount]

theorem readLine_of_fresh (h : StandsFor forms settings lines program)
    (hr : ¬ Repeats settings lines line) :
    (readLine forms settings program line).1 =
      ((program.begin settings line).readStatement forms settings line
        (settings.cutLabel line).2).1 := by
  refine readLine_of_unknown forms fun name hname => ?_
  rw [← Option.not_isSome_iff_eq_none, h.labels.label?_isSome_iff]
  exact fun hearlier => hr ⟨name, hname, hearlier⟩

/-- A program that has begun a line has the labels of the line, and not yet its slot. -/
theorem StandsFor.begin (h : StandsFor forms settings lines program)
    (hr : ¬ Repeats settings lines line) :
    (program.begin settings line).lineCount = lines.length + 1 ∧
      (program.begin settings line).slots = program.slots ∧
      LabelsOf settings (lines ++ [line]) (program.begin settings line).labels := by
  unfold Program.begin
  split
  · rename_i hlabel
    exact ⟨by simp [h.lineCount], rfl, h.labels.append_plain hlabel⟩
  · rename_i name hlabel
    refine ⟨by simp [h.lineCount, setLabel], rfl, ?_⟩
    have hnew := h.labels.append_label hlabel fun hearlier => hr ⟨name, hlabel, hearlier⟩
    simpa [setLabel, h.slots.length_eq] using hnew

/-- A line that is not bad extends the program. -/
theorem readLine_of_good (h : StandsFor forms settings lines program)
    (hr : ¬ Repeats settings lines line)
    (ha : ¬ Refused forms settings (lines.length + 1) line) :
    ∃ longer, (readLine forms settings program line).1 = .next longer ∧
      StandsFor forms settings (lines ++ [line]) longer := by
  obtain ⟨hcount, hslots, hlabels⟩ := h.begin hr
  rw [readLine_of_fresh h hr, readStatement_fst, hcount]
  cases hstatement : settings.statementOf line with
  | nil =>
    refine ⟨_, rfl, by simp, ?_, hlabels⟩
    rw [hslots]
    exact h.slots.append (.empty hstatement)
  | cons mnemonic tokens =>
    dsimp only
    cases hresolve : resolve forms settings (lines.length + 1) line mnemonic tokens with
    | error fault => exact absurd ⟨mnemonic, tokens, hstatement, .inr ⟨fault, hresolve⟩⟩ ha
    | ok outcome =>
      cases outcome with
      | error problems =>
        exact absurd ⟨mnemonic, tokens, hstatement, .inl ⟨problems, hresolve⟩⟩ ha
      | ok instruction =>
        obtain ⟨hnumber, htext⟩ := FormSearch.answer_instruction hresolve
        refine ⟨_, rfl, by simp, ?_, hlabels⟩
        rw [hslots]
        exact h.slots.append (.filled hstatement hresolve hnumber htext)

/-- A line whose statement is refused ends the program in front of its slot. -/
theorem readLine_of_refused (h : StandsFor forms settings lines program)
    (hr : ¬ Repeats settings lines line)
    (ha : Refused forms settings (lines.length + 1) line) :
    ∃ mnemonic tokens, settings.statementOf line = mnemonic :: tokens ∧
      ((∃ problems,
          resolve forms settings (lines.length + 1) line mnemonic tokens = .ok (.error problems) ∧
          (readLine forms settings program line).1 =
            .stop (program.begin settings line) ⟨lines.length + 1, line, problems⟩) ∨
        ∃ fault, resolve forms settings (lines.length + 1) line mnemonic tokens = .error fault ∧
          (readLine forms settings program line).1 =
            .fail (program.begin settings line) fault) := by
  obtain ⟨hcount, -, -⟩ := h.begin hr
  obtain ⟨mnemonic, tokens, hstatement, houtcome⟩ := ha
  refine ⟨mnemonic, tokens, hstatement, ?_⟩
  rw [readLine_of_fresh h hr, readStatement_fst, hcount, hstatement]
  rcases houtcome with ⟨problems, hresolve⟩ | ⟨fault, hresolve⟩
  · exact .inl ⟨problems, hresolve, by simp only [hresolve]⟩
  · exact .inr ⟨fault, hresolve, by simp only [hresolve]⟩

/-! ## Reading lines -/

theorem standsFor_nil (forms : List (InstructionForm α)) (settings : Settings) :
    StandsFor forms settings [] ({} : Program α) :=
  ⟨rfl, ⟨rfl, fun h => by cases h⟩, ⟨by simp, fun name location => by simp⟩⟩

theorem bad_concat_iff {index : Nat} (hi : index < lines.length) :
    Bad forms settings (lines ++ [line]) index ↔ Bad forms settings lines index := by
  unfold Bad
  rw [List.getElem?_append_left hi, List.take_append_of_le_length (Nat.le_of_lt hi)]

theorem bad_last_iff : Bad forms settings (lines ++ [line]) lines.length ↔
    Repeats settings lines line ∨
      ¬ Repeats settings lines line ∧ Refused forms settings (lines.length + 1) line := by
  unfold Bad
  simp

/-- What reading comes to, apart from what it reported. -/
def result (report : Report α) : Program α × Ending := (report.program, report.ending)

theorem result_readLines_cons (rest : List String) :
    result (readLines forms settings program (line :: rest)) =
      match (readLine forms settings program line).1 with
      | .next longer => result (readLines forms settings longer rest)
      | .stop last bad => (last, .stopped bad)
      | .fail last fault => (last, .failed fault) := by
  rw [readLines]
  generalize readLine forms settings program line = outcome
  obtain ⟨longer | ⟨last, bad⟩ | ⟨last, fault⟩, events⟩ := outcome <;> rfl

/-- Reading lines that are not bad, and more behind them, is reading the others
behind a program that stands for the first. -/
theorem readLines_of_good (good : ∀ index < lines.length, ¬ Bad forms settings lines index) :
    ∃ program : Program α, StandsFor forms settings lines program ∧ ∀ more,
      result (readLines forms settings {} (lines ++ more)) =
        result (readLines forms settings program more) := by
  induction lines using List.reverseRecOn with
  | nil => exact ⟨{}, standsFor_nil forms settings, fun more => rfl⟩
  | append_singleton lines line ih =>
    obtain ⟨program, hstands, hread⟩ := ih fun index hi =>
      (bad_concat_iff hi).not.mp (good index (by simp; omega))
    have hlast := bad_last_iff.not.mp (good lines.length (by simp))
    rw [not_or, not_and] at hlast
    obtain ⟨longer, hline, hlonger⟩ := readLine_of_good hstands hlast.1 (hlast.2 hlast.1)
    refine ⟨longer, hlonger, fun more => ?_⟩
    rw [List.append_assoc, hread, List.singleton_append, result_readLines_cons, hline]

theorem readLines_complete (good : ∀ index, ¬ Bad forms settings lines index) :
    (readLines (α := α) forms settings {} lines).ending = .complete ∧
      StandsFor forms settings lines (readLines forms settings {} lines).program := by
  obtain ⟨program, hstands, hread⟩ := readLines_of_good fun index _ => good index
  have hall := hread []
  rw [List.append_nil] at hall
  obtain ⟨hprogram, hending⟩ := Prod.mk.inj hall
  exact ⟨hending, by rw [hprogram]; exact hstands⟩

/-- Up to a first bad line the program stands for the lines above it; the line
itself is read behind that program, and nothing below it is. -/
theorem readLines_first_bad {index : Nat} (hline : lines[index]? = some line)
    (good : ∀ i < index, ¬ Bad forms settings lines i) :
    ∃ program : Program α, StandsFor forms settings (lines.take index) program ∧
      result (readLines forms settings {} lines) =
        result (readLines forms settings program (line :: lines.drop (index + 1))) := by
  obtain ⟨hi, rfl⟩ := List.getElem?_eq_some_iff.mp hline
  have hgood : ∀ i < (lines.take index).length, ¬ Bad forms settings (lines.take index) i := by
    intro i hlt
    rw [List.length_take] at hlt
    have hb := good i (by omega)
    unfold Bad at hb ⊢
    rwa [List.getElem?_take_of_lt (by omega), List.take_take, Nat.min_eq_left (by omega)]
  obtain ⟨program, hstands, hread⟩ := readLines_of_good (α := α) hgood
  have hsplit := hread (lines[index] :: lines.drop (index + 1))
  rw [← List.drop_eq_getElem_cons hi, List.take_append_drop, List.drop_eq_getElem_cons hi] at hsplit
  exact ⟨program, hstands, hsplit⟩

/-- Reading stops at the first bad line. -/
theorem readLines_endsAt {index : Nat} (hline : lines[index]? = some line)
    (hbad : Bad forms settings lines index)
    (good : ∀ i < index, ¬ Bad forms settings lines i) :
    EndsAt (α := α) forms settings lines index line (readLines forms settings {} lines) := by
  obtain ⟨program, hstands, hresult⟩ := readLines_first_bad (α := α) hline good
  rw [result_readLines_cons] at hresult
  obtain ⟨hi, -⟩ := List.getElem?_eq_some_iff.mp hline
  have hlength : (lines.take index).length = index := by simp; omega
  have htake : lines.take (index + 1) = lines.take index ++ [line] := by
    rw [List.take_add_one, hline]; rfl
  by_cases hr : Repeats settings (lines.take index) line
  · obtain ⟨name, hname, hread⟩ := readLine_of_repeats hstands hr
    rw [hread, hlength] at hresult
    obtain ⟨hlast, hstop⟩ := Prod.mk.inj hresult
    exact ⟨by rw [hlast], by rw [hlast]; exact hstands.slots,
      fun _ => ⟨by rw [hlast]; exact hstands.labels, name, hname, hstop⟩,
      fun hfresh => absurd hr hfresh⟩
  · have hrefused : Refused forms settings ((lines.take index).length + 1) line := by
      obtain ⟨other, hother, hrepeats | ⟨-, hrefused⟩⟩ := hbad
      · cases hline.symm.trans hother
        exact absurd hrepeats hr
      · cases hline.symm.trans hother
        rwa [hlength]
    obtain ⟨hcount, hslots, hlabels⟩ := hstands.begin hr
    obtain ⟨mnemonic, tokens, hstatement, houtcome⟩ := readLine_of_refused hstands hr hrefused
    rw [hlength] at hcount houtcome
    rw [← htake] at hlabels
    have hends : ∀ ending, result (readLines forms settings {} lines) =
        (program.begin settings line, ending) →
        ((∃ problems, resolve forms settings (index + 1) line mnemonic tokens =
            .ok (.error problems) ∧ ending = .stopped ⟨index + 1, line, problems⟩) ∨
          ∃ fault, resolve forms settings (index + 1) line mnemonic tokens = .error fault ∧
            ending = .failed fault) →
        EndsAt forms settings lines index line (readLines forms settings {} lines) := by
      intro ending hlast hwhy
      obtain ⟨hprogram, hending⟩ := Prod.mk.inj hlast
      refine ⟨by rw [hprogram, hcount], by rw [hprogram, hslots]; exact hstands.slots,
        fun hrepeats => absurd hrepeats hr,
        fun _ => ⟨by rw [hprogram]; exact hlabels, mnemonic, tokens, hstatement, ?_⟩⟩
      rw [hending]
      exact hwhy
    rcases houtcome with ⟨problems, hresolve, hread⟩ | ⟨fault, hresolve, hread⟩
    · rw [hread] at hresult
      exact hends _ hresult (.inl ⟨problems, hresolve, rfl⟩)
    · rw [hread] at hresult
      exact hends _ hresult (.inr ⟨fault, hresolve, rfl⟩)

/-- Reading a program from a source judges its lines one by one and ends at the
first bad one, or else stands for all of them. The source goes on behind the
lines that were read. -/
theorem read_ends_at_first_bad (forms : List (InstructionForm α)) (settings : Settings)
    {source : LineSource} {lines : List String} (h : source.HandsOut lines) :
    ∃ report later, read forms settings source = .ok (report, later) ∧
      later.HandsOut (lines.drop report.program.lineCount) ∧
      ((∀ index, ¬ Bad forms settings lines index) →
        report.ending = .complete ∧ StandsFor forms settings lines report.program) ∧
      ∀ index line, lines[index]? = some line → Bad forms settings lines index →
        (∀ i < index, ¬ Bad forms settings lines i) →
        EndsAt forms settings lines index line report := by
  obtain ⟨after, hdrain⟩ := h.drain
  refine ⟨readLines forms settings {} lines, _, by simp [read, hdrain], h.skip _,
    readLines_complete, ?_⟩
  intro index line hline hbad good
  exact readLines_endsAt hline hbad good

/-- A label that stands in front of an instruction and then alone: the second line is the first
bad one. -/
theorem read_ends_at_repeated_label :
    (LineSource.given ["a: nop", "a:"] 0).HandsOut ["a: nop", "a:"] ∧
      ∃ report later,
        read [⟨"nop", [], some 7⟩] .standard (.given ["a: nop", "a:"] 0) = .ok (report, later) ∧
        report.ending = .stopped ⟨2, "a:", [.repeatedLabel "a"]⟩ := by
  have hsource := LineSource.handsOut_given ["a: nop", "a:"] 0
  obtain ⟨report, later, hread, -, -, hbad⟩ :=
    read_ends_at_first_bad [⟨"nop", [], some 7⟩] .standard hsource
  have hfirst : Settings.standard.labelOf "a: nop" = some "a" := by decide +kernel
  have hsecond : Settings.standard.labelOf "a:" = some "a" := by decide +kernel
  have hnop : Settings.standard.statementOf "a: nop" = ["nop"] := by decide +kernel
  have hrepeats : Repeats .standard ["a: nop"] "a:" := ⟨"a", hsecond, "a: nop", by simp, hfirst⟩
  have hends := hbad 1 "a:" rfl ⟨"a:", rfl, .inl hrepeats⟩ (by
    rintro i hi ⟨line, hline, hcases⟩
    obtain rfl : i = 0 := by omega
    cases hline
    rcases hcases with ⟨_, -, _, hmem, -⟩ | ⟨-, mnemonic, tokens, hstatement, hrefused⟩
    · cases hmem
    · rw [hnop] at hstatement
      cases hstatement
      rcases hrefused with ⟨problems, hresolve⟩ | ⟨fault, hresolve⟩ <;> cases hresolve)
  obtain ⟨-, name, hname, hending⟩ := hends.repeated hrepeats
  rw [hsecond] at hname
  cases hname
  exact ⟨hsource, report, later, hread, hending⟩

end Program
end AsmKit
