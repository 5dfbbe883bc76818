import AsmKit.Proofs.Program.Counting
import AsmKit.Proofs.Program.Reached

/-! # The program of two texts

A text behind another one is read as it is read alone, with its lines and its
labels counted on from those of the first text. The one thing that can come
between is a label that both texts have. The step lemma `readLine_followedBy`
holds for every line whose label is new to the first program, whatever comes of
the line; the main statement follows for all lines, and up to a shared label. -/
namespace AsmKit
variable {α : Type}

/-- A label of the second of two texts. -/
def Label.moveDown (count : Nat) (label : Label) : Label :=
  { label with location := label.location + count }

/-- The program of two texts: the lines of the second are counted on from those of the first. -/
def Program.followedBy (first second : Program α) : Program α where
  slots := first.slots ++ second.slots.map (Option.map (Instruction.moveDown first.lineCount))
  labels := first.labels ++ Table.mapValues (Label.moveDown first.lineCount) second.labels
  lineCount := first.lineCount + second.lineCount

/-- A bad line of the second of two texts. -/
def BadLine.moveDown (count : Nat) (bad : BadLine) : BadLine :=
  { bad with lineNumber := count + bad.lineNumber }

def LineOutcome.behind (first : Program α) : LineOutcome α → LineOutcome α
  | .next program => .next (first.followedBy program)
  | .stop program bad => .stop (first.followedBy program) (bad.moveDown first.lineCount)
  | .fail program fault => .fail (first.followedBy program) fault

def Ending.moveDown (count : Nat) : Ending → Ending
  | .complete => .complete
  | .stopped bad => .stopped (bad.moveDown count)
  | .failed fault => .failed fault

namespace Program
variable {forms : List (InstructionForm α)} {settings : Settings} {first program : Program α}
  {line : String}

/-- The line has no label that the program has. -/
def NewTo (settings : Settings) (program : Program α) (line : String) : Prop :=
  ∀ name, settings.labelOf line = some name → program.label? name = none

theorem label?_followedBy (first program : Program α) (name : String) :
    (first.followedBy program).label? name =
      (first.label? name).or ((program.label? name).map (· + (first.lineCount : Int))) := by
  unfold label? followedBy
  rw [List.lookup_append, Table.lookup_mapValues]
  cases first.labels.lookup name <;> cases program.labels.lookup name <;> rfl

theorem followedBy_empty (first : Program α) : first.followedBy {} = first := by
  simp [followedBy, Table.mapValues]

theorem resolve_moveDown (forms : List (InstructionForm α)) (settings : Settings)
    (count lineNumber : Nat) (line mnemonic : String) (tokens : List String) :
    resolve forms settings (count + lineNumber) line mnemonic tokens =
      (resolve forms settings lineNumber line mnemonic tokens).map
        (Except.map (Instruction.moveDown count)) := by
  have hnumber : ((count + lineNumber : Nat) : Int) = (lineNumber : Int) + count := by omega
  unfold resolve
  rw [hnumber]
  exact FormSearch.answer_moveDown _ _ _ _ _ _ _

/-! ## One line -/

theorem begin_followedBy (hcount : first.lineCount = first.slots.length)
    (hnew : NewTo settings first line) :
    (first.followedBy program).begin settings line =
      first.followedBy (program.begin settings line) := by
  unfold begin
  cases hlabel : settings.labelOf line with
  | none => rfl
  | some name =>
    have hfirst : first.labels.lookup name = none := label?_eq_none_iff.mp (hnew name hlabel)
    have hplace : (((first.followedBy program).slots.length : Nat) : Int) + 1 =
        (program.slots.length : Int) + 1 + (first.lineCount : Int) := by
      simp only [followedBy, List.length_append, List.length_map, hcount]
      omega
    have hput := Table.put_mapValues (Label.moveDown first.lineCount) name
      ⟨name, (program.slots.length : Int) + 1⟩ program.labels
    dsimp only [Label.moveDown] at hput
    dsimp only [setLabel]
    rw [hplace]
    simp only [followedBy, Table.put_append _ _ hfirst, hput, Nat.add_assoc]

theorem readStatement_followedBy (forms : List (InstructionForm α)) (settings : Settings)
    (line : String) (first program : Program α) :
    ((first.followedBy program).readStatement forms settings line
        (settings.cutLabel line).2).1 =
      (program.readStatement forms settings line (settings.cutLabel line).2).1.behind first := by
  have hslot : ∀ slot : Option (Instruction α),
      { first.followedBy program with
        slots := (first.followedBy program).slots ++
          [slot.map (Instruction.moveDown first.lineCount)] } =
        first.followedBy { program with slots := program.slots ++ [slot] } := by
    intro slot
    simp [followedBy]
  rw [readStatement_fst, readStatement_fst]
  cases settings.statementOf line with
  | nil => exact congrArg LineOutcome.next (hslot none)
  | cons mnemonic tokens =>
    have hresolve : resolve forms settings (first.followedBy program).lineCount line mnemonic
        tokens = (resolve forms settings program.lineCount line mnemonic tokens).map
          (Except.map (Instruction.moveDown first.lineCount)) :=
      resolve_moveDown forms settings first.lineCount program.lineCount line mnemonic tokens
    dsimp only
    rw [hresolve]
    rcases resolve forms settings program.lineCount line mnemonic tokens with
      fault | problems | instruction
    · rfl
    · rfl
    · exact congrArg LineOutcome.next (hslot (some instruction))

/-- A line behind a program that does not have its label is read as behind the rest alone. -/
theorem readLine_followedBy (forms : List (InstructionForm α))
    (hcount : first.lineCount = first.slots.length) (hnew : NewTo settings first line) :
    (readLine forms settings (first.followedBy program) line).1 =
      (readLine forms settings program line).1.behind first := by
  by_cases hprogram : NewTo settings program line
  · have hboth : NewTo settings (first.followedBy program) line := by
      intro name hname
      rw [label?_followedBy, hnew name hname, hprogram name hname]
      rfl
    rw [readLine_of_unknown forms hboth, readLine_of_unknown forms hprogram,
      begin_followedBy hcount hnew, readStatement_followedBy]
  · unfold NewTo at hprogram
    push Not at hprogram
    obtain ⟨name, hname, hlabel⟩ := hprogram
    obtain ⟨location, hlocation⟩ := Option.ne_none_iff_exists'.mp hlabel
    have hboth : ((first.followedBy program).label? name).isSome := by
      rw [label?_followedBy, hnew name hname, hlocation]
      rfl
    have hknown : (program.label? name).isSome := by rw [hlocation]; rfl
    rw [readLine_of_known forms hname hboth, readLine_of_known forms hname hknown]
    rfl

/-! ## Lines -/

/-- Lines behind a program that has none of their labels. -/
theorem readLines_followedBy (forms : List (InstructionForm α)) (program : Program α)
    (lines : List String) (hcount : first.lineCount = first.slots.length)
    (hnew : ∀ line ∈ lines, NewTo settings first line) :
    result (readLines forms settings (first.followedBy program) lines) =
      (result (readLines forms settings program lines)).map first.followedBy
        (Ending.moveDown first.lineCount) := by
  induction lines generalizing program with
  | nil => rfl
  | cons line rest ih =>
    obtain ⟨hline, hrest⟩ := List.forall_mem_cons.mp hnew
    rw [result_readLines_cons, result_readLines_cons, readLine_followedBy forms hcount hline]
    generalize (readLine forms settings program line).1 = outcome
    rcases outcome with longer | ⟨last, bad⟩ | ⟨last, fault⟩
    · exact ih longer hrest
    · rfl
    · rfl

theorem result_readLines_append (forms : List (InstructionForm α)) (settings : Settings)
    (program : Program α) (lines more : List String) :
    result (readLines forms settings program (lines ++ more)) =
      match result (readLines forms settings program lines) with
      | (longer, .complete) => result (readLines forms settings longer more)
      | ended => ended := by
  induction lines generalizing program with
  | nil => rfl
  | cons line rest ih =>
    rw [List.cons_append, result_readLines_cons, result_readLines_cons]
    generalize (readLine forms settings program line).1 = outcome
    rcases outcome with longer | ⟨last, bad⟩ | ⟨last, fault⟩
    · exact ih longer
    · rfl
    · rfl

theorem complete_of_append {lines more : List String}
    (h : (readLines forms settings program (lines ++ more)).ending = .complete) :
    (readLines forms settings program lines).ending = .complete := by
  have happend := congrArg Prod.snd
    (result_readLines_append forms settings program lines more)
  have hlines : (result (readLines forms settings program lines)).2 =
      (readLines forms settings program lines).ending := rfl
  rw [← hlines]
  generalize result (readLines forms settings program lines) = reading at happend ⊢
  obtain ⟨longer, - | bad | fault⟩ := reading
  · rfl
  · exact happend.symm.trans h
  · exact happend.symm.trans h

/-! ## The first shared label -/

/-- Lines that are not all new to a program have a first one that is not. -/
theorem exists_first_shared {lines : List String} (program : Program α)
    (h : ∃ line ∈ lines, ¬ NewTo settings program line) :
    ∃ before line after name, lines = before ++ line :: after ∧
      (∀ earlier ∈ before, NewTo settings program earlier) ∧
      settings.labelOf line = some name ∧ (program.label? name).isSome := by
  induction lines with
  | nil => simp at h
  | cons line rest ih =>
    by_cases hnew : NewTo settings program line
    · obtain ⟨other, hmem, hother⟩ := h
      have hrest : other ∈ rest := by
        refine (List.mem_cons.mp hmem).resolve_left ?_
        rintro rfl
        exact hother hnew
      obtain ⟨before, first, after, name, rfl, hbefore, hname, hknown⟩ := ih ⟨other, hrest, hother⟩
      exact ⟨line :: before, first, after, name, rfl, List.forall_mem_cons.mpr ⟨hnew, hbefore⟩,
        hname, hknown⟩
    · unfold NewTo at hnew
      push Not at hnew
      obtain ⟨name, hname, hknown⟩ := hnew
      exact ⟨[], line, rest, name, rfl, by simp, hname, Option.isSome_iff_ne_none.mpr hknown⟩

theorem StandsFor.newTo_of_apart {lines : List String} (h : StandsFor forms settings lines program)
    (hapart : ∀ name, first.label? name = none ∨ program.label? name = none) :
    ∀ line ∈ lines, NewTo settings first line := by
  intro line hmem name hname
  refine (hapart name).resolve_right (Option.isSome_iff_ne_none.mp ?_)
  exact (h.labels.label?_isSome_iff name).mpr ⟨line, hmem, hname⟩

theorem StandsFor.exists_not_newTo {lines : List String} {name : String}
    (h : StandsFor forms settings lines program) (hfirst : (first.label? name).isSome)
    (hprogram : (program.label? name).isSome) : ∃ line ∈ lines, ¬ NewTo settings first line := by
  obtain ⟨line, hmem, hname⟩ := (h.labels.label?_isSome_iff name).mp hprogram
  refine ⟨line, hmem, fun hnew => ?_⟩
  rw [hnew name hname] at hfirst
  cases hfirst

/-- Behind a complete program, lines are read up to the first one that shares a label with it. -/
theorem readLines_shared {before : List String} (after : List String) {name : String}
    (hcount : first.lineCount = first.slots.length)
    (hbefore : (readLines (α := α) forms settings {} before).ending = .complete)
    (hnew : ∀ earlier ∈ before, NewTo settings first earlier)
    (hname : settings.labelOf line = some name) (hshared : (first.label? name).isSome) :
    result (readLines forms settings first (before ++ line :: after)) =
      ({ first.followedBy (readLines forms settings {} before).program with
          lineCount := first.lineCount + (before.length + 1) },
        .stopped ⟨first.lineCount + (before.length + 1), line, [.repeatedLabel name]⟩) := by
  let above := (readLines (α := α) forms settings {} before).program
  have hlength : above.lineCount = before.length := (readLines_standsFor hbefore).lineCount
  have hread : result (readLines forms settings first before) =
      (first.followedBy above, .complete) := by
    have hfollow := readLines_followedBy forms {} before hcount hnew
    rw [followedBy_empty] at hfollow
    rw [hfollow, result, hbefore]
    rfl
  have hknown : ((first.followedBy above).label? name).isSome := by
    rw [label?_followedBy, Option.isSome_or, hshared, Bool.true_or]
  have hlines : (first.followedBy above).lineCount + 1 =
      first.lineCount + (before.length + 1) := by
    rw [followedBy, hlength, Nat.add_assoc]
  rw [result_readLines_append, hread]
  dsimp only
  rw [result_readLines_cons, readLine_of_known forms hname hknown, hlines]

/-! ## Texts -/

/-- A text is read as its lines. -/
theorem read_ofText {rules : Settings} {text : List Char} {report : Report α}
    {later : LineSource}
    (h : read forms settings (.text (.ofText rules text)) = .ok (report, later)) :
    report = readLines forms settings {}
      ((TextSource.cutAll text).map (TextSource.Cut.line rules.comment)) := by
  rw [read_text, TextSource.drain_of_cutting _ (TextSource.cutting_cutAll _)] at h
  exact (congrArg Prod.fst (Except.ok.inj h)).symm

/-- Two texts that are each read completely, with a seam between them, are read as one text. Where
they share no label, the program of the text is that of the first followed by that of the second.
Where they do, the reading stops at the first line of the second text whose label the first text
has, and that label stays where the first text has it. -/
theorem read_append (forms : List (InstructionForm α)) (settings rules : Settings)
    {front back : List Char} (hseam : TextSource.Seam front back) {first second : Report α}
    {afterFront afterBack : LineSource}
    (hfirst : read forms settings (.text (.ofText rules front)) = .ok (first, afterFront))
    (hsecond : read forms settings (.text (.ofText rules back)) = .ok (second, afterBack))
    (hfront : first.ending = .complete) (hback : second.ending = .complete) :
    ∃ above below report later,
      LineSource.HandsOut (.text (.ofText rules front)) above ∧
      LineSource.HandsOut (.text (.ofText rules back)) below ∧
      first.program.lineCount = above.length ∧
      read forms settings (.text (.ofText rules (front ++ back))) = .ok (report, later) ∧
      ((∀ name, first.program.label? name = none ∨ second.program.label? name = none) →
        report.ending = .complete ∧
          report.program = first.program.followedBy second.program) ∧
      (∀ shared, (first.program.label? shared).isSome → (second.program.label? shared).isSome →
        ∃ before line after name, below = before ++ line :: after ∧
          (∀ earlier ∈ before, NewTo settings first.program earlier) ∧
          settings.labelOf line = some name ∧ (first.program.label? name).isSome ∧
          report.ending = .stopped ⟨first.program.lineCount + (before.length + 1), line,
            [.repeatedLabel name]⟩ ∧
          report.program = { first.program.followedBy (readLines forms settings {} before).program
            with lineCount := first.program.lineCount + (before.length + 1) } ∧
          ∀ known location, first.program.label? known = some location →
            report.program.label? known = some location) := by
  let above := (TextSource.cutAll front).map (TextSource.Cut.line rules.comment)
  let below := (TextSource.cutAll back).map (TextSource.Cut.line rules.comment)
  have hlines : (TextSource.ofText rules (front ++ back)).drain.1 = above ++ below := by
    rw [TextSource.drain_of_cutting _ (TextSource.cutting_cutAll _)]
    exact (congrArg _ (TextSource.cutAll_append hseam)).trans List.map_append
  have habove := read_ofText hfirst
  have hbelow := read_ofText hsecond
  have hstands : StandsFor forms settings above first.program := by
    rw [habove] at hfront ⊢
    exact readLines_standsFor hfront
  have hstands' : StandsFor forms settings below second.program := by
    rw [hbelow] at hback ⊢
    exact readLines_standsFor hback
  have hcount : first.program.lineCount = first.program.slots.length :=
    hstands.lineCount.trans hstands.slots.length_eq.symm
  -- The second text is read behind the program of the first.
  have hread : result (readLines forms settings {} (above ++ below)) =
      result (readLines forms settings first.program below) := by
    have hcomplete : result (readLines forms settings {} above) = (first.program, .complete) := by
      rw [← hfront, habove, result]
    rw [result_readLines_append, hcomplete]
  refine ⟨above, below, readLines forms settings {} (above ++ below), _,
    LineSource.handsOut_of_cutting _ (TextSource.cutting_cutAll front),
    LineSource.handsOut_of_cutting _ (TextSource.cutting_cutAll back), hstands.lineCount,
    by rw [read_text, hlines], ?_, ?_⟩
  · intro hapart
    have hfollow := readLines_followedBy forms {} below hcount
      (hstands'.newTo_of_apart hapart)
    rw [followedBy_empty, ← hread] at hfollow
    obtain ⟨hprogram, hending⟩ := Prod.mk.inj hfollow
    rw [← hbelow] at hprogram hending
    rw [hback] at hending
    exact ⟨hending, hprogram⟩
  · intro shared hknown hknown'
    obtain ⟨before, line, after, name, hsplit, hbefore, hname, hshared⟩ :=
      exists_first_shared first.program (hstands'.exists_not_newTo hknown hknown')
    have hcomplete : (readLines (α := α) forms settings {} before).ending = .complete := by
      have hall : (readLines (α := α) forms settings {} (before ++ line :: after)).ending =
          .complete := by
        rw [← hsplit, ← hback, hbelow]
      exact complete_of_append hall
    have hstop := readLines_shared after hcount hcomplete hbefore hname hshared
    rw [← hsplit, ← hread] at hstop
    obtain ⟨hprogram, hending⟩ := Prod.mk.inj hstop
    refine ⟨before, line, after, name, hsplit, hbefore, hname, hshared, hending, hprogram, ?_⟩
    intro known location hlocation
    have hlabel := label?_followedBy first.program
      (readLines (α := α) forms settings {} before).program known
    rw [hlocation, Option.some_or] at hlabel
    rw [hprogram]
    exact hlabel

/-- Behind a line that ends in a carriage return, a text with another label is read to its end,
and a text with the same label is read up to its second line. -/
theorem labelled_lines_in_one_text :
    TextSource.Seam "a: nop\r".toList "b:\nnop".toList ∧
      (∃ report later, read [⟨"nop", [], some 7⟩] .standard
          (.text (.ofText .standard ("a: nop\r".toList ++ "b:\nnop".toList))) =
            .ok (report, later) ∧
        report.ending = .complete ∧ report.program.labels = [("a", ⟨"a", 1⟩), ("b", ⟨"b", 2⟩)] ∧
        report.program.slots.map (Option.map Instruction.lineNumber) = [some 1, none, some 3]) ∧
      ∃ report later, read [⟨"nop", [], some 7⟩] .standard
          (.text (.ofText .standard ("a: nop\r".toList ++ "nop\na:".toList))) =
            .ok (report, later) ∧
        report.ending = .stopped ⟨3, "a:", [.repeatedLabel "a"]⟩ := by
  let forms : List (InstructionForm Nat) := [⟨"nop", [], some 7⟩]
  let reportOf (text : String) : Report Nat :=
    readLines forms .standard {} (TextSource.ofText .standard text.toList).drain.1
  have hfirst : (reportOf "a: nop\r").ending = .complete := by decide +kernel
  have hlabels : (reportOf "a: nop\r").program.labels = [("a", ⟨"a", 1⟩)] := by decide +kernel
  have hseam : TextSource.Seam "a: nop\r".toList "b:\nnop".toList :=
    ⟨.inr (.inl (by decide)), by decide⟩
  refine ⟨hseam, ?_, ?_⟩
  · have hsecond : (reportOf "b:\nnop").ending = .complete := by decide +kernel
    have hapart : ∀ name, (reportOf "a: nop\r").program.label? name = none ∨
        (reportOf "b:\nnop").program.label? name = none := by
      intro name
      by_cases hname : name = "a"
      · exact .inr (by rw [hname]; decide +kernel)
      · have hother : (name == "a") = false := by simpa using hname
        exact .inl (by rw [label?, hlabels, List.lookup_cons, hother]; rfl)
    obtain ⟨-, -, report, later, -, -, -, hread, hjoined, -⟩ :=
      read_append forms .standard .standard hseam (read_text _ _ _) (read_text _ _ _) hfirst hsecond
    obtain ⟨hending, hprogram⟩ := hjoined hapart
    refine ⟨report, later, hread, hending, ?_, ?_⟩
    · rw [hprogram]; decide +kernel
    · rw [hprogram]; decide +kernel
  · have hsecond : (reportOf "nop\na:").ending = .complete := by decide +kernel
    have hnop : Settings.standard.labelOf "nop" = none := by decide +kernel
    have hseam' : TextSource.Seam "a: nop\r".toList "nop\na:".toList :=
      ⟨.inr (.inl (by decide)), by decide⟩
    obtain ⟨-, below, report, later, -, hbelow, -, hread, -, hshared⟩ :=
      read_append forms .standard .standard hseam' (read_text _ _ _) (read_text _ _ _) hfirst
        hsecond
    have hlines : below = ["nop", "a:"] :=
      (hbelow.unique (LineSource.handsOut_of_cutting _ (TextSource.cutting_cutAll _))).trans
        (by decide +kernel)
    obtain ⟨before, line, after, name, hsplit, -, hname, -, hending, -, -⟩ :=
      hshared "a" (by decide +kernel) (by decide +kernel)
    rw [hlines] at hsplit
    refine ⟨report, later, hread, ?_⟩
    rcases before with - | ⟨earlier, - | ⟨other, rest⟩⟩
    · obtain ⟨rfl, -⟩ := List.cons.inj hsplit
      rw [hnop] at hname
      cases hname
    · obtain ⟨-, hsplit⟩ := List.cons.inj hsplit
      obtain ⟨rfl, -⟩ := List.cons.inj hsplit
      have ha : Settings.standard.labelOf "a:" = some "a" := by decide +kernel
      rw [ha] at hname
      cases hname
      exact hending
    · simp at hsplit

end Program
end AsmKit
