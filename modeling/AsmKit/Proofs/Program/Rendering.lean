import AsmKit.Proofs.Program.Reached
import AsmKit.Proofs.Settings.LineRules
import AsmKit.Proofs.Settings.Resolving

/-! # Reading undoes writing

A line can be written down in many ways: with any blanks in front and behind,
with commas and blanks in any number between its words, and with a comment. Under
the standard settings all these ways are read as the same line, and a text of
such lines as the program of these lines. -/
namespace AsmKit.Rendering
open AsmKit.Settings
open AsmKit.Text
open AsmKit.TextSource (Plain EndsLine Cutting Cut drain_of_cutting)
variable {α : Type}

/-- What an instruction says: its mnemonic and its operands. -/
structure Statement where
  mnemonic : String
  operands : List String

/-- What a line says: its label and its instruction, if it has them. -/
structure Line where
  label : Option String := none
  statement : Option Statement := none

/-- The words of a line behind its label. -/
def Line.words (line : Line) : List String :=
  match line.statement with
  | none => []
  | some statement => statement.mnemonic :: statement.operands

/-! ## Lines that can be read -/

/-- The first form of the mnemonic that accepts the operands. -/
def Statement.form? (forms : List (InstructionForm α)) (statement : Statement) :
    Option (InstructionForm α) :=
  forms.find? fun form =>
    form.mnemonic == statement.mnemonic && form.accepts standard statement.operands

/-- The mnemonic is a token, and there is a form for the operands. -/
structure Statement.WellFormed (forms : List (InstructionForm α)) (statement : Statement) :
    Prop where
  mnemonic : IsToken statement.mnemonic.toList
  operands : ∀ operand ∈ statement.operands, Plain operand.toList
  accepted : ∃ form ∈ forms, form.mnemonic = statement.mnemonic ∧
    form.accepts standard statement.operands = true

/-- The label is a name, the instruction can be read, and without a label it does not look as if
it had one. -/
structure Line.WellFormed (forms : List (InstructionForm α)) (line : Line) : Prop where
  label : ∀ name, line.label = some name → isName isNamePart name.toList = true
  statement : ∀ statement, line.statement = some statement → statement.WellFormed forms
  unlabelled : line.label = none → ∀ statement, line.statement = some statement →
    ¬ StartsWithLabel statement.mnemonic.toList

/-! ## Lines as they are written -/

/-- Blanks that end no line. -/
def Blanks (cs : List Char) : Prop := ∀ c ∈ cs, isBlank c = true ∧ c ≠ '\r' ∧ c ≠ '\n'

/-- Commas and blanks that end no line. -/
def Gap (cs : List Char) : Prop := ∀ c ∈ cs, isSeparator c = true ∧ c ≠ '\r' ∧ c ≠ '\n'

instance (cs : List Char) : Decidable (Blanks cs) := List.decidableBAll _ cs

instance (cs : List Char) : Decidable (Gap cs) := List.decidableBAll _ cs

/-- Words with gaps between them and perhaps a gap at the end. -/
inductive WritesWords : List String → List Char → Prop
  | gap {gap : List Char} : Gap gap → WritesWords [] gap
  | word {word : String} {words : List String} {gap rest : List Char} : Gap gap →
      (words ≠ [] → gap ≠ []) → WritesWords words rest →
      WritesWords (word :: words) (word.toList ++ (gap ++ rest))

/-- A label with its colon and blanks behind it, or nothing. -/
inductive WritesLabel : Option String → List Char → Prop
  | none : WritesLabel none []
  | name {name : String} {blanks : List Char} : Blanks blanks →
      WritesLabel (some name) (name.toList ++ ':' :: blanks)

/-- A comment or nothing. -/
inductive WritesComment : List Char → Prop
  | none : WritesComment []
  | comment {mark : Char} {text : List Char} : isCommentMark mark = true → Plain text →
      WritesComment (mark :: text)

/-- A line, without its line end. -/
inductive Writes (line : Line) : List Char → Prop
  | line {indent front body comment : List Char} : Blanks indent → WritesLabel line.label front →
      WritesWords line.words body → WritesComment comment →
      Writes line (indent ++ (front ++ body) ++ comment)

/-- A text of lines. Only the last one may lack a line end, and then it is not empty. -/
inductive Renders : List Line → List Char → Prop
  | nothing : Renders [] []
  | last {line : Line} {piece : List Char} : Writes line piece → piece ≠ [] → Renders [line] piece
  | line {line : Line} {lines : List Line} {piece ending rest : List Char} : Writes line piece →
      EndsLine ending rest → Renders lines rest →
      Renders (line :: lines) (piece ++ ending ++ rest)

/-! ## The characters of a line -/

/-- Characters that end neither a line nor what it says. -/
def Clear (cs : List Char) : Prop := ∀ c ∈ cs, isCommentMark c = false ∧ c ≠ '\r' ∧ c ≠ '\n'

theorem Clear.plain {cs : List Char} (h : Clear cs) : Plain cs := fun c hc => (h c hc).2

theorem Clear.append {front back : List Char} (hfront : Clear front) (hback : Clear back) :
    Clear (front ++ back) := by
  intro c hc
  rcases List.mem_append.mp hc with hc | hc
  · exact hfront c hc
  · exact hback c hc

theorem Gap.clear {cs : List Char} (h : Gap cs) : Clear cs :=
  fun c hc => ⟨isCommentMark_of_isSeparator (h c hc).1, (h c hc).2⟩

theorem Blanks.gap {cs : List Char} (h : Blanks cs) : Gap cs :=
  fun c hc => ⟨isSeparator_of_isBlank (h c hc).1, (h c hc).2⟩

theorem clear_of_isToken {cs : List Char} (h : IsToken cs) : Clear cs := by
  intro c hc
  have htoken := h.2 c hc
  refine ⟨(isTokenChar_iff.mp htoken).2, ?_, ?_⟩
  · rintro rfl
    revert htoken
    decide
  · rintro rfl
    revert htoken
    decide

section Line
variable {forms : List (InstructionForm α)} {line : Line} {front body piece : List Char}

theorem WritesLabel.clear {label : Option String} (h : WritesLabel label front)
    (hname : ∀ name, label = some name → isName isNamePart name.toList = true) : Clear front := by
  cases h with
  | none => exact nofun
  | name hblanks =>
    have hcolon : Clear [':'] := by
      rintro c hc
      rw [List.mem_singleton.mp hc]
      decide
    have hclear := clear_of_isToken (isToken_of_isName isTokenChar_of_isNamePart (hname _ rfl))
    exact hclear.append (hcolon.append hblanks.gap.clear)

theorem WritesWords.clear {words : List String} (h : WritesWords words body)
    (htokens : ∀ word ∈ words, IsToken word.toList) : Clear body := by
  induction h with
  | gap hgap => exact hgap.clear
  | word hgap _ _ ih =>
    obtain ⟨hword, hwords⟩ := List.forall_mem_cons.mp htokens
    exact (clear_of_isToken hword).append (hgap.clear.append (ih hwords))

/-- Behind a word stands a separator or nothing. -/
theorem WritesWords.head_isSeparator {words : List String} {gap : List Char} (hgap : Gap gap)
    (hsome : words ≠ [] → gap ≠ []) (h : WritesWords words body) :
    ∀ c, (gap ++ body).head? = some c → isSeparator c = true := by
  intro c hc
  cases gap with
  | cons d gap =>
    obtain rfl : d = c := Option.some.inj hc
    exact (hgap d List.mem_cons_self).1
  | nil =>
    cases h with
    | gap hbody => exact (hbody c (List.mem_of_head? hc)).1
    | word => exact absurd rfl (hsome (List.cons_ne_nil _ _))

/-- The words of a text are those that were written. -/
theorem WritesWords.words_eq {words : List String} (h : WritesWords words body)
    (htokens : ∀ word ∈ words, IsToken word.toList) :
    Text.words body = words.map String.toList := by
  induction h with
  | gap hgap =>
    have hwords := words_append_gap (fun c hc => (hgap c hc).1) []
    exact hwords
  | word hgap hsome hrest ih =>
    obtain ⟨hword, hwords⟩ := List.forall_mem_cons.mp htokens
    rw [words_word_append hword.1 hword.isSeparator_eq_false (hrest.head_isSeparator hgap hsome),
      words_gap_append fun c hc => (hgap c hc).1, ih hwords]
    rfl

/-! ## Lines that are read again -/

/-- The words of the line are tokens, and only a line with a label looks as if it had one. -/
structure Line.Readable (line : Line) : Prop where
  label : ∀ name, line.label = some name → isName isNamePart name.toList = true
  tokens : ∀ word ∈ line.words, IsToken word.toList
  unlabelled : line.label = none → ∀ word ∈ line.words.head?, ¬ StartsWithLabel word.toList

theorem Line.WellFormed.readable (h : line.WellFormed forms)
    (hforms : ∀ form ∈ forms, ∀ operandType ∈ form.operandTypes, operandType ∈ standardTypes) :
    line.Readable := by
  refine ⟨h.label, ?_, fun hnone word hword => ?_⟩
  · unfold Line.words
    split
    · exact nofun
    · rename_i statement hstatement
      obtain ⟨hmnemonic, hplain, form, hform, -, haccepts⟩ := h.statement statement hstatement
      refine List.forall_mem_cons.mpr ⟨hmnemonic, fun operand hoperand => ?_⟩
      have htoken := (read_of_accepts (hforms form hform) haccepts).1 operand hoperand
      rwa [chomp_of_notMem (hplain operand hoperand).notMem_lineFeed] at htoken
  · cases hstatement : line.statement with
    | none => simp [Line.words, hstatement] at hword
    | some statement =>
      have heq : statement.mnemonic = word := by simpa [Line.words, hstatement] using hword
      exact heq ▸ h.unlabelled hnone statement hstatement

/-- What a source hands out of a written line is its label and its words. -/
theorem Line.Readable.clean (hline : line.Readable) (h : Writes line piece) :
    Plain piece ∧ ∃ front body, WritesLabel line.label front ∧ WritesWords line.words body ∧
      TextSource.clean standard.comment piece = trim (front ++ body) := by
  cases h with
  | @line indent front body comment hindent hfront hbody hcomment =>
    have hclear : Clear (indent ++ (front ++ body)) :=
      hindent.gap.clear.append ((hfront.clear hline.label).append (hbody.clear hline.tokens))
    have hcore : ∀ c ∈ indent ++ (front ++ body), (!isCommentMark c) = true :=
      fun c hc => by rw [(hclear c hc).1]; rfl
    have hplain : Plain comment := by
      cases hcomment with
      | none => exact nofun
      | comment hmark htext =>
        refine List.forall_mem_cons.mpr ⟨?_, htext⟩
        constructor <;> (rintro rfl; revert hmark; decide)
    have hcut : comment.takeWhile (!isCommentMark ·) = [] := by
      cases hcomment with
      | none => rfl
      | comment hmark _ => simp [hmark]
    have hpiece : Plain (indent ++ (front ++ body) ++ comment) := by
      intro c hc
      rcases List.mem_append.mp hc with hc | hc
      · exact hclear.plain c hc
      · exact hplain c hc
    refine ⟨hpiece, front, body, hfront, hbody, ?_⟩
    have hcomment : standard.comment = commentPattern := rfl
    rw [hcomment, clean_comment hpiece.notMem_lineFeed,
      List.takeWhile_append_of_pos hcore, hcut, List.append_nil,
      trim_blanks_append fun c hc => (hindent c hc).1]

/-- The words of a line without a label do not make one. -/
theorem Line.Readable.not_startsWithLabel (hline : line.Readable) (hnone : line.label = none)
    (hbody : WritesWords line.words body) : ¬ StartsWithLabel (trim body) := by
  rintro ⟨name, rest, hname, htext⟩
  have hfront : ∀ c ∈ name ++ [':'], isSeparator c = false := by
    intro c hc
    rcases List.mem_append.mp hc with hc | hc
    · exact (isToken_of_isName isTokenChar_of_isNamePart hname).isSeparator_eq_false c hc
    · rw [List.mem_singleton.mp hc]
      decide
  -- The name and its colon hold no separator, so they would start the first word.
  have hsplit : trim body = (name ++ [':']) ++ rest := by rw [htext]; simp
  obtain ⟨more, others, hwords⟩ := exists_words_append (by simp) hfront rest
  rw [← hsplit, words_trim, hbody.words_eq hline.tokens] at hwords
  cases hfirst : line.words with
  | nil => rw [hfirst] at hwords; cases hwords
  | cons word words =>
    rw [hfirst, List.map_cons] at hwords
    refine hline.unlabelled hnone word (by rw [hfirst]; rfl) ⟨name, more, hname, ?_⟩
    rw [(List.cons.inj hwords).1]
    simp

theorem trim_name_append {name : List Char} (h : isName isNamePart name = true)
    (cs : List Char) : trim (name ++ ':' :: cs) = name ++ ':' :: trimEnd cs := by
  cases name with
  | nil => cases h
  | cons c name =>
    have hc : isBlank c = false :=
      isBlank_of_isWord (isWord_of_isNameStart (Bool.and_eq_true_iff.mp h).1)
    rw [List.cons_append, trim_cons hc, ← List.cons_append]
    exact trimEnd_append_cons (by decide) (c :: name) cs

theorem Line.Readable.cutLabel (hline : line.Readable) (hfront : WritesLabel line.label front)
    (hbody : WritesWords line.words body) :
    ∃ rest, standard.cutLabel (String.ofList (trim (front ++ body))) =
      (line.label, String.ofList rest) ∧ Text.words rest = Text.words body := by
  generalize hlabel : line.label = label at hfront
  cases hfront with
  | none => exact ⟨_, cutLabel_of_not (hline.not_startsWithLabel hlabel hbody), words_trim _⟩
  | @name name blanks hblanks =>
    have hname := hline.label name hlabel
    have hclear : Clear (blanks ++ body) := hblanks.gap.clear.append (hbody.clear hline.tokens)
    have hfeed : '\n' ∉ trimEnd (blanks ++ body) := by
      intro hmem
      obtain ⟨last, -, heq⟩ := exists_trimEnd_append (blanks ++ body)
      have hfeed := List.mem_append_left last hmem
      rw [heq] at hfeed
      exact hclear.plain.notMem_lineFeed hfeed
    have htrim : trim (name.toList ++ ':' :: blanks ++ body) =
        name.toList ++ ':' :: trimEnd (blanks ++ body) := by
      rw [List.append_assoc, List.cons_append]
      exact trim_name_append hname (blanks ++ body)
    refine ⟨trim (trimEnd (blanks ++ body)), ?_, ?_⟩
    · rw [htrim, cutLabel_of_name hname hfeed, String.ofList_toList]
    · rw [words_trim, words_trimEnd, words_gap_append fun c hc => (hblanks.gap c hc).1]

theorem Line.Readable.line_eq (hline : line.Readable) (h : Writes line piece) :
    standard.labelOf (String.ofList (TextSource.clean standard.comment piece)) = line.label ∧
      standard.statementOf (String.ofList (TextSource.clean standard.comment piece)) =
        line.words := by
  obtain ⟨-, front, body, hfront, hbody, hclean⟩ := hline.clean h
  obtain ⟨rest, hcut, hwords⟩ := hline.cutLabel hfront hbody
  rw [hclean, labelOf, hcut, statementOf_standard hcut, hwords, hbody.words_eq hline.tokens]
  simp

end Line

/-! ## Texts of lines -/

/-- The instruction of a statement, as the line with this number and text. -/
def Statement.instruction (statement : Statement) (form : InstructionForm α) (lineNumber : Nat)
    (text : String) : Instruction α where
  lineNumber := lineNumber
  text := text
  mnemonic := statement.mnemonic
  operands := statement.operands.map some
  executor := form.executor

/-- What the slot of a line holds: its instruction, which is bound to the first form that accepts
it, or nothing. -/
inductive Line.Fills (forms : List (InstructionForm α)) (lineNumber : Nat) (text : String)
    (line : Line) : Option (Instruction α) → Prop
  | empty : line.statement = none → line.Fills forms lineNumber text none
  | filled {statement : Statement} {form : InstructionForm α} : line.statement = some statement →
      statement.form? forms = some form →
      line.Fills forms lineNumber text (some (statement.instruction form lineNumber text))

section Texts
variable {forms : List (InstructionForm α)} {lines : List Line} {text : List Char}

/-- The lines of a text, one cut for each, are read as they were written. -/
theorem Renders.cutting (h : Renders lines text) (hlines : ∀ line ∈ lines, line.Readable) :
    ∃ cuts, Cutting text cuts ∧
      (cuts.map (Cut.line standard.comment)).map standard.labelOf = lines.map Line.label ∧
      (cuts.map (Cut.line standard.comment)).map standard.statementOf = lines.map Line.words := by
  induction h with
  | nothing => exact ⟨[], .nothing, rfl, rfl⟩
  | @last line piece hwrites hne =>
    have hline := hlines line List.mem_cons_self
    obtain ⟨hlabel, hwords⟩ := hline.line_eq hwrites
    refine ⟨[⟨piece, []⟩], .last hne (hline.clean hwrites).1, ?_, ?_⟩
    · rw [List.map_singleton, List.map_singleton, Cut.line, hlabel, List.map_singleton]
    · rw [List.map_singleton, List.map_singleton, Cut.line, hwords, List.map_singleton]
  | @line line lines piece ending rest hwrites hending _ ih =>
    obtain ⟨hline, hlines⟩ := List.forall_mem_cons.mp hlines
    obtain ⟨hlabel, hwords⟩ := hline.line_eq hwrites
    obtain ⟨cuts, hcuts, hlabels, hstatements⟩ := ih hlines
    refine ⟨⟨piece, ending⟩ :: cuts, .line (hline.clean hwrites).1 hending hcuts, ?_, ?_⟩
    · rw [List.map_cons, List.map_cons, hlabels, Cut.line, hlabel, List.map_cons]
    · rw [List.map_cons, List.map_cons, hstatements, Cut.line, hwords, List.map_cons]

theorem exists_getElem?_of_map_eq {β γ δ : Type} {xs : List β} {ys : List γ} {f : β → δ}
    {g : γ → δ} (h : xs.map f = ys.map g) {index : Nat} {x : β} (hx : xs[index]? = some x) :
    ∃ y, ys[index]? = some y ∧ f x = g y := by
  have hitem := congrArg (·[index]?) h
  simp only [List.getElem?_map, hx, Option.map_some] at hitem
  obtain ⟨y, hy, heq⟩ := Option.map_eq_some_iff.mp hitem.symm
  exact ⟨y, hy, heq.symm⟩

theorem Line.statement_of_words {line : Line} {mnemonic : String} {operands : List String}
    (h : line.words = mnemonic :: operands) : line.statement = some ⟨mnemonic, operands⟩ := by
  unfold Line.words at h
  split at h
  · cases h
  · rename_i statement hstatement
    cases h
    exact hstatement

theorem not_repeats {texts : List String} (hnodup : (texts.filterMap standard.labelOf).Nodup)
    {index : Nat} {text : String} (htext : texts[index]? = some text) :
    ¬ Program.Repeats standard (texts.take index) text := by
  rintro ⟨name, hname, earlier, hearlier, hsame⟩
  obtain ⟨hindex, rfl⟩ := List.getElem?_eq_some_iff.mp htext
  rw [← List.take_append_drop index texts, List.drop_eq_getElem_cons hindex,
    List.filterMap_append, List.filterMap_cons_some hname] at hnodup
  have hdisjoint := (List.nodup_append.mp hnodup).2.2
  exact hdisjoint name (List.mem_filterMap.mpr ⟨earlier, hearlier, hsame⟩) name
    List.mem_cons_self rfl

variable (hforms : ∀ form ∈ forms, ∀ operandType ∈ form.operandTypes, operandType ∈ standardTypes)
include hforms

theorem Statement.WellFormed.resolve {statement : Statement} (h : statement.WellFormed forms)
    (lineNumber : Nat) (text : String) :
    ∃ form, statement.form? forms = some form ∧
      Program.resolve forms standard lineNumber text statement.mnemonic statement.operands =
        .ok (.ok (statement.instruction form lineNumber text)) := by
  obtain ⟨-, hplain, candidate, hcandidate, hname, haccepts⟩ := h
  have hsome : (statement.form? forms).isSome = true :=
    List.find?_isSome.mpr ⟨candidate, hcandidate, by simp [hname, haccepts]⟩
  obtain ⟨form, hform⟩ := Option.isSome_iff_exists.mp hsome
  obtain ⟨hchosen, earlier, later, rfl, hearlier⟩ := List.find?_eq_some_iff_append.mp hform
  obtain ⟨hmnemonic, haccepted⟩ := Bool.and_eq_true_iff.mp hchosen
  have hmnemonic : form.mnemonic = statement.mnemonic := beq_iff_eq.mp hmnemonic
  obtain ⟨-, hread⟩ := read_of_accepts (hforms form (by simp)) haccepted
  have hoperands : statement.operands.map standardOperand = statement.operands.map some := by
    refine List.map_congr_left fun operand hoperand => ?_
    rw [standardOperand, chomp_of_notMem (hplain operand hoperand).notMem_lineFeed,
      String.ofList_toList]
  -- The forms above the one found refuse the operands.
  refine ⟨form, hform, FormSearch.answer_of_first (fun other hother hsame => ?_) hmnemonic ?_⟩
  · have hrefused := hearlier other hother
    refine read_of_not_accepts (hforms other (by simp [hother])) ?_ _ _
    simpa [hsame] using hrefused
  · rw [hread, hoperands, hmnemonic]
    rfl

/-- Lines with different labels that can be read are all good. -/
theorem not_bad (hlines : ∀ line ∈ lines, line.WellFormed forms)
    (hnames : (lines.filterMap Line.label).Nodup) {texts : List String}
    (hlabels : texts.map standard.labelOf = lines.map Line.label)
    (hwords : texts.map standard.statementOf = lines.map Line.words) (index : Nat) :
    ¬ Program.Bad forms standard texts index := by
  have hnodup : (texts.filterMap standard.labelOf).Nodup := by
    have hsame := congrArg (List.filterMap id) hlabels
    rw [List.filterMap_map, List.filterMap_map] at hsame
    exact hsame ▸ hnames
  rintro ⟨text, htext, hrepeats | ⟨-, mnemonic, operands, hstatement, hresolve⟩⟩
  · exact not_repeats hnodup htext hrepeats
  · obtain ⟨line, hline, heq⟩ := exists_getElem?_of_map_eq hwords htext
    have hsome := Line.statement_of_words (heq.symm.trans hstatement)
    have hmem := List.mem_of_getElem? hline
    obtain ⟨form, -, hok⟩ :=
      ((hlines line hmem).statement _ hsome).resolve hforms (index + 1) text
    rcases hresolve with ⟨problems, hresolve⟩ | ⟨fault, hresolve⟩
    · rw [hok] at hresolve
      cases hresolve
    · rw [hok] at hresolve
      cases hresolve

theorem fills_of_slotOf {line : Line} (hline : line.WellFormed forms) {lineNumber : Nat}
    {text : String} (hwords : standard.statementOf text = line.words)
    {slot : Option (Instruction α)} (h : Program.SlotOf forms standard lineNumber text slot) :
    line.Fills forms lineNumber text slot := by
  cases h with
  | empty hnone =>
    refine .empty ?_
    rw [hwords] at hnone
    unfold Line.words at hnone
    split at hnone
    · assumption
    · cases hnone
  | filled hstatement hresolve _ _ =>
    have hsome := Line.statement_of_words (hwords.symm.trans hstatement)
    obtain ⟨form, hform, hok⟩ := (hline.statement _ hsome).resolve hforms lineNumber text
    rw [hok] at hresolve
    cases hresolve
    exact .filled hsome hform

end Texts

/-! ## Programs -/

/-- A written text is read, under the standard settings, as the program of its lines: each line has
a slot with its instruction as it was written, and each label stands at its line. -/
theorem read_rendering [Text.CharacterNames] {forms : List (InstructionForm α)} {lines : List Line}
    {text : List Char}
    (hforms : ∀ form ∈ forms, ∀ operandType ∈ form.operandTypes, operandType ∈ standardTypes)
    (hlines : ∀ line ∈ lines, line.WellFormed forms)
    (hnames : (lines.filterMap Line.label).Nodup) (h : Renders lines text) :
    ∃ settings texts report later, Overrides.none.resolve = .ok settings ∧
      LineSource.HandsOut (.text (.ofText settings text)) texts ∧
      Program.read forms settings (.text (.ofText settings text)) = .ok (report, later) ∧
      report.ending = .complete ∧ report.program.lineCount = lines.length ∧
      report.program.slots.length = lines.length ∧
      (∀ (index : Nat) (line : Line), lines[index]? = some line →
        ∃ text slot, texts[index]? = some text ∧ report.program.slots[index]? = some slot ∧
          line.Fills forms (index + 1) text slot) ∧
      ∀ name location, report.program.label? name = some location ↔
        ∃ (index : Nat) (line : Line), lines[index]? = some line ∧ line.label = some name ∧
          location = index + 1 := by
  obtain ⟨cuts, hcuts, hlabels, hwords⟩ :=
    h.cutting fun line hline => (hlines line hline).readable hforms
  let source := TextSource.ofText standard text
  let texts := cuts.map (Cut.line standard.comment)
  have hdrain : source.drain.1 = texts := congrArg Prod.fst (drain_of_cutting source hcuts)
  have hlength : texts.length = lines.length := by simpa [texts] using congrArg List.length hlabels
  obtain ⟨hending, hcount, hslots, htable⟩ :=
    Program.readLines_complete (not_bad hforms hlines hnames hlabels hwords)
  have hread := Program.read_text forms standard source
  rw [hdrain] at hread
  refine ⟨standard, texts, _, _, resolve_none, LineSource.handsOut_of_cutting source hcuts, hread,
    hending, hcount.trans hlength, hslots.length_eq.trans hlength, fun index line hline => ?_,
    fun name location => ?_⟩
  · obtain ⟨text, htext, heq⟩ := exists_getElem?_of_map_eq hwords.symm hline
    obtain ⟨hindex, -⟩ := List.getElem?_eq_some_iff.mp hline
    have hslot := List.getElem?_eq_getElem (hslots.length_eq.trans hlength ▸ hindex)
    exact ⟨text, _, htext, hslot, fills_of_slotOf hforms (hlines line (List.mem_of_getElem? hline))
      heq.symm (hslots.slot htext hslot)⟩
  · rw [Program.label?, htable.location_iff]
    constructor
    · rintro ⟨index, text, htext, hname, hlocation⟩
      obtain ⟨line, hline, heq⟩ := exists_getElem?_of_map_eq hlabels htext
      exact ⟨index, line, hline, heq.symm.trans hname, hlocation⟩
    · rintro ⟨index, line, hline, hname, hlocation⟩
      obtain ⟨text, htext, heq⟩ := exists_getElem?_of_map_eq hlabels.symm hline
      exact ⟨index, text, htext, heq.symm.trans hname, hlocation⟩

/-- Three lines: one with all there may be, one with nothing, and one with a mnemonic alone. -/
def sampleLines : List Line :=
  [{ label := some "a", statement := some ⟨"add", ["r", "-1"]⟩ }, {},
    { statement := some ⟨"b", []⟩ }]

def sampleForms : List (InstructionForm Unit) :=
  [⟨"add", ["reg", "imm"], some ()⟩, ⟨"b", [], none⟩]

/-- A way to write the lines, with the three kinds of line ends but one. -/
def sampleText : List Char :=
  ['\t', 'a', ':', 'a', 'd', 'd', ' ', 'r', ',', ',', '-', '1', ' ', ';', 'x', '\r', ' ', '\r', '\n',
    'b', ',']

theorem sampleLines_wellFormed : ∀ line ∈ sampleLines, line.WellFormed sampleForms := by
  have hadd : Statement.WellFormed sampleForms ⟨"add", ["r", "-1"]⟩ :=
    ⟨by decide +kernel, by decide +kernel, _, List.mem_cons_self, rfl, by decide +kernel⟩
  have hb : Statement.WellFormed sampleForms ⟨"b", []⟩ :=
    ⟨by decide +kernel, nofun, _, List.mem_cons_of_mem _ List.mem_cons_self, rfl, by decide +kernel⟩
  refine List.forall_mem_cons.mpr ⟨⟨?_, ?_, nofun⟩, List.forall_mem_cons.mpr ⟨⟨nofun, nofun, nofun⟩,
    List.forall_mem_cons.mpr ⟨⟨nofun, ?_, ?_⟩, nofun⟩⟩⟩
  · rintro name ⟨⟩
    decide +kernel
  · rintro statement ⟨⟩
    exact hadd
  · rintro statement ⟨⟩
    exact hb
  · rintro - statement ⟨⟩ ⟨name, rest, -, htext⟩
    have hcolon : ':' ∈ "b".toList := by
      rw [htext]
      simp
    revert hcolon
    decide

theorem sampleText_renders : Renders sampleLines sampleText := by
  have hwords : WritesWords ["add", "r", "-1"]
      ("add".toList ++ ([' '] ++ ("r".toList ++ ([',', ','] ++ ("-1".toList ++ ([' '] ++ [])))))) :=
    .word (by decide) (by simp) (.word (by decide) (by simp) (.word (by decide) (by simp)
      (.gap (by decide))))
  have hlabel : WritesLabel (some "a") ("a".toList ++ ':' :: []) := .name (by decide)
  have hfirst : Writes { label := some "a", statement := some ⟨"add", ["r", "-1"]⟩ }
      ['\t', 'a', ':', 'a', 'd', 'd', ' ', 'r', ',', ',', '-', '1', ' ', ';', 'x'] :=
    @Writes.line _ ['\t'] ['a', ':'] ['a', 'd', 'd', ' ', 'r', ',', ',', '-', '1', ' '] [';', 'x']
      (by decide) hlabel hwords
      (.comment (by decide) (by decide))
  have hempty : Writes {} [' '] :=
    @Writes.line _ [' '] [] [] [] (by decide) .none (.gap (by decide)) .none
  have hword : WritesWords ["b"] ("b".toList ++ ([','] ++ [])) :=
    .word (by decide) nofun (.gap (by decide))
  have hb : Writes { statement := some ⟨"b", []⟩ } ['b', ','] :=
    @Writes.line _ [] [] ['b', ','] [] (by decide) .none hword .none
  exact .line hfirst (.carriageReturn (by decide)) (.line hempty (.both _) (.last hb (by decide)))

section
open scoped Text.Nameless

theorem sampleText_read :
    (∀ form ∈ sampleForms, ∀ operandType ∈ form.operandTypes, operandType ∈ standardTypes) ∧
      (∀ line ∈ sampleLines, line.WellFormed sampleForms) ∧
      (sampleLines.filterMap Line.label).Nodup ∧ Renders sampleLines sampleText ∧
      ∃ settings report later, Overrides.none.resolve = .ok settings ∧
        Program.read sampleForms settings (.text (.ofText settings sampleText)) =
          .ok (report, later) ∧
        report.ending = .complete ∧ report.program.lineCount = 3 ∧
        report.program.label? "a" = some 1 := by
  have hforms : ∀ form ∈ sampleForms, ∀ operandType ∈ form.operandTypes,
      operandType ∈ standardTypes := by decide
  have hnames : (sampleLines.filterMap Line.label).Nodup := by decide
  obtain ⟨settings, texts, report, later, hresolve, -, hread, hending, hcount, -, -, hlabels⟩ :=
    read_rendering hforms sampleLines_wellFormed hnames sampleText_renders
  have hlabel := (hlabels "a" 1).mpr ⟨0, _, rfl, rfl, rfl⟩
  exact ⟨hforms, sampleLines_wellFormed, hnames, sampleText_renders, settings, report, later,
    hresolve, hread, hending, hcount, hlabel⟩

end

end AsmKit.Rendering
