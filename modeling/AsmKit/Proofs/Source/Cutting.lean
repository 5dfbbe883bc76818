import AsmKit.Source.Text

/-! # How a text falls into lines

A cutting of a text names its lines with their line ends. It is said without
reference to the reading of a text, and each text has exactly one: `cutAll`
computes it. The main statements are that a source hands out its lines in the
order of the cutting of what it still has to read, and that draining it hands
out all of them. -/
namespace AsmKit
namespace TextSource

/-- A line of a text: the characters of the line and the line end behind them. -/
structure Cut where
  piece : List Char
  ending : List Char

/-- The characters of a line, its line end included. -/
def Cut.text (cut : Cut) : List Char := cut.piece ++ cut.ending

/-- The text that lines make up. -/
def joined (cuts : List Cut) : List Char := cuts.flatMap Cut.text

/-- The line as a source with this comment rule hands it out. -/
def Cut.line (comment : Pattern) (cut : Cut) : String := String.ofList (clean comment cut.piece)

/-- Characters without a line end among them. -/
def Plain (piece : List Char) : Prop := ∀ c ∈ piece, c ≠ '\r' ∧ c ≠ '\n'

instance (piece : List Char) : Decidable (Plain piece) :=
  List.decidableBAll _ piece

/-- A line end, and a text that may stand behind it: a line feed behind a
carriage return belongs to the same line end. -/
inductive EndsLine : List Char → List Char → Prop
  | both (rest : List Char) : EndsLine ['\r', '\n'] rest
  | carriageReturn {rest : List Char} : rest.head? ≠ some '\n' → EndsLine ['\r'] rest
  | lineFeed (rest : List Char) : EndsLine ['\n'] rest

/-- A text and its lines in order. Only the last line may lack a line end, and
then it is not empty. -/
inductive Cutting : List Char → List Cut → Prop
  | nothing : Cutting [] []
  | last {piece : List Char} : piece ≠ [] → Plain piece → Cutting piece [⟨piece, []⟩]
  | line {piece ending rest : List Char} {cuts : List Cut} : Plain piece →
      EndsLine ending rest → Cutting rest cuts →
      Cutting (piece ++ ending ++ rest) (⟨piece, ending⟩ :: cuts)

/-- The lines of a text. -/
def cutAll : List Char → List Cut
  | [] => []
  | '\r' :: '\n' :: rest => ⟨[], ['\r', '\n']⟩ :: cutAll rest
  | '\r' :: rest => ⟨[], ['\r']⟩ :: cutAll rest
  | '\n' :: rest => ⟨[], ['\n']⟩ :: cutAll rest
  | c :: rest =>
    match cutAll rest with
    | [] => [⟨[c], []⟩]
    | cut :: more => ⟨c :: cut.piece, cut.ending⟩ :: more

theorem Plain.notMem_lineFeed {piece : List Char} (h : Plain piece) : '\n' ∉ piece :=
  fun hmem => (h '\n' hmem).2 rfl

theorem Plain.cons {c : Char} {piece : List Char} (hr : c ≠ '\r') (hn : c ≠ '\n')
    (h : Plain piece) : Plain (c :: piece) := by
  intro d hd
  rcases List.mem_cons.mp hd with rfl | hd
  · exact ⟨hr, hn⟩
  · exact h d hd

theorem EndsLine.length_pos {ending rest : List Char} (h : EndsLine ending rest) :
    0 < ending.length := by
  cases h <;> simp

/-- A character in front of a text belongs to the first line of the text. -/
theorem Cutting.cons {c : Char} {rest : List Char} {cut : Cut} {more : List Cut}
    (hr : c ≠ '\r') (hn : c ≠ '\n') (h : Cutting rest (cut :: more)) :
    Cutting (c :: rest) (⟨c :: cut.piece, cut.ending⟩ :: more) := by
  cases h with
  | last _ hp => exact .last (by simp) (hp.cons hr hn)
  | @line piece ending rest _ hp he hc =>
    exact @Cutting.line (c :: piece) _ _ _ (hp.cons hr hn) he hc

theorem Cutting.eq_nil {text : List Char} (h : Cutting text []) : text = [] := by
  cases h; rfl

theorem cutting_cutAll (text : List Char) : Cutting text (cutAll text) := by
  fun_induction cutAll text with
  | case1 => exact .nothing
  | case2 rest ih => exact @Cutting.line [] _ _ _ (by simp [Plain]) (.both rest) ih
  | case3 rest hrest ih =>
    refine @Cutting.line [] _ _ _ (by simp [Plain]) (.carriageReturn ?_) ih
    intro hh
    obtain ⟨more, rfl⟩ := List.head?_eq_some_iff.mp hh
    exact hrest more rfl
  | case4 rest ih => exact @Cutting.line [] _ _ _ (by simp [Plain]) (.lineFeed rest) ih
  | case5 c rest _ hr hn hcut ih =>
    rw [hcut] at ih
    rw [ih.eq_nil]
    exact .last (by simp) (Plain.cons hr hn (by simp [Plain]))
  | case6 c rest _ hr hn cut more hcut ih =>
    rw [hcut] at ih
    exact ih.cons hr hn

example : (cutAll ['a', '\r', '\n', '\r', 'b', '\n', '\n']).map Cut.piece =
    [['a'], [], ['b'], []] := by decide

/-! ## What a cutting says -/

/-- The lines and their line ends make up the text. -/
theorem Cutting.join {text : List Char} {cuts : List Cut} (h : Cutting text cuts) :
    joined cuts = text := by
  induction h with
  | nothing => rfl
  | last _ _ => simp [joined, Cut.text]
  | line _ _ _ ih =>
    rw [joined] at ih ⊢
    rw [List.flatMap_cons, ih]
    rfl

theorem Cutting.plain {text : List Char} {cuts : List Cut} (h : Cutting text cuts) :
    ∀ cut ∈ cuts, Plain cut.piece := by
  induction h with
  | nothing => simp
  | last _ hp => simpa using hp
  | line hp _ _ ih => simpa using ⟨hp, ih⟩

theorem Cutting.length_text_pos {text : List Char} {cuts : List Cut} (h : Cutting text cuts) :
    ∀ cut ∈ cuts, 0 < cut.text.length := by
  induction h with
  | nothing => simp
  | last hne _ => simpa [Cut.text, List.length_pos_iff] using hne
  | line _ he _ ih =>
    have hpos := he.length_pos
    intro cut hcut
    rcases List.mem_cons.mp hcut with rfl | hcut
    · simp only [Cut.text, List.length_append]; omega
    · exact ih cut hcut

/-! ## Reading along a cutting -/

theorem cutLine_append {piece : List Char} (h : Plain piece) (tail : List Char) :
    cutLine (piece ++ tail) = (piece ++ (cutLine tail).1, (cutLine tail).2) := by
  induction piece with
  | nil => rfl
  | cons c rest ih =>
    obtain ⟨hr, hn⟩ := h c (by simp)
    have ih := ih fun d hd => h d (by simp [hd])
    rw [List.cons_append, cutLine, ih]
    · simp
    · exact fun _ he => absurd he hr
    · exact hr
    · exact hn

theorem cutLine_plain {piece : List Char} (h : Plain piece) : cutLine piece = (piece, []) := by
  simpa [cutLine] using cutLine_append h []

theorem cutLine_line {piece ending rest : List Char} (h : Plain piece)
    (he : EndsLine ending rest) : cutLine (piece ++ ending ++ rest) = (piece, rest) := by
  have hend : cutLine (ending ++ rest) = ([], rest) := by
    cases he with
    | both => simp [cutLine]
    | lineFeed => simp [cutLine]
    | carriageReturn hh =>
      cases rest with
      | nil => simp [cutLine]
      | cons d more =>
        rw [List.singleton_append, cutLine]
        intro _ hd
        exact hh (congrArg List.head? hd)
  rw [List.append_assoc, cutLine_append h, hend, List.append_nil]

/-- Cutting off the first line gives the piece of the first cut. -/
theorem Cutting.head {text : List Char} {cut : Cut} {more : List Cut}
    (h : Cutting text (cut :: more)) :
    ∃ rest, cutLine text = (cut.piece, rest) ∧ text = cut.text ++ rest ∧
      Cutting rest more := by
  cases h with
  | last _ hp => exact ⟨[], cutLine_plain hp, by simp [Cut.text], .nothing⟩
  | line hp he hc => exact ⟨_, cutLine_line hp he, rfl, hc⟩

theorem Cutting.ne_nil {text : List Char} {cut : Cut} {more : List Cut}
    (h : Cutting text (cut :: more)) : text ≠ [] := by
  obtain ⟨rest, -, htext, -⟩ := h.head
  have hpos := h.length_text_pos cut (by simp)
  rintro rfl
  have hlen := congrArg List.length htext
  rw [List.length_nil, List.length_append] at hlen
  omega

/-- A text has one cutting. -/
theorem Cutting.unique {text : List Char} {cuts others : List Cut} (h : Cutting text cuts)
    (h' : Cutting text others) : cuts = others := by
  induction cuts generalizing text others with
  | nil =>
    cases others with
    | nil => rfl
    | cons cut more => exact absurd h.eq_nil h'.ne_nil
  | cons cut more ih =>
    cases others with
    | nil => exact absurd h'.eq_nil h.ne_nil
    | cons cut' more' =>
      obtain ⟨rest, hcut, htext, hrest⟩ := h.head
      obtain ⟨rest', hcut', htext', hrest'⟩ := h'.head
      obtain ⟨hpiece, rfl⟩ := Prod.mk.inj (hcut.symm.trans hcut')
      have hending : cut.ending = cut'.ending := by
        rw [htext, Cut.text, Cut.text, hpiece] at htext'
        exact List.append_cancel_left (List.append_cancel_right htext')
      have hhead : cut = cut' := by
        obtain ⟨piece, ending⟩ := cut
        obtain ⟨piece', ending'⟩ := cut'
        simp_all
      rw [hhead, ih hrest hrest']

theorem Cutting.length_le {text : List Char} {cuts : List Cut} (h : Cutting text cuts) :
    cuts.length ≤ text.length := by
  induction h with
  | nothing => simp
  | last hne _ => simpa [List.length_pos_iff, Nat.succ_le_iff] using hne
  | line _ he _ ih =>
    have hpos := he.length_pos
    simp only [List.length_cons, List.length_append]
    omega

/-! ## One text behind another -/

/-- The place between two texts lies between two lines: the first text, if there is any, ends in
a line end, and the second does not go on with it. -/
structure Seam (front back : List Char) : Prop where
  ended : front = [] ∨ front.getLast? = some '\r' ∨ front.getLast? = some '\n'
  apart : front.getLast? = some '\r' → back.head? ≠ some '\n'

theorem Seam.not_plain {front back : List Char} (h : Seam front back) (hne : front ≠ []) :
    ¬ Plain front := by
  intro hplain
  rcases h.ended with hnil | hlast | hlast
  · exact hne hnil
  · exact (hplain _ (List.mem_of_getLast? hlast)).1 rfl
  · exact (hplain _ (List.mem_of_getLast? hlast)).2 rfl

theorem Seam.behind {front middle back : List Char} (h : Seam (front ++ middle) back) :
    Seam middle back := by
  by_cases hnil : middle = []
  · exact ⟨.inl hnil, by simp [hnil]⟩
  · have hlast : (front ++ middle).getLast? = middle.getLast? := by
      rw [List.getLast?_append, List.getLast?_eq_some_getLast hnil, Option.some_or]
    refine ⟨.inr ?_, hlast ▸ h.apart⟩
    rw [← hlast]
    exact h.ended.resolve_left (by simp [hnil])

/-- A line end stays one where the text behind it goes on past a seam. -/
theorem EndsLine.append {ending rest back : List Char} (h : EndsLine ending rest)
    (hseam : Seam (ending ++ rest) back) : EndsLine ending (rest ++ back) := by
  cases h with
  | both => exact .both _
  | lineFeed => exact .lineFeed _
  | carriageReturn hhead =>
    refine .carriageReturn ?_
    cases rest with
    | nil => exact hseam.apart rfl
    | cons c more => exact hhead

theorem Cutting.append {front back : List Char} {cuts more : List Cut} (h : Cutting front cuts)
    (h' : Cutting back more) (hseam : Seam front back) :
    Cutting (front ++ back) (cuts ++ more) := by
  induction h with
  | nothing => exact h'
  | last hne hp => exact absurd hp (hseam.not_plain hne)
  | line hp he _ ih =>
    have hrest := ih hseam.behind
    rw [List.append_assoc] at hseam
    have hline := Cutting.line hp (he.append hseam.behind) hrest
    rwa [← List.append_assoc] at hline

/-- Behind a seam the lines of the second text follow those of the first. -/
theorem cutAll_append {front back : List Char} (hseam : Seam front back) :
    cutAll (front ++ back) = cutAll front ++ cutAll back :=
  (cutting_cutAll _).unique ((cutting_cutAll front).append (cutting_cutAll back) hseam)

/-! ## What a source hands out -/

/-- The source behind some lines, with the rest of the text left to read. -/
def behind (source : TextSource) (cuts : List Cut) (rest : List Char) : TextSource :=
  { source with
    rest, cursor := source.cursor + (joined cuts).length,
    lineNumber := source.lineNumber + cuts.length }

theorem behind_append (source : TextSource) (cuts more : List Cut) (between rest : List Char) :
    (source.behind cuts between).behind more rest = source.behind (cuts ++ more) rest := by
  simp only [behind, joined, List.flatMap_append, List.length_append, Nat.add_assoc]

/-- The next line is the first cut of what is left to read. -/
theorem next?_of_cutting (source : TextSource) {cut : Cut} {more : List Cut}
    (h : Cutting source.rest (cut :: more)) :
    ∃ rest, Cutting rest more ∧
      source.next? = some (cut.line source.comment, source.behind [cut] rest) := by
  obtain ⟨rest, hcut, htext, hrest⟩ := h.head
  refine ⟨rest, hrest, ?_⟩
  have hlength : source.rest.length - rest.length = cut.text.length := by
    have hlen := congrArg List.length htext
    rw [List.length_append] at hlen
    omega
  unfold next?
  split
  · rename_i hnil; exact absurd hnil h.ne_nil
  · simp [hcut, hlength, Cut.line, behind, joined]

theorem next?_of_nil (source : TextSource) (h : Cutting source.rest []) :
    source.next? = none := by
  simp [next?, h.eq_nil]

/-- Taking lines takes the first cuts of what is left to read. -/
theorem takeLines_of_cutting (source : TextSource) {cuts : List Cut}
    (h : Cutting source.rest cuts) (n : Nat) :
    ∃ rest, Cutting rest (cuts.drop n) ∧ source.takeLines n =
      ((cuts.take n).map (Cut.line source.comment), source.behind (cuts.take n) rest) := by
  induction n generalizing source cuts with
  | zero => exact ⟨source.rest, h, by simp [takeLines, behind, joined]⟩
  | succ n ih =>
    cases cuts with
    | nil => exact ⟨source.rest, h, by simp [takeLines, next?_of_nil source h, behind, joined]⟩
    | cons cut more =>
      obtain ⟨between, hmore, hnext⟩ := next?_of_cutting source h
      obtain ⟨rest, hrest, htake⟩ := ih (source.behind [cut] between) hmore
      refine ⟨rest, hrest, ?_⟩
      simp only [takeLines, hnext, htake, List.take_succ_cons, List.map_cons, behind_append]
      rfl

/-- Draining a source hands out the lines of all that is left to read. -/
theorem drain_of_cutting (source : TextSource) {cuts : List Cut} (h : Cutting source.rest cuts) :
    source.drain = (cuts.map (Cut.line source.comment), source.behind cuts []) := by
  obtain ⟨rest, hrest, htake⟩ := takeLines_of_cutting source h source.rest.length
  rw [List.drop_of_length_le h.length_le] at hrest
  rw [drain, htake, List.take_of_length_le h.length_le, hrest.eq_nil]

end TextSource
end AsmKit
