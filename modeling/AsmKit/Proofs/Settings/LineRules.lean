import AsmKit.Proofs.Program.Lines
import AsmKit.Proofs.Settings.OperandRules
import AsmKit.Proofs.Text.Trim

/-! # What the standard rules make of a line

The comment rule cuts a line at the first semicolon or hash, the label rule cuts
off a name with a colon behind it, and the separator rule cuts the rest into its
words. -/
namespace AsmKit.Settings
open AsmKit.Pattern
open AsmKit.Text

section Rules
variable {next : Next} {before after cs rest : List Char} {taken : List (Nat × List Char)}

theorem holds_blank (c : Char) : (Single.oneOf .exact false [blank]).holds c = isBlank c := by
  simp [Single.holds, SetItem.holds, blank, CharKind.holds]

theorem holds_notLineFeed (c : Char) : Single.notLineFeed.holds c = (c != '\n') := rfl

theorem run_rest_of_line (h : '\n' ∉ after) :
    (many 0 (.single .notLineFeed)).run ((Node.anchor .lastLineEnd).run next)
        (.amid before after taken) = next (.amid (after.reverse ++ before) [] taken) := by
  have hall : after.all (· != '\n') = true := by
    rw [List.all_eq_true]
    rintro c hc
    exact bne_iff_ne.mpr fun heq => h (heq ▸ hc)
  rw [many, run_many_lastLineEnd holds_notLineFeed rfl, behindLine, chomp_of_notMem h, if_pos hall,
    List.drop_length]

/-! ## Comments -/

theorem holds_commentMark (c : Char) :
    (Single.oneOf .exact false [.point 59, .point 35]).holds c = isCommentMark c := by
  simp [Single.holds, SetItem.holds, Folding.alikes, isCommentMark, beq_eq_decide_toNat, eq_comm]

/-- Behind its blanks a comment starts with one of two marks. -/
theorem run_comment (next : Next) (before : List Char) (taken : List (Nat × List Char))
    (hcs : ∀ c ∈ cs, isBlank c = true)
    (hrest : ∀ c, rest.head? = some c → isBlank c = false) :
    commentPattern.body.run next (.amid before (cs ++ rest) taken) =
      (Node.single (.oneOf .exact false [.point 59, .point 35])).run
        ((many 0 (.single .notLineFeed)).run ((Node.anchor .lastLineEnd).run next))
        (.amid (cs.reverse ++ before) rest taken) := by
  refine run_many _ _ _ (fun c hc => (holds_blank c).trans (hcs c hc))
    (fun c hc => (holds_blank c).trans (hrest c hc)) (.inr fun front c back heq => ?_)
  have hc : isCommentMark c = false := isCommentMark_of_isBlank (hcs c (by simp [heq]))
  exact Ends.run_single (ends_cons ((holds_commentMark c).trans hc))

theorem matchAt_comment (hcs : ∀ c ∈ cs, isBlank c = true) {mark : Char}
    (hmark : isCommentMark mark = true) (hfeed : '\n' ∉ rest) :
    matchAt commentPattern.body false (.amid before (cs ++ mark :: rest)) =
      some ⟨[], cs ++ mark :: rest, .amid ((cs ++ mark :: rest).reverse ++ before) []⟩ := by
  have hhead : ∀ c, (mark :: rest).head? = some c → isBlank c = false := by
    rintro c ⟨⟩
    cases hblank : isBlank mark with
    | false => rfl
    | true => rw [isCommentMark_of_isBlank hblank] at hmark; cases hmark
  have hrun := run_comment some before [] hcs hhead
  rw [run_single_cons, holds_commentMark, if_pos hmark, run_rest_of_line hfeed] at hrun
  have htext : (Place.amid before (cs ++ mark :: rest ++ [])).textTo
      (.amid (rest.reverse ++ mark :: (cs.reverse ++ before)) []) = cs ++ mark :: rest :=
    Place.textTo_amid
  rw [List.append_nil] at htext
  rw [matchAt_false, hrun, Option.map_some, htext]
  simp

theorem matchAt_comment_eq_none (hcs : ∀ c ∈ cs, isBlank c = true)
    (hrest : ∀ c, rest.head? = some c → isBlank c = false ∧ isCommentMark c = false) :
    matchAt commentPattern.body false (.amid before (cs ++ rest)) = none := by
  have hrun := run_comment some before [] hcs
    fun c hc => (hrest c hc).1
  have hno : Ends (.oneOf .exact false [.point 59, .point 35]) rest :=
    fun c hc => (holds_commentMark c).trans (hrest c hc).2
  rw [matchAt_false, hrun, hno.run_single]
  rfl

/-- Behind the blanks in front of a text either a comment starts, or something else. -/
theorem exists_blanks_append (after : List Char) :
    ∃ blanks rest, after = blanks ++ rest ∧ (∀ c ∈ blanks, isBlank c = true) ∧
      ((∃ mark more, rest = mark :: more ∧ isCommentMark mark = true) ∨
        ∀ c, rest.head? = some c → isBlank c = false ∧ isCommentMark c = false) := by
  refine ⟨after.takeWhile isBlank, after.dropWhile isBlank,
    List.takeWhile_append_dropWhile.symm, List.all_eq_true.mp List.all_takeWhile, ?_⟩
  have hhead := List.head?_dropWhile_not isBlank after
  generalize after.dropWhile isBlank = rest at hhead ⊢
  cases rest with
  | nil => exact .inr nofun
  | cons c more =>
    cases hmark : isCommentMark c with
    | true => exact .inl ⟨c, more, rfl, hmark⟩
    | false => exact .inr (by rintro d ⟨⟩; exact ⟨hhead, hmark⟩)

/-- The first comment of a text goes to its end, and there is no mark in front of it. -/
theorem firstMatch_comment (hfeed : '\n' ∉ after) (before : List Char) :
    (firstMatch commentPattern.body false before after after.length = none ∧
      ∀ c ∈ after, isCommentMark c = false) ∨
    ∃ skipped blanks mark rest, after = skipped ++ (blanks ++ mark :: rest) ∧
      (∀ c ∈ skipped, isCommentMark c = false) ∧ (∀ c ∈ blanks, isBlank c = true) ∧
      isCommentMark mark = true ∧
      firstMatch commentPattern.body false before after after.length =
        some ⟨skipped, blanks ++ mark :: rest, .amid (after.reverse ++ before) []⟩ := by
  -- On the text: its blanks lead to a mark, or the search moves on past a character.
  induction after generalizing before with
  | nil => exact .inl ⟨rfl, nofun⟩
  | cons c rest ih =>
    obtain ⟨blanks, more, heq, hblanks, ⟨mark, last, rfl, hmark⟩ | hother⟩ :=
      exists_blanks_append (c :: rest)
    · have hlast : '\n' ∉ last := fun h => hfeed (by simp [heq, h])
      refine .inr ⟨[], blanks, mark, last, heq, nofun, hblanks, hmark, ?_⟩
      rw [firstMatch_cons, heq, matchAt_comment hblanks hmark hlast]
      rfl
    · have hcmark : isCommentMark c = false := by
        cases blanks with
        | nil => exact (hother c (by rw [← List.nil_append more, ← heq]; rfl)).2
        | cons d front =>
          obtain ⟨rfl, -⟩ := List.cons.inj heq
          exact isCommentMark_of_isBlank (hblanks c List.mem_cons_self)
      have hhere : matchAt commentPattern.body false (.amid before (c :: rest)) = none := by
        rw [heq]
        exact matchAt_comment_eq_none hblanks hother
      rw [firstMatch_cons, hhere]
      rcases ih (fun h => hfeed (List.mem_cons_of_mem c h)) (c :: before) with
        ⟨hnone, hmarks⟩ | ⟨skipped, inner, mark, last, hsplit, hskipped, hinner, hmark, hsome⟩
      · exact .inl ⟨by rw [hnone]; rfl, List.forall_mem_cons.mpr ⟨hcmark, hmarks⟩⟩
      · refine .inr ⟨c :: skipped, inner, mark, last, by rw [hsplit]; rfl,
          List.forall_mem_cons.mpr ⟨hcmark, hskipped⟩, hinner, hmark, ?_⟩
        rw [hsome]
        simp

/-- Without its comment a text is what stands in front of the first mark, up to blanks. -/
theorem exists_removeAll_comment (h : '\n' ∉ cs) :
    ∃ blanks, (∀ c ∈ blanks, isBlank c = true) ∧
      commentPattern.removeAll cs ++ blanks = cs.takeWhile (!isCommentMark ·) := by
  have hfuel : matchesIn commentPattern.body cs =
      matchesFrom commentPattern.body (2 * cs.length + 2 + 1) false (.amid [] cs) := rfl
  unfold removeAll
  rw [hfuel]
  rcases firstMatch_comment h [] with ⟨hnone, hmarks⟩ | ⟨skipped, blanks, mark, rest, heq, hskipped,
    hblanks, hmark, hsome⟩
  · have hall : ∀ c ∈ cs, (!isCommentMark c) = true := fun c hc => by rw [hmarks c hc]; rfl
    refine ⟨[], nofun, ?_⟩
    rw [matchesFrom_of_none hnone]
    rw [← List.append_nil cs, List.takeWhile_append_of_pos hall]
    simp
  · refine ⟨blanks, hblanks, ?_⟩
    have hend : ∀ before, firstMatch commentPattern.body false before [] 0 = none :=
      fun before => (matchAt_comment_eq_none nofun nofun :
        matchAt commentPattern.body false (.amid before ([] ++ [])) = none)
    have htext : (blanks ++ mark :: rest).isEmpty = false := by simp
    have hfront : ∀ c ∈ skipped ++ blanks, (!isCommentMark c) = true := by
      intro c hc
      rcases List.mem_append.mp hc with hc | hc
      · rw [hskipped c hc]
        rfl
      · rw [isCommentMark_of_isBlank (hblanks c hc)]
        rfl
    rw [matchesFrom_of_some hsome, htext, matchesFrom_of_none (hend _), heq, ← List.append_assoc,
      List.takeWhile_append_of_pos hfront]
    simp [hmark]

/-- A line is cleaned by cutting it at the first mark and trimming the rest. -/
theorem clean_comment (h : '\n' ∉ cs) :
    TextSource.clean commentPattern cs = trim (cs.takeWhile (!isCommentMark ·)) := by
  obtain ⟨blanks, hblanks, heq⟩ := exists_removeAll_comment h
  rw [TextSource.clean, ← heq, trim_append_blanks hblanks]

/-- A cleaned line is made of characters in front of the first mark. -/
theorem isCommentMark_of_mem_clean (h : '\n' ∉ cs) :
    ∀ c ∈ TextSource.clean commentPattern cs, isCommentMark c = false := by
  intro c hc
  rw [clean_comment h] at hc
  simpa using List.all_eq_true.mp List.all_takeWhile c ((trim_sublist _).subset hc)

/-! ## Labels -/

/-- What the label rule looks for behind a name. -/
def behindName : Node :=
  .ofSequence [oneOf [.point 58], many 0 (oneOf [blank]),
    .group (some 2) (many 0 (.single .notLineFeed)), .anchor .lastLineEnd]

/-- The second group takes the rest of the line. -/
theorem run_restGroup (before : List Char) (taken : List (Nat × List Char)) (h : '\n' ∉ rest) :
    (Node.group (some 2) (many 0 (.single .notLineFeed))).run
        ((Node.anchor .lastLineEnd).run some) (.amid before rest taken) =
      some (.amid (rest.reverse ++ before) [] ((2, rest) :: taken)) := by
  have hclose : (Place.amid (rest.reverse ++ before) [] taken).close 2
      (.amid before (rest ++ []) taken) =
      .amid (rest.reverse ++ before) [] ((2, rest) :: taken) := Place.close_amid 2
  rw [List.append_nil] at hclose
  have hend : (Node.anchor .lastLineEnd).run some
      ((Place.amid (rest.reverse ++ before) [] taken).close 2 (.amid before rest taken)) =
      some (.amid (rest.reverse ++ before) [] ((2, rest) :: taken)) := by
    rw [hclose]
    rfl
  have hpass : ∀ c ∈ rest, Single.notLineFeed.holds c = true :=
    fun c hc => bne_iff_ne.mpr fun heq => h (heq ▸ hc)
  have hrun := run_many
    (fun stop => (Node.anchor .lastLineEnd).run some (stop.close 2 (.amid before rest taken)))
    before taken hpass (ends_nil _) (.inl (Option.isSome_iff_exists.mpr ⟨_, hend⟩))
  rw [List.append_nil] at hrun
  exact hrun.trans hend

theorem run_behindName (h : '\n' ∉ rest) :
    behindName.run some (.amid before (':' :: rest) taken) =
      some (.amid (rest.reverse ++ ':' :: before) [] ((2, rest.dropWhile isBlank) :: taken)) := by
  have hparts : rest.takeWhile isBlank ++ rest.dropWhile isBlank = rest :=
    List.takeWhile_append_dropWhile
  have hfeed : '\n' ∉ rest.dropWhile isBlank := fun hmem => h (List.dropWhile_subset _ hmem)
  have hgroup := run_restGroup ((rest.takeWhile isBlank).reverse ++ ':' :: before) taken hfeed
  have hrun := run_many
    ((Node.group (some 2) (many 0 (.single .notLineFeed))).run
      ((Node.anchor .lastLineEnd).run some))
    (':' :: before) taken (takeWhile_passes holds_blank rest) (ends_dropWhile holds_blank rest)
    (.inl (Option.isSome_iff_exists.mpr ⟨_, hgroup⟩))
  have hreverse : rest.reverse =
      (rest.dropWhile isBlank).reverse ++ (rest.takeWhile isBlank).reverse := by
    rw [← List.reverse_append, hparts]
  rw [hparts, hgroup] at hrun
  rw [hreverse, List.append_assoc]
  exact hrun

theorem run_behindName_eq_none (h : rest.head? ≠ some ':') :
    behindName.run next (.amid before rest taken) = none := by
  have hno : Ends (.oneOf .exact false [.point 58]) rest := by
    intro c hc
    have hne : c ≠ ':' := fun heq => h (heq ▸ hc)
    exact (holds_point c 58).trans
      ((beq_eq_decide_toNat c ':').symm.trans (beq_eq_false_iff_ne.mpr hne))
  exact hno.run_single

theorem run_label {c : Char} {name : List Char} (hc : isNameStart c = true)
    (hname : ∀ d ∈ name, isNamePart d = true)
    (hrest : ∀ d, rest.head? = some d → isNamePart d = false) :
    labelPattern.body.run some (.amid [] (c :: name ++ rest)) =
      behindName.run some (.amid (name.reverse ++ [c]) rest [(1, c :: name)]) := by
  have hstart : labelPattern.body.run some (.amid [] (c :: name ++ rest)) =
      (Node.single (.oneOf .exact false [.range 65 90, .range 97 122, .point 95])).run
        ((many 0 (oneOf [wordChar, .point 46])).run fun stop =>
          behindName.run some (stop.close 1 (.amid [] (c :: name ++ rest))))
        (.amid [] (c :: name ++ rest)) := rfl
  rw [hstart, List.cons_append, run_single_cons, holds_nameStart, if_pos hc]
  have hclose : (Place.amid (name.reverse ++ [c]) rest).close 1 (.amid [] (c :: name ++ rest)) =
      .amid (name.reverse ++ [c]) rest [(1, c :: name)] := Place.close_amid 1
  rw [← hclose]
  refine run_many _ _ _ (fun d hd => (holds_namePart d).trans (hname d hd))
    (fun d hd => (holds_namePart d).trans (hrest d hd)) (.inr fun front d back heq => ?_)
  have hd : isNamePart d = true := hname d (by simp [heq])
  have hcolon : isNamePart ':' = false := by decide +kernel
  refine run_behindName_eq_none fun hhead => ?_
  obtain rfl : d = ':' := Option.some.inj hhead
  rw [hcolon] at hd
  cases hd

theorem findAtStart?_label {text : List Char} {stop : Option Place}
    (h : labelPattern.body.run some (.amid [] text) = stop) :
    labelPattern.findAtStart? text =
      stop.map fun stop => ⟨[], (Place.amid [] text).textTo stop, stop⟩ := by
  rw [findAtStart?]
  change matchAt labelPattern.body false (.amid [] text) = _
  rw [matchAt_false, h]

/-- The text starts with a name and a colon. -/
def StartsWithLabel (cs : List Char) : Prop :=
  ∃ name rest, isName isNamePart name = true ∧ cs = name ++ ':' :: rest

/-- A name with a colon behind it is cut off as the label. -/
theorem cutLabel_of_name {name : List Char} (hname : isName isNamePart name = true)
    (hfeed : '\n' ∉ rest) :
    standard.cutLabel (String.ofList (name ++ ':' :: rest)) =
      (some (String.ofList name), String.ofList (trim rest)) := by
  cases name with
  | nil => cases hname
  | cons c name =>
    obtain ⟨hc, hparts⟩ := Bool.and_eq_true_iff.mp hname
    have hcolon : ∀ d, (':' :: rest).head? = some d → isNamePart d = false := by
      rintro d ⟨⟩
      decide +kernel
    have hrun := run_label hc (List.all_eq_true.mp hparts) hcolon
    rw [run_behindName hfeed] at hrun
    have htrim : trim (rest.dropWhile isBlank) = trim rest := by
      have hblanks : trim (rest.takeWhile isBlank ++ rest.dropWhile isBlank) =
          trim (rest.dropWhile isBlank) :=
        trim_blanks_append (List.all_eq_true.mp List.all_takeWhile)
      rwa [List.takeWhile_append_dropWhile, eq_comm] at hblanks
    have hlabel : standard.label = some labelPattern := rfl
    simp only [cutLabel, hlabel, String.toList_ofList, findAtStart?_label hrun, ← htrim]
    rfl

theorem cutLabel_of_not {cs : List Char} (h : ¬ StartsWithLabel cs) :
    standard.cutLabel (String.ofList cs) = (none, String.ofList cs) := by
  have hnone : labelPattern.body.run some (.amid [] cs) = none := by
    cases cs with
    | nil => rfl
    | cons c rest =>
      by_cases hc : isNameStart c = true
      · have hparts : rest.takeWhile isNamePart ++ rest.dropWhile isNamePart = rest :=
          List.takeWhile_append_dropWhile
        have hrun := run_label hc (List.all_eq_true.mp (List.all_takeWhile (l := rest)))
          fun d hd => (holds_namePart d).symm.trans (ends_dropWhile holds_namePart rest d hd)
        rw [List.cons_append, hparts] at hrun
        rw [hrun]
        refine run_behindName_eq_none fun hcolon => h ?_
        obtain ⟨more, hmore⟩ := List.head?_eq_some_iff.mp hcolon
        refine ⟨c :: rest.takeWhile isNamePart, more, ?_, ?_⟩
        · exact Bool.and_eq_true_iff.mpr ⟨hc, List.all_takeWhile⟩
        · rw [List.cons_append, ← hmore, hparts]
      · exact Ends.run_single (ends_cons ((holds_nameStart c).trans (Bool.eq_false_iff.mpr hc)))
  have hlabel : standard.label = some labelPattern := rfl
  simp only [cutLabel, hlabel, String.toList_ofList, findAtStart?_label hnone, Option.map_none]

theorem cutLabel_of_label {text : String} {name : List Char} (hname : isName isNamePart name = true)
    (hsplit : text.toList = name ++ ':' :: rest) (hfeed : '\n' ∉ text.toList) :
    standard.cutLabel text = (some (String.ofList name), String.ofList (trim rest)) := by
  have hrest : '\n' ∉ rest := fun hmem => hfeed (by rw [hsplit]; simp [hmem])
  rw [← String.ofList_toList (s := text), hsplit]
  exact cutLabel_of_name hname hrest

theorem cutLabel_of_unlabelled {text : String} (h : ¬ StartsWithLabel text.toList) :
    standard.cutLabel text = (none, text) := by
  rw [← String.ofList_toList (s := text)]
  exact cutLabel_of_not h

/-! ## Words -/

theorem holds_separator (c : Char) :
    (Single.oneOf .exact true [.point 44, blank]).holds c = !isSeparator c := by
  simp [Single.holds, SetItem.holds, Folding.alikes, isSeparator, blank, CharKind.holds,
    beq_eq_decide_toNat, eq_comm]

theorem matchAt_separator {c : Char} (hc : isSeparator c = true) :
    matchAt separatorPattern.body false (.amid before (c :: rest)) = none := by
  have hno : Ends (.oneOf .exact true [.point 44, blank]) (c :: rest) :=
    ends_cons ((holds_separator c).trans (by rw [hc]; rfl))
  have hrun : separatorPattern.body.run some (.amid before (c :: rest)) = none :=
    run_many_one_eq_none hno
  rw [matchAt_false, hrun]
  rfl

theorem firstMatch_gap {gap : List Char} (hgap : ∀ c ∈ gap, isSeparator c = true)
    (before after : List Char) :
    firstMatch separatorPattern.body false before (gap ++ after) (gap ++ after).length =
      (firstMatch separatorPattern.body false (gap.reverse ++ before) after after.length).map
        fun m => { m with skipped := gap ++ m.skipped } := by
  induction gap generalizing before with
  | nil => simp
  | cons c gap ih =>
    obtain ⟨hc, hgap⟩ := List.forall_mem_cons.mp hgap
    rw [List.cons_append, firstMatch_cons, matchAt_separator hc, ih hgap, Option.none_or,
      Option.map_map]
    simp
    rfl

theorem firstMatch_word {c : Char} {word : List Char} (hc : isSeparator c = false)
    (hword : ∀ c ∈ word, isSeparator c = false)
    (hrest : ∀ c, rest.head? = some c → isSeparator c = true) (before : List Char) :
    firstMatch separatorPattern.body false before (c :: word ++ rest) (c :: word ++ rest).length =
      some ⟨[], c :: word, .amid (word.reverse ++ c :: before) rest⟩ := by
  have hpass : ∀ {d}, isSeparator d = false →
      (Single.oneOf .exact true [.point 44, blank]).holds d = true :=
    fun hd => (holds_separator _).trans (by rw [hd]; rfl)
  have hrun : separatorPattern.body.run some (.amid before (c :: word ++ rest)) =
      some (.amid (word.reverse ++ c :: before) rest) :=
    run_many_one _ _ _ (hpass hc) (fun d hd => hpass (hword d hd))
      (fun d hd => (holds_separator d).trans (by rw [hrest d hd]; rfl)) (.inl rfl)
  rw [List.cons_append, firstMatch_cons, ← List.cons_append, matchAt_false, hrun, Option.map_some,
    Place.textTo_amid]
  rfl

/-- A text is a gap, or has a word behind a gap. -/
theorem exists_gap_append (cs : List Char) :
    ∃ gap more, cs = gap ++ more ∧ (∀ c ∈ gap, isSeparator c = true) ∧
      (more = [] ∨ ∃ c word rest, more = c :: word ++ rest ∧ isSeparator c = false ∧
        (∀ c ∈ word, isSeparator c = false) ∧
        ∀ c, rest.head? = some c → isSeparator c = true) := by
  refine ⟨cs.takeWhile isSeparator, cs.dropWhile isSeparator,
    List.takeWhile_append_dropWhile.symm, List.all_eq_true.mp List.all_takeWhile, ?_⟩
  have hhead := List.head?_dropWhile_not isSeparator cs
  generalize cs.dropWhile isSeparator = more at hhead ⊢
  cases more with
  | nil => exact .inl rfl
  | cons c more =>
    refine .inr ⟨c, more.takeWhile (!isSeparator ·), more.dropWhile (!isSeparator ·), ?_, hhead,
      isSeparator_of_mem_takeWhile, isSeparator_of_head_dropWhile⟩
    rw [List.cons_append, List.takeWhile_append_dropWhile]

theorem matchesFrom_separator {fuel : Nat} (hfuel : after.length < fuel) (before : List Char) :
    (matchesFrom separatorPattern.body fuel false (.amid before after)).1.map (·.text) =
      words after := by
  -- Each match takes a word, so what is left of the text fits the fuel that is left.
  induction fuel generalizing before after with
  | zero => exact absurd hfuel (Nat.not_lt_zero _)
  | succ fuel ih =>
    obtain ⟨gap, more, rfl, hgap, rfl | ⟨c, word, rest, rfl, hc, hword, hrest⟩⟩ :=
      exists_gap_append after
    · have hnone := firstMatch_gap hgap before []
      rw [matchesFrom_of_none (hnone.trans rfl), words_gap_append hgap]
      rfl
    · have hsome := firstMatch_gap hgap before (c :: word ++ rest)
      rw [firstMatch_word hc hword hrest] at hsome
      have hshort : rest.length < fuel := by
        simp only [List.length_append, List.length_cons] at hfuel
        omega
      rw [matchesFrom_of_some hsome, List.map_cons, words_gap_append hgap,
        words_word_append (List.cons_ne_nil c word) (List.forall_mem_cons.mpr ⟨hc, hword⟩) hrest]
      exact congrArg _ (ih hshort _)

theorem findAll_separator (cs : List Char) : separatorPattern.findAll cs = words cs := by
  refine matchesFrom_separator (?_ : cs.length < 2 * cs.length + 3) []
  omega

theorem tokens_standard (text : String) :
    standard.tokens text = (words text.toList).map String.ofList := by
  have hseparator : standard.separator = separatorPattern := rfl
  rw [tokens, hseparator, findAll_separator]

end Rules

/-! ## Lines -/

/-- The statement of a line is the words behind its label. -/
theorem statementOf_standard {line : String} {label : Option String} {rest : List Char}
    (h : standard.cutLabel line = (label, String.ofList rest)) :
    standard.statementOf line = (words rest).map String.ofList := by
  unfold statementOf
  rw [h]
  dsimp only
  split
  · rename_i hempty
    have hnil : rest = [] := by simpa using hempty
    rw [hnil]
    rfl
  · rw [tokens_standard, String.toList_ofList]

end AsmKit.Settings
