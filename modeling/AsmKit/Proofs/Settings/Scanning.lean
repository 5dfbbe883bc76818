import AsmKit.Proofs.Program.Normalized
import AsmKit.Proofs.Settings.Resolving
import AsmKit.Proofs.Text.Runs

/-! # What the standard rules find

The standard rules look for matches in a text. Here their answers are said
without matches: by the first mark of a comment, by the first colon and by the
separators. Main statements: a line is cleaned by a plain scan, a label is cut
off exactly where the text starts with one, and the tokens are the maximal runs
of the text, so that words can be laid out and found again. -/
namespace AsmKit.Settings
open AsmKit.Text

/-! ## Comments -/

/-- A line comes to what stands in front of its first semicolon or hash, without the blanks at the
two ends. No mark is left in it, and nothing else to clean. -/
theorem clean_is_part_before_mark [Text.CharacterNames] {cs : List Char} (h : TextSource.Plain cs) :
    Overrides.none.resolve = .ok standard ∧
      (∀ line, TextSource.clean standard.comment cs = line ↔
        TrimsTo (cs.takeWhile fun c => c != ';' && c != '#') line) ∧
      ';' ∉ TextSource.clean standard.comment cs ∧ '#' ∉ TextSource.clean standard.comment cs ∧
      TextSource.clean standard.comment (TextSource.clean standard.comment cs) =
        TextSource.clean standard.comment cs := by
  have hmarks := isCommentMark_of_mem_clean h.notMem_lineFeed
  have hfront : (fun c : Char => c != ';' && c != '#') = (!isCommentMark ·) := by
    funext c
    exact (Bool.not_or _ _).symm
  refine ⟨resolve_none, fun line => ?_, fun hmem => ?_, fun hmem => ?_,
    TextSource.clean_clean h.notMem_lineFeed⟩
  · rw [hfront, ← trim_eq_iff, ← clean_comment h.notMem_lineFeed]
    rfl
  · cases hmarks ';' hmem
  · cases hmarks '#' hmem

section
open scoped Text.Nameless

/-- All kinds of blanks are dropped, and a second mark belongs to the comment of the first. -/
theorem clean_between_wide_blanks :
    TextSource.Plain "\u3000mov  r1,\u00a0# a ; b".toList ∧
      TextSource.clean standard.comment "\u3000mov  r1,\u00a0# a ; b".toList =
        "mov  r1,".toList := by
  have hplain : TextSource.Plain "\u3000mov  r1,\u00a0# a ; b".toList := by decide +kernel
  refine ⟨hplain, ((clean_is_part_before_mark hplain).2.1 _).mpr ⟨⟨?_, ?_⟩, ?_⟩⟩
  · rintro c ⟨⟩
    decide +kernel
  · rintro c ⟨⟩
    decide +kernel
  · exact ⟨['\u3000'], ['\u00a0'], rfl, List.all_eq_true.mp (by decide +kernel),
      List.all_eq_true.mp (by decide +kernel)⟩

end

/-! ## Labels -/

theorem colon_notMem_of_isName {name : List Char} (h : isName isNamePart name = true) :
    ':' ∉ name := by
  intro hmem
  cases name with
  | nil => cases hmem
  | cons c name =>
    obtain ⟨hstart, hparts⟩ := Bool.and_eq_true_iff.mp h
    rcases List.mem_cons.mp hmem with rfl | hmem
    · revert hstart
      decide
    · have hpart := List.all_eq_true.mp hparts ':' hmem
      revert hpart
      decide +kernel

/-- A label is cut off exactly where the text is a name, a colon and a rest. The name ends at the
first colon. A text that does not start like this is left as it is. -/
theorem label_is_name_before_first_colon [Text.CharacterNames] {text : String}
    (h : '\n' ∉ text.toList) :
    Overrides.none.resolve = .ok standard ∧
      (∀ name remainder, standard.cutLabel text = (some name, remainder) ↔
        ∃ rest, isName isNamePart name.toList = true ∧ text.toList = name.toList ++ ':' :: rest ∧
          TrimsTo rest remainder.toList) ∧
      (∀ name rest, isName isNamePart name = true → text.toList = name ++ ':' :: rest →
        name = text.toList.takeWhile (· != ':')) ∧
      ∀ remainder, standard.cutLabel text = (none, remainder) ↔
        ¬ StartsWithLabel text.toList ∧ remainder = text := by
  refine ⟨resolve_none, fun name remainder => ⟨fun hcut => ?_, ?_⟩,
    fun name rest hname hsplit => ?_, fun remainder => ⟨fun hcut => ?_, ?_⟩⟩
  · by_cases hstarts : StartsWithLabel text.toList
    · obtain ⟨start, rest, hname, hsplit⟩ := hstarts
      rw [cutLabel_of_label hname hsplit h] at hcut
      obtain ⟨hlabel, rfl⟩ := Prod.mk.inj hcut
      obtain rfl := Option.some.inj hlabel
      rw [String.toList_ofList, String.toList_ofList]
      exact ⟨rest, hname, hsplit, trim_eq_iff.mp rfl⟩
    · rw [cutLabel_of_unlabelled hstarts] at hcut
      cases hcut
  · rintro ⟨rest, hname, hsplit, htrims⟩
    rw [cutLabel_of_label hname hsplit h, trim_eq_iff.mpr htrims, String.ofList_toList,
      String.ofList_toList]
  · have hpass : ∀ c ∈ name, (c != ':') = true :=
      fun c hc => bne_iff_ne.mpr fun heq => colon_notMem_of_isName hname (heq ▸ hc)
    rw [hsplit, List.takeWhile_append_of_pos hpass, List.takeWhile_cons_of_neg (by simp),
      List.append_nil]
  · by_cases hstarts : StartsWithLabel text.toList
    · obtain ⟨start, rest, hname, hsplit⟩ := hstarts
      rw [cutLabel_of_label hname hsplit h] at hcut
      cases hcut
    · rw [cutLabel_of_unlabelled hstarts] at hcut
      exact ⟨hstarts, (Prod.mk.inj hcut).2.symm⟩
  · rintro ⟨hstarts, rfl⟩
    exact cutLabel_of_unlabelled hstarts

section
open scoped Text.Nameless

/-- Of two colons the first one counts, and the name in front of it has other characters than those
of ASCII. -/
theorem accented_label_before_first_colon :
    '\n' ∉ "_\u00e9.2:\u2003a: b ".toList ∧
      standard.cutLabel "_\u00e9.2:\u2003a: b " = (some "_\u00e9.2", "a: b") := by
  have hfeed : '\n' ∉ "_\u00e9.2:\u2003a: b ".toList := by decide +kernel
  refine ⟨hfeed, ((label_is_name_before_first_colon hfeed).2.1 _ _).mpr
    ⟨"\u2003a: b ".toList, by decide +kernel, by decide +kernel, ⟨?_, ?_⟩, ?_⟩⟩
  · rintro c ⟨⟩
    decide +kernel
  · rintro c ⟨⟩
    decide +kernel
  · exact ⟨['\u2003'], [' '], rfl, List.all_eq_true.mp (by decide +kernel),
      List.all_eq_true.mp (by decide +kernel)⟩

end

/-! ## Tokens -/

/-- The tokens of a text are its maximal runs in order, so they are all of the text but commas and
blanks. Words with separators between them are the tokens of their text. -/
theorem tokens_are_maximal_runs [Text.CharacterNames] :
    Overrides.none.resolve = .ok standard ∧
      (∀ text : String,
        (∃ runs, RunsOf text.toList runs ∧
          standard.tokens text = runs.map fun run => String.ofList run.2) ∧
        "" ∉ standard.tokens text ∧
        (standard.tokens text).flatMap String.toList =
          text.toList.filter fun c => !(c == ',' || isBlank c)) ∧
      ∀ lead pieces, (∀ c ∈ lead, isSeparator c = true) → Apart pieces →
        standard.tokens (String.ofList (lead ++ laidOut pieces)) =
          pieces.map fun piece => String.ofList piece.1 := by
  refine ⟨resolve_none, fun text => ⟨?_, fun hmem => ?_, ?_⟩, fun lead pieces hlead hpieces => ?_⟩
  · obtain ⟨runs, hruns, hwords⟩ := exists_runsOf text.toList
    refine ⟨runs, hruns, ?_⟩
    rw [tokens_standard, hwords, List.map_map]
    rfl
  · rw [tokens_standard] at hmem
    obtain ⟨word, hword, hempty⟩ := List.mem_map.mp hmem
    obtain rfl : word = [] := String.ofList_eq_empty_iff.mp hempty
    exact nil_notMem_words _ hword
  · have hletters : ∀ texts : List (List Char),
        (texts.map String.ofList).flatMap String.toList = texts.flatten := by
      intro texts
      simp [List.flatMap_map]
    rw [tokens_standard, hletters, flatten_words]
    rfl
  · rw [tokens_standard, String.toList_ofList, words_gap_append hlead, words_laidOut hpieces,
      List.map_map]
    rfl

section
open scoped Text.Nameless

/-- Marks, colons and accents stay in the words between the separators. -/
theorem tokens_between_mixed_separators :
    (∀ c ∈ ['\n', ',', ' '], isSeparator c = true) ∧
      Apart [("a;b".toList, ",\u00a0,".toList), ("\u00e9:".toList, [])] ∧
      standard.tokens "\n, a;b,\u00a0,\u00e9:" = ["a;b", "\u00e9:"] := by
  have hlead : ∀ c ∈ ['\n', ',', ' '], isSeparator c = true :=
    List.all_eq_true.mp (by decide +kernel)
  have hpieces : Apart [("a;b".toList, ",\u00a0,".toList), ("\u00e9:".toList, [])] := by
    decide +kernel
  have htext : "\n, a;b,\u00a0,\u00e9:" = String.ofList (['\n', ',', ' '] ++
      laidOut [("a;b".toList, ",\u00a0,".toList), ("\u00e9:".toList, [])]) := rfl
  refine ⟨hlead, hpieces, ?_⟩
  rw [htext, tokens_are_maximal_runs.2.2 _ _ hlead hpieces]
  rfl

end

end AsmKit.Settings
