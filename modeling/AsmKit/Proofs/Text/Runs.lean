import AsmKit.Proofs.Text.Classes

/-! # Maximal runs

The words of a text are found from left to right. Here they are said by their
places alone: a word is a run of characters that are no separators, and it cannot
be made longer on either side. Main statements: the words are the maximal runs of
the text, in their order, and words with separators between them are the words of
their text. -/
namespace AsmKit.Text

/-- A text without separators that is not empty. -/
structure IsWord (word : List Char) : Prop where
  ne_nil : word ≠ []
  clear : ∀ c ∈ word, isSeparator c = false

theorem isWord_iff {word : List Char} :
    IsWord word ↔ (!word.isEmpty && word.all (!isSeparator ·)) = true := by
  constructor
  · intro h
    simpa [h.ne_nil] using h.clear
  · intro h
    obtain ⟨hne, hclear⟩ := Bool.and_eq_true_iff.mp h
    exact ⟨by simpa using hne, by simpa using hclear⟩

instance (word : List Char) : Decidable (IsWord word) := decidable_of_iff _ isWord_iff.symm

/-- A word with what stands in front of it and behind it. There it meets a separator or an end of
the text. -/
structure MaximalRun (cs before run after : List Char) : Prop where
  text_eq : cs = before ++ (run ++ after)
  word : IsWord run
  begins : ∀ c, before.getLast? = some c → isSeparator c = true
  ends : ∀ c, after.head? = some c → isSeparator c = true

/-- All the maximal runs of a text with their positions, in order. -/
structure RunsOf (cs : List Char) (runs : List (Nat × List Char)) : Prop where
  ordered : runs.Pairwise (·.1 < ·.1)
  mem_iff : ∀ start run, (start, run) ∈ runs ↔
    ∃ before after, before.length = start ∧ MaximalRun cs before run after

/-- A text is empty, or it starts with a separator or with a word that a separator or nothing
follows. -/
theorem text_induction {motive : List Char → Prop} (nil : motive [])
    (separator : ∀ c rest, isSeparator c = true → motive rest → motive (c :: rest))
    (word : ∀ word rest, IsWord word → (∀ c, rest.head? = some c → isSeparator c = true) →
      motive rest → motive (word ++ rest))
    (cs : List Char) : motive cs := by
  induction hlength : cs.length using Nat.strongRecOn generalizing cs with
  | ind length ih =>
    cases cs with
    | nil => exact nil
    | cons c rest =>
      cases hc : isSeparator c with
      | true => exact separator c rest hc (ih rest.length (by simp [← hlength]) rest rfl)
      | false =>
        let more := rest.dropWhile (!isSeparator ·)
        have hsplit : c :: rest = (c :: rest.takeWhile (!isSeparator ·)) ++ more := by
          rw [List.cons_append, List.takeWhile_append_dropWhile]
        have hshort : more.length < length := by
          have hle := (List.dropWhile_sublist (!isSeparator ·) (l := rest)).length_le
          rw [← hlength, List.length_cons]
          exact Nat.lt_succ_of_le hle
        rw [hsplit]
        exact word _ more ⟨List.cons_ne_nil _ _,
          List.forall_mem_cons.mpr ⟨hc, isSeparator_of_mem_takeWhile⟩⟩
          isSeparator_of_head_dropWhile (ih more.length hshort more rfl)

section Runs
variable {c : Char} {cs before run after word rest : List Char}

/-- A text that starts with a word does not start with a separator. -/
theorem IsWord.exists_head (h : IsWord word) (more : List Char) :
    ∃ c, (word ++ more).head? = some c ∧ isSeparator c = false := by
  cases word with
  | nil => exact absurd rfl h.ne_nil
  | cons c word => exact ⟨c, rfl, h.clear c List.mem_cons_self⟩

/-- What is added in front of a text can only be its end if there is no text. -/
theorem begins_append_iff (front more : List Char) :
    (∀ c, (front ++ more).getLast? = some c → isSeparator c = true) ↔
      (more = [] → ∀ c, front.getLast? = some c → isSeparator c = true) ∧
        ∀ c, more.getLast? = some c → isSeparator c = true := by
  rcases List.eq_nil_or_concat more with rfl | ⟨start, last, rfl⟩
  · simp
  · simp [← List.append_assoc]

theorem maximalRun_cons (hc : isSeparator c = true) :
    MaximalRun (c :: cs) before run after ↔
      ∃ front, before = c :: front ∧ MaximalRun cs front run after := by
  constructor
  · rintro ⟨htext, hword, hbegins, hends⟩
    cases before with
    | nil =>
      obtain ⟨d, hd, hclear⟩ := hword.exists_head after
      obtain rfl : c = d := Option.some.inj ((congrArg List.head? htext).trans hd)
      rw [hc] at hclear
      cases hclear
    | cons d front =>
      obtain ⟨rfl, hcs⟩ := List.cons.inj htext
      exact ⟨front, rfl, hcs, hword, ((begins_append_iff [c] front).mp hbegins).2, hends⟩
  · rintro ⟨front, rfl, htext, hword, hbegins, hends⟩
    refine ⟨by rw [htext]; rfl, hword, (begins_append_iff [c] front).mpr ⟨?_, hbegins⟩, hends⟩
    rintro - d ⟨⟩
    exact hc

theorem takeWhile_word (hword : ∀ c ∈ word, isSeparator c = false)
    (hrest : ∀ c, rest.head? = some c → isSeparator c = true) :
    (word ++ rest).takeWhile (!isSeparator ·) = word := by
  rw [List.takeWhile_append_of_pos fun c hc => by rw [hword c hc]; rfl]
  cases rest with
  | nil => exact List.append_nil word
  | cons c rest => rw [List.takeWhile_cons_of_neg (by simp [hrest c rfl]), List.append_nil]

theorem maximalRun_word_append (hword : IsWord word)
    (hrest : ∀ c, rest.head? = some c → isSeparator c = true) :
    MaximalRun (word ++ rest) before run after ↔
      (before = [] ∧ run = word ∧ after = rest) ∨
        ∃ front, before = word ++ front ∧ MaximalRun rest front run after := by
  constructor
  · rintro ⟨htext, hrun, hbegins, hends⟩
    cases hlast : before.getLast? with
    | none =>
      rw [List.getLast?_eq_none_iff] at hlast
      subst hlast
      have hsame : run = word := by
        rw [← takeWhile_word hrun.clear hends, ← takeWhile_word hword.clear hrest, htext]
        rfl
      subst hsame
      exact .inl ⟨rfl, rfl, (List.append_cancel_left htext).symm⟩
    | some c =>
      -- The separator in front of the run stands behind the word.
      rcases List.append_eq_append_iff.mp htext with ⟨front, rfl, hrest'⟩ | ⟨more, hword', -⟩
      · exact .inr ⟨front, rfl, hrest', hrun, ((begins_append_iff word front).mp hbegins).2, hends⟩
      · have hmem : c ∈ word := hword' ▸ List.mem_append_left more (List.mem_of_getLast? hlast)
        have hc := hword.clear c hmem
        rw [hbegins c hlast] at hc
        cases hc
  · rintro (⟨rfl, rfl, rfl⟩ | ⟨front, rfl, htext, hrun, hbegins, hends⟩)
    · exact ⟨rfl, hword, nofun, hrest⟩
    · refine ⟨by rw [htext, List.append_assoc], hrun,
        (begins_append_iff word front).mpr ⟨?_, hbegins⟩, hends⟩
      -- A run at the start of the rest would meet the word.
      rintro rfl
      obtain ⟨c, hc, hclear⟩ := hrun.exists_head after
      rw [hrest c (by rw [htext]; exact hc)] at hclear
      cases hclear

/-! ## The runs of a text, from its front -/

/-- Runs that have been moved to the right. -/
def moveRuns (distance : Nat) (runs : List (Nat × List Char)) : List (Nat × List Char) :=
  runs.map fun entry => (entry.1 + distance, entry.2)

theorem mem_moveRuns_iff {distance start : Nat} {runs : List (Nat × List Char)} :
    (start, run) ∈ moveRuns distance runs ↔
      ∃ earlier, (earlier, run) ∈ runs ∧ earlier + distance = start := by
  simp [moveRuns]

theorem pairwise_moveRuns {runs : List (Nat × List Char)} (distance : Nat)
    (h : runs.Pairwise (·.1 < ·.1)) : (moveRuns distance runs).Pairwise (·.1 < ·.1) :=
  List.pairwise_map.mpr (h.imp fun hlt => Nat.add_lt_add_right hlt distance)

variable {runs : List (Nat × List Char)}

theorem RunsOf.cons (hc : isSeparator c = true) (h : RunsOf cs runs) :
    RunsOf (c :: cs) (moveRuns 1 runs) where
  ordered := pairwise_moveRuns 1 h.ordered
  mem_iff start run := by
    simp only [mem_moveRuns_iff, h.mem_iff, maximalRun_cons hc]
    constructor
    · rintro ⟨_, ⟨front, after, rfl, hrun⟩, rfl⟩
      exact ⟨c :: front, after, rfl, front, rfl, hrun⟩
    · rintro ⟨_, after, rfl, front, rfl, hrun⟩
      exact ⟨_, ⟨front, after, rfl, hrun⟩, rfl⟩

theorem RunsOf.word_append (hword : IsWord word)
    (hrest : ∀ c, rest.head? = some c → isSeparator c = true) (h : RunsOf rest runs) :
    RunsOf (word ++ rest) ((0, word) :: moveRuns word.length runs) where
  ordered := by
    refine List.pairwise_cons.mpr ⟨?_, pairwise_moveRuns _ h.ordered⟩
    rintro ⟨start, run⟩ hmem
    obtain ⟨earlier, -, rfl⟩ := mem_moveRuns_iff.mp hmem
    exact Nat.add_pos_right earlier (List.length_pos_iff.mpr hword.ne_nil)
  mem_iff start run := by
    simp only [List.mem_cons, Prod.mk.injEq, mem_moveRuns_iff, h.mem_iff,
      maximalRun_word_append hword hrest]
    constructor
    · rintro (⟨rfl, rfl⟩ | ⟨_, ⟨front, after, rfl, hrun⟩, rfl⟩)
      · exact ⟨[], rest, rfl, .inl ⟨rfl, rfl, rfl⟩⟩
      · refine ⟨word ++ front, after, ?_, .inr ⟨front, rfl, hrun⟩⟩
        rw [List.length_append, Nat.add_comm]
    · rintro ⟨_, after, rfl, ⟨rfl, rfl, rfl⟩ | ⟨front, rfl, hrun⟩⟩
      · exact .inl ⟨rfl, rfl⟩
      · refine .inr ⟨_, ⟨front, after, rfl, hrun⟩, ?_⟩
        rw [List.length_append, Nat.add_comm]

/-- The words of a text are its maximal runs. -/
theorem exists_runsOf (cs : List Char) :
    ∃ runs, RunsOf cs runs ∧ words cs = runs.map Prod.snd := by
  have hmoved : ∀ distance (runs : List (Nat × List Char)),
      (moveRuns distance runs).map Prod.snd = runs.map Prod.snd := by
    intro distance runs
    simp [moveRuns]
  induction cs using text_induction with
  | nil =>
    refine ⟨[], ⟨List.Pairwise.nil, fun start run => ⟨nofun, ?_⟩⟩, rfl⟩
    rintro ⟨before, after, -, htext, hword, -⟩
    have hempty := List.append_eq_nil_iff.mp (List.append_eq_nil_iff.mp htext.symm).2
    exact absurd hempty.1 hword.ne_nil
  | separator c rest hc ih =>
    obtain ⟨runs, hruns, heq⟩ := ih
    refine ⟨_, hruns.cons hc, ?_⟩
    rw [hmoved, ← heq, words_cons_separator hc]
  | word word rest hword hrest ih =>
    obtain ⟨runs, hruns, heq⟩ := ih
    refine ⟨_, hruns.word_append hword hrest, ?_⟩
    rw [List.map_cons, hmoved, ← heq, words_word_append hword.ne_nil hword.clear hrest]

/-- The words of a text are all that is in it but the separators. -/
theorem flatten_words (cs : List Char) :
    (words cs).flatten = cs.filter (!isSeparator ·) := by
  induction cs using text_induction with
  | nil => rfl
  | separator c rest hc ih =>
    rw [List.filter_cons_of_neg (by simp [hc]), ← ih, words_cons_separator hc]
  | word word rest hword hrest ih =>
    have hkept : word.filter (!isSeparator ·) = word :=
      List.filter_eq_self.mpr fun c hc => by rw [hword.clear c hc]; rfl
    rw [words_word_append hword.ne_nil hword.clear hrest, List.flatten_cons, ih,
      List.filter_append, hkept]

theorem nil_notMem_words (cs : List Char) : [] ∉ words cs := by
  simp [words]

/-! ## Words that are laid out -/

/-- Words, each with the separators behind it. Between two words there are some. -/
structure Apart (pieces : List (List Char × List Char)) : Prop where
  word : ∀ piece ∈ pieces, IsWord piece.1
  gap : ∀ piece ∈ pieces, ∀ c ∈ piece.2, isSeparator c = true
  between : ∀ piece ∈ pieces.dropLast, piece.2 ≠ []

theorem apart_iff {pieces : List (List Char × List Char)} : Apart pieces ↔
    (pieces.all (fun piece => decide (IsWord piece.1) && piece.2.all isSeparator) &&
      pieces.dropLast.all fun piece => !piece.2.isEmpty) = true := by
  simp only [Bool.and_eq_true, List.all_eq_true, decide_eq_true_eq, Bool.not_eq_true',
    List.isEmpty_eq_false_iff]
  constructor
  · intro h
    exact ⟨fun piece hmem => ⟨h.word piece hmem, h.gap piece hmem⟩, h.between⟩
  · rintro ⟨hpieces, hbetween⟩
    exact ⟨fun piece hmem => (hpieces piece hmem).1, fun piece hmem => (hpieces piece hmem).2,
      hbetween⟩

instance (pieces : List (List Char × List Char)) : Decidable (Apart pieces) :=
  decidable_of_iff _ apart_iff.symm

/-- The text of words with the separators behind them. -/
def laidOut (pieces : List (List Char × List Char)) : List Char :=
  pieces.flatMap fun piece => piece.1 ++ piece.2

theorem Apart.of_cons {piece : List Char × List Char} {pieces : List (List Char × List Char)}
    (h : Apart (piece :: pieces)) : Apart pieces where
  word other hmem := h.word other (List.mem_cons_of_mem piece hmem)
  gap other hmem := h.gap other (List.mem_cons_of_mem piece hmem)
  between other hmem := by
    cases pieces with
    | nil => cases hmem
    | cons next rest => exact h.between other (List.mem_cons_of_mem piece hmem)

/-- Laid out with separators between them, words are found again. -/
theorem words_laidOut {pieces : List (List Char × List Char)} (h : Apart pieces) :
    words (laidOut pieces) = pieces.map Prod.fst := by
  induction pieces with
  | nil => rfl
  | cons piece pieces ih =>
    have hword := h.word piece List.mem_cons_self
    have hgap := h.gap piece List.mem_cons_self
    have hrest : ∀ c, (piece.2 ++ laidOut pieces).head? = some c → isSeparator c = true := by
      intro c hc
      cases hempty : piece.2 with
      | cons d gap =>
        rw [hempty] at hc hgap
        obtain rfl : d = c := Option.some.inj hc
        exact hgap d List.mem_cons_self
      | nil =>
        -- Only the last word has nothing behind it.
        cases pieces with
        | nil => rw [hempty] at hc; cases hc
        | cons next rest => exact absurd hempty (h.between piece List.mem_cons_self)
    calc words (laidOut (piece :: pieces))
        = words (piece.1 ++ (piece.2 ++ laidOut pieces)) := by
          rw [laidOut, List.flatMap_cons, List.append_assoc, ← laidOut]
      _ = piece.1 :: words (laidOut pieces) := by
          rw [words_word_append hword.ne_nil hword.clear hrest, words_gap_append hgap]
      _ = (piece :: pieces).map Prod.fst := by rw [ih h.of_cons, List.map_cons]

end Runs
end AsmKit.Text
