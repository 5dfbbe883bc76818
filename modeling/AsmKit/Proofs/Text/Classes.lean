import AsmKit.Proofs.Text.Trim
import AsmKit.Text.Word

/-! # Classes of characters

Each standard rule has its own class of characters. What keeps the rules out of
each other's way is that the characters of names, numbers and mnemonics are
neither separators nor the marks in front of a comment. -/
namespace AsmKit.Text

/-- A character between tokens. -/
def isSeparator (c : Char) : Bool := c == ',' || isBlank c

/-- A character in front of a comment. -/
def isCommentMark (c : Char) : Bool := c == ';' || c == '#'

/-- The first character of a name: an ASCII letter or an underscore. -/
def isNameStart (c : Char) : Bool := ('A' ≤ c && c ≤ 'Z') || ('a' ≤ c && c ≤ 'z') || c == '_'

/-- A character of a dotted name behind the first one. -/
def isNamePart (c : Char) : Bool := isWord c || c == '.'

/-- A digit of a hexadecimal number. -/
def isHexDigit (c : Char) : Bool :=
  ('0' ≤ c && c ≤ '9') || ('A' ≤ c && c ≤ 'F') || ('a' ≤ c && c ≤ 'f')

/-- A character that neither ends a token nor starts a comment. -/
def isTokenChar (c : Char) : Bool := !isSeparator c && !isCommentMark c

/-- A text that is a token wherever it stands between separators, and holds no comment. -/
def IsToken (cs : List Char) : Prop := cs ≠ [] ∧ ∀ c ∈ cs, isTokenChar c = true

instance (cs : List Char) : Decidable (IsToken cs) :=
  decidable_of_iff ((!cs.isEmpty && cs.all isTokenChar) = true) (by simp [IsToken])

/-- A name: its first character, and then others of a class. -/
def isName (part : Char → Bool) : List Char → Bool
  | [] => false
  | c :: rest => isNameStart c && rest.all part

/-- A hexadecimal number behind its mark, without a sign. -/
def isHexNumber : List Char → Bool
  | c :: mark :: digits =>
    c == '0' && (mark == 'x' || mark == 'X') && !digits.isEmpty && digits.all isHexDigit
  | _ => false

/-- A number without a sign. -/
def isUnsigned (cs : List Char) : Bool := isHexNumber cs || !cs.isEmpty && cs.all isDecimal

/-- A number, perhaps behind a minus sign. -/
def isNumber : List Char → Bool
  | [] => false
  | c :: rest => if c == '-' then isUnsigned rest else isUnsigned (c :: rest)

/-! ## Blanks are neither word characters nor marks -/

/-- The blank characters. -/
def blanks : List Char :=
  (List.range' 9 5 ++ List.range' 28 5 ++ [0x85, 0xA0, 0x1680] ++ List.range' 0x2000 11 ++
    [0x2028, 0x2029, 0x202F, 0x205F, 0x3000]).map Char.ofNat

theorem mem_blanks {c : Char} (h : isBlank c = true) : c ∈ blanks := by
  refine List.mem_map.mpr ⟨c.toNat, ?_, Char.ofNat_toNat c⟩
  simp only [isBlank, isBlankCode, Bool.or_eq_true, Bool.and_eq_true, decide_eq_true_eq,
    beq_iff_eq] at h
  simp only [List.mem_append, List.mem_range'_1, List.mem_cons, List.not_mem_nil, or_false]
  omega

theorem isWord_of_isBlank {c : Char} (h : isBlank c = true) : isWord c = false := by
  have hall : blanks.all (!isWord ·) = true := by decide +kernel
  simpa using List.all_eq_true.mp hall c (mem_blanks h)

theorem isBlank_of_isWord {c : Char} (h : isWord c = true) : isBlank c = false := by
  cases hblank : isBlank c with
  | false => rfl
  | true => rw [isWord_of_isBlank hblank] at h; cases h

theorem isCommentMark_of_isBlank {c : Char} (h : isBlank c = true) : isCommentMark c = false := by
  have hall : blanks.all (!isCommentMark ·) = true := by decide
  simpa using List.all_eq_true.mp hall c (mem_blanks h)

theorem isSeparator_of_isBlank {c : Char} (h : isBlank c = true) : isSeparator c = true := by
  simp [isSeparator, h]

theorem isCommentMark_of_isSeparator {c : Char} (h : isSeparator c = true) :
    isCommentMark c = false := by
  rcases Bool.or_eq_true_iff.mp h with hcomma | hblank
  · rw [beq_iff_eq.mp hcomma]
    decide
  · exact isCommentMark_of_isBlank hblank

theorem isWord_of_isDecimal {c : Char} (h : isDecimal c = true) : isWord c = true := by
  simp [isWord, isNumeral, isDigit, h]

/-! ## Characters of tokens -/

theorem isTokenChar_iff {c : Char} :
    isTokenChar c = true ↔ isSeparator c = false ∧ isCommentMark c = false := by
  simp [isTokenChar]

theorem IsToken.isSeparator_eq_false {cs : List Char} (h : IsToken cs) :
    ∀ c ∈ cs, isSeparator c = false :=
  fun c hc => (isTokenChar_iff.mp (h.2 c hc)).1

theorem IsToken.isBlank_eq_false {cs : List Char} (h : IsToken cs) {c : Char} (hc : c ∈ cs) :
    isBlank c = false :=
  (Bool.or_eq_false_iff.mp (h.isSeparator_eq_false c hc)).2

theorem isTokenChar_of_isWord {c : Char} (h : isWord c = true) : isTokenChar c = true := by
  have hne : ∀ {d}, isWord d = false → c ≠ d := by
    rintro d hd rfl
    rw [hd] at h
    cases h
  have hcomma : c ≠ ',' := hne (by decide +kernel)
  have hsemicolon : c ≠ ';' := hne (by decide +kernel)
  have hhash : c ≠ '#' := hne (by decide +kernel)
  simp [isTokenChar, isSeparator, isCommentMark, isBlank_of_isWord h, hcomma, hsemicolon, hhash]

/-- Two tests of ASCII characters can be compared by trying them all. -/
theorem imp_of_ascii {p q : Char → Bool} (hp : ∀ c, p c = true → c.toNat < 128)
    (h : ∀ n < 128, p (Char.ofNat n) = true → q (Char.ofNat n) = true) {c : Char}
    (hc : p c = true) : q c = true := by
  have hcode := h c.toNat (hp c hc)
  rw [Char.ofNat_toNat] at hcode
  exact hcode hc

theorem beq_eq_decide_toNat (c d : Char) : (c == d) = decide (c.toNat = d.toNat) := by
  rw [Bool.eq_iff_iff]
  simp [← Char.toNat_inj]

theorem isWord_of_isNameStart {c : Char} (h : isNameStart c = true) : isWord c = true := by
  refine imp_of_ascii (p := isNameStart) (fun c hc => ?_) (by decide +kernel) h
  simp [isNameStart, Char.le_def, UInt32.le_iff_toNat_le, beq_eq_decide_toNat] at hc
  omega

theorem isTokenChar_of_isHexDigit {c : Char} (h : isHexDigit c = true) : isTokenChar c = true := by
  refine imp_of_ascii (p := isHexDigit) (fun c hc => ?_) (by decide +kernel) h
  simp [isHexDigit, Char.le_def, UInt32.le_iff_toNat_le] at hc
  omega

theorem isTokenChar_of_isNamePart {c : Char} (h : isNamePart c = true) : isTokenChar c = true := by
  rcases Bool.or_eq_true_iff.mp h with h | h
  · exact isTokenChar_of_isWord h
  · rw [beq_iff_eq.mp h]
    decide

/-! ## Names and numbers are tokens -/

theorem isToken_of_isName {part : Char → Bool} {cs : List Char}
    (hpart : ∀ {c}, part c = true → isTokenChar c = true) (h : isName part cs = true) :
    IsToken cs := by
  cases cs with
  | nil => cases h
  | cons c rest =>
    obtain ⟨hc, hrest⟩ := Bool.and_eq_true_iff.mp h
    refine ⟨List.cons_ne_nil c rest, List.forall_mem_cons.mpr ⟨?_, fun d hd => ?_⟩⟩
    · exact isTokenChar_of_isWord (isWord_of_isNameStart hc)
    · exact hpart (List.all_eq_true.mp hrest d hd)

theorem isToken_of_isHexNumber {cs : List Char} (h : isHexNumber cs = true) : IsToken cs := by
  match cs with
  | c :: mark :: digits =>
    simp only [isHexNumber, Bool.and_eq_true, Bool.or_eq_true, beq_iff_eq] at h
    obtain ⟨⟨⟨rfl, hmark⟩, -⟩, hdigits⟩ := h
    have htail : ∀ d ∈ digits, isTokenChar d = true :=
      fun d hd => isTokenChar_of_isHexDigit (List.all_eq_true.mp hdigits d hd)
    refine ⟨List.cons_ne_nil _ _, List.forall_mem_cons.mpr ⟨by decide, ?_⟩⟩
    rcases hmark with rfl | rfl <;> exact List.forall_mem_cons.mpr ⟨by decide, htail⟩

theorem isToken_of_isUnsigned {cs : List Char} (h : isUnsigned cs = true) : IsToken cs := by
  rcases Bool.or_eq_true_iff.mp h with h | h
  · exact isToken_of_isHexNumber h
  · obtain ⟨hne, hdigits⟩ := Bool.and_eq_true_iff.mp h
    exact ⟨by simpa using hne, fun c hc =>
      isTokenChar_of_isWord (isWord_of_isDecimal (List.all_eq_true.mp hdigits c hc))⟩

theorem isToken_of_isNumber {cs : List Char} (h : isNumber cs = true) : IsToken cs := by
  cases cs with
  | nil => cases h
  | cons c rest =>
    by_cases hminus : c = '-'
    · subst hminus
      have hrest : isUnsigned rest = true := h
      exact ⟨List.cons_ne_nil _ _, List.forall_mem_cons.mpr
        ⟨by decide, (isToken_of_isUnsigned hrest).2⟩⟩
    · rw [isNumber, if_neg (by simpa using hminus)] at h
      exact isToken_of_isUnsigned h

/-! ## Names are no numbers -/

theorem isDigit_of_isNameStart {c : Char} (h : isNameStart c = true) : isDigit c = false := by
  have hnot : (!isDigit c) = true := by
    refine imp_of_ascii (p := isNameStart) (q := (!isDigit ·)) (fun c hc => ?_)
      (by decide +kernel) h
    simp [isNameStart, Char.le_def, UInt32.le_iff_toNat_le, beq_eq_decide_toNat] at hc
    omega
  simpa using hnot

theorem isDecimal_of_isNameStart {c : Char} (h : isNameStart c = true) : isDecimal c = false :=
  (Bool.or_eq_false_iff.mp (isDigit_of_isNameStart h)).1

/-- A name starts with a character that is no digit. -/
theorem all_isDigit_of_isName {part : Char → Bool} {cs : List Char}
    (h : isName part cs = true) : cs.all isDigit = false := by
  cases cs with
  | nil => cases h
  | cons c rest =>
    have hstart := isDigit_of_isNameStart (Bool.and_eq_true_iff.mp h).1
    rw [List.all_cons, hstart, Bool.false_and]

/-- A name starts with a character that no number starts with. -/
theorem isNumber_of_isName {part : Char → Bool} {cs : List Char} (h : isName part cs = true) :
    isNumber cs = false := by
  cases cs with
  | nil => cases h
  | cons c rest =>
    obtain ⟨hstart, -⟩ := Bool.and_eq_true_iff.mp h
    have hne : ∀ {d}, isNameStart d = false → c ≠ d := by
      intro d hd hcd
      rw [← hcd, hstart] at hd
      cases hd
    have hminus : c ≠ '-' := hne (by decide)
    have hzero : c ≠ '0' := hne (by decide)
    have hhex : isHexNumber (c :: rest) = false := by
      cases rest <;> simp [isHexNumber, hzero]
    simp [isNumber, isUnsigned, hminus, hhex, isDecimal_of_isNameStart hstart]

/-! ## The words of a text -/

/-- The words of a text: the runs of characters between its separators. -/
def words (cs : List Char) : List (List Char) :=
  (cs.splitOnP isSeparator).filter fun word => !word.isEmpty

theorem words_append_separator {c : Char} (h : isSeparator c = true) (front cs : List Char) :
    words (front ++ c :: cs) = words front ++ words cs := by
  rw [words, List.splitOnP_append_cons front cs h, List.filter_append]
  rfl

theorem words_cons_separator {c : Char} (h : isSeparator c = true) (cs : List Char) :
    words (c :: cs) = words cs :=
  words_append_separator h [] cs

theorem words_gap_append {gap : List Char} (h : ∀ c ∈ gap, isSeparator c = true)
    (cs : List Char) : words (gap ++ cs) = words cs := by
  induction gap with
  | nil => rfl
  | cons c gap ih =>
    obtain ⟨hc, hgap⟩ := List.forall_mem_cons.mp h
    rw [List.cons_append, words_cons_separator hc, ih hgap]

theorem words_append_gap {gap : List Char} (h : ∀ c ∈ gap, isSeparator c = true)
    (cs : List Char) : words (cs ++ gap) = words cs := by
  cases gap with
  | nil => rw [List.append_nil]
  | cons c gap =>
    obtain ⟨hc, hgap⟩ := List.forall_mem_cons.mp h
    have hnone := words_gap_append hgap []
    rw [List.append_nil] at hnone
    rw [words_append_separator hc, hnone]
    exact List.append_nil _

/-- A word in front of a separator, or of nothing, is the first word of the text. -/
theorem words_word_append {word rest : List Char} (hne : word ≠ [])
    (hword : ∀ c ∈ word, isSeparator c = false)
    (hrest : ∀ c, rest.head? = some c → isSeparator c = true) :
    words (word ++ rest) = word :: words rest := by
  have halone : words word = [word] := by
    rw [words, List.splitOnP_eq_singleton hword]
    simp [hne]
  cases rest with
  | nil =>
    rw [List.append_nil, halone]
    rfl
  | cons c rest =>
    have hc := hrest c rfl
    rw [words_append_separator hc, halone, words_cons_separator hc]
    rfl

/-- A word ends at a separator or at the end of the text. -/
theorem isSeparator_of_head_dropWhile {cs : List Char} :
    ∀ c, (cs.dropWhile (!isSeparator ·)).head? = some c → isSeparator c = true := by
  intro c hc
  have hstop := List.head?_dropWhile_not (!isSeparator ·) cs
  rw [hc] at hstop
  simpa using hstop

theorem isSeparator_of_mem_takeWhile {cs : List Char} :
    ∀ c ∈ cs.takeWhile (!isSeparator ·), isSeparator c = false := by
  intro c hc
  simpa using List.all_eq_true.mp List.all_takeWhile c hc

/-- A start without separators belongs to the first word. -/
theorem exists_words_append {front : List Char} (hne : front ≠ [])
    (hfront : ∀ c ∈ front, isSeparator c = false) (cs : List Char) :
    ∃ more others, words (front ++ cs) = (front ++ more) :: others := by
  refine ⟨cs.takeWhile (!isSeparator ·), words (cs.dropWhile (!isSeparator ·)), ?_⟩
  have hword : ∀ c ∈ front ++ cs.takeWhile (!isSeparator ·), isSeparator c = false := by
    intro c hc
    rcases List.mem_append.mp hc with hc | hc
    · exact hfront c hc
    · exact isSeparator_of_mem_takeWhile c hc
  rw [← words_word_append (by simp [hne]) hword isSeparator_of_head_dropWhile, List.append_assoc,
    List.takeWhile_append_dropWhile]

theorem words_trimEnd (cs : List Char) : words (trimEnd cs) = words cs := by
  obtain ⟨blanks, hblanks, heq⟩ := exists_trimEnd_append cs
  rw [← words_append_gap (fun c hc => isSeparator_of_isBlank (hblanks c hc)) (trimEnd cs), heq]

theorem words_trim (cs : List Char) : words (trim cs) = words cs := by
  obtain ⟨front, back, heq, hfront, hback⟩ := exists_blanks_trim cs
  rw [← words_append_gap (fun c hc => isSeparator_of_isBlank (hback c hc)) (trim cs),
    ← words_gap_append (fun c hc => isSeparator_of_isBlank (hfront c hc)) (trim cs ++ back), heq]

end AsmKit.Text
