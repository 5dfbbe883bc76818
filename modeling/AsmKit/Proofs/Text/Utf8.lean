import AsmKit.Text.Utf8

/-! # Reading what was written in UTF-8

The bytes of a text are read back as the text, whatever its characters are. A
byte order mark in front of them is dropped, so a text that itself starts with
one needs another in front of it. No bytes but those of a text are read, except
for the start of a mark, which is read as the empty text. -/
namespace AsmKit.Text.Utf8

/-! ## Bytes by their values -/

theorem isTail_iff {b : UInt8} : isTail b = true ↔ 128 ≤ b.toNat ∧ b.toNat ≤ 191 := by
  simp [isTail, UInt8.le_iff_toNat_le]

theorem isSecondOfThree_iff {a b : UInt8} : isSecondOfThree a b = true ↔ isTail b = true ∧
    ¬ (a.toNat = 224 ∧ b.toNat < 160) ∧ ¬ (a.toNat = 237 ∧ 160 ≤ b.toNat) := by
  simp [isSecondOfThree, UInt8.lt_iff_toNat_lt, UInt8.le_iff_toNat_le, ← UInt8.toNat_inj, and_assoc,
    Decidable.imp_iff_not_or]

theorem isSecondOfFour_iff {a b : UInt8} : isSecondOfFour a b = true ↔ isTail b = true ∧
    ¬ (a.toNat = 240 ∧ b.toNat < 144) ∧ ¬ (a.toNat = 244 ∧ 144 ≤ b.toNat) := by
  simp [isSecondOfFour, UInt8.lt_iff_toNat_lt, UInt8.le_iff_toNat_le, ← UInt8.toNat_inj, and_assoc,
    Decidable.imp_iff_not_or]

section Sequences
variable {a b c d : UInt8} {rest : List UInt8} {cs : List Char}

theorem decodeFrom_one (ha : a.toNat < 128) (hrest : ∀ position, decodeFrom position rest = .ok cs)
    (position : Nat) : decodeFrom position (a :: rest) = .ok (Char.ofNat a.toNat :: cs) := by
  have h : a < 0x80 := UInt8.lt_iff_toNat_lt.mpr ha
  unfold decodeFrom
  simp only [if_pos h, hrest]

theorem decodeFrom_two (hlow : 194 ≤ a.toNat) (hhigh : a.toNat < 224) (hb : isTail b = true)
    (hrest : ∀ position, decodeFrom position rest = .ok cs) (position : Nat) :
    decodeFrom position (a :: b :: rest) =
      .ok (Char.ofNat (a.toNat % 32 * 64 + tailBits b) :: cs) := by
  have h1 : ¬ a < 0x80 := by rw [UInt8.lt_iff_toNat_lt]; simp; omega
  have h2 : ¬ (a < 0xC2 || 0xF5 ≤ a) = true := by
    simp [UInt8.lt_iff_toNat_lt, UInt8.le_iff_toNat_le]; omega
  have h3 : a < 0xE0 := UInt8.lt_iff_toNat_lt.mpr hhigh
  simp only [decodeFrom, if_neg h1, if_neg h2, if_pos h3, hb, if_true, hrest]

theorem decodeFrom_three (hlow : 224 ≤ a.toNat) (hhigh : a.toNat < 240)
    (hb : isSecondOfThree a b = true) (hc : isTail c = true)
    (hrest : ∀ position, decodeFrom position rest = .ok cs) (position : Nat) :
    decodeFrom position (a :: b :: c :: rest) =
      .ok (Char.ofNat ((a.toNat % 16 * 64 + tailBits b) * 64 + tailBits c) :: cs) := by
  have h1 : ¬ a < 0x80 := by rw [UInt8.lt_iff_toNat_lt]; simp; omega
  have h2 : ¬ (a < 0xC2 || 0xF5 ≤ a) = true := by
    simp [UInt8.lt_iff_toNat_lt, UInt8.le_iff_toNat_le]; omega
  have h3 : ¬ a < 0xE0 := by rw [UInt8.lt_iff_toNat_lt]; simp; omega
  have h4 : a < 0xF0 := UInt8.lt_iff_toNat_lt.mpr hhigh
  simp [decodeFrom, h1, h2, h3, h4, hb, hc, hrest]

theorem decodeFrom_four (hlow : 240 ≤ a.toNat) (hhigh : a.toNat < 245)
    (hb : isSecondOfFour a b = true) (hc : isTail c = true) (hd : isTail d = true)
    (hrest : ∀ position, decodeFrom position rest = .ok cs) (position : Nat) :
    decodeFrom position (a :: b :: c :: d :: rest) =
      .ok (Char.ofNat (((a.toNat % 8 * 64 + tailBits b) * 64 + tailBits c) * 64 + tailBits d) ::
        cs) := by
  have h1 : ¬ a < 0x80 := by rw [UInt8.lt_iff_toNat_lt]; simp; omega
  have h2 : ¬ (a < 0xC2 || 0xF5 ≤ a) = true := by
    simp [UInt8.lt_iff_toNat_lt, UInt8.le_iff_toNat_le]; omega
  have h3 : ¬ a < 0xE0 := by rw [UInt8.lt_iff_toNat_lt]; simp; omega
  have h4 : ¬ a < 0xF0 := by rw [UInt8.lt_iff_toNat_lt]; simp; omega
  simp [decodeFrom, h1, h2, h3, h4, hb, hc, hd, hrest]

end Sequences

/-! ## Texts -/

theorem toNat_valid (c : Char) : c.toNat < 0xD800 ∨ 0xDFFF < c.toNat ∧ c.toNat < 0x110000 := c.valid

/-- The bytes of a character are read back as the character. -/
theorem decodeFrom_utf8EncodeChar (c : Char) {rest : List UInt8} {cs : List Char}
    (hrest : ∀ position, decodeFrom position rest = .ok cs) (position : Nat) :
    decodeFrom position (String.utf8EncodeChar c ++ rest) = .ok (c :: cs) := by
  have hvalid := toNat_valid c
  have hchar : ∀ {n : Nat}, n = c.toNat → Char.ofNat n = c := by
    rintro n rfl
    exact Char.ofNat_toNat c
  have hbyte : ∀ {n : Nat}, n < 256 → (UInt8.ofNat n).toNat = n := UInt8.toNat_ofNat_of_lt
  -- One case for each number of bytes. Their bits add up to the code of the character.
  unfold String.utf8EncodeChar
  dsimp only
  rw [show c.val.toNat = c.toNat from rfl]
  generalize hn : c.toNat = n at hvalid hchar
  split
  · have ha := hbyte (n := n) (by omega)
    rw [List.singleton_append, decodeFrom_one (by omega) hrest, hchar ha]
  · split
    · have ha := hbyte (n := n / 64 % 32 + 192) (by omega)
      have hb := hbyte (n := n % 64 + 128) (by omega)
      rw [List.cons_append, List.singleton_append,
        decodeFrom_two (by omega) (by omega) (isTail_iff.mpr (by omega)) hrest,
        hchar (by rw [tailBits, ha, hb]; omega)]
    · split
      · have ha := hbyte (n := n / 4096 % 16 + 224) (by omega)
        have hb := hbyte (n := n / 64 % 64 + 128) (by omega)
        have hc := hbyte (n := n % 64 + 128) (by omega)
        rw [List.cons_append, List.cons_append, List.singleton_append,
          decodeFrom_three (by omega) (by omega)
            (isSecondOfThree_iff.mpr ⟨isTail_iff.mpr (by omega), by omega, by omega⟩)
            (isTail_iff.mpr (by omega)) hrest,
          hchar (by rw [tailBits, tailBits, ha, hb, hc]; omega)]
      · have ha := hbyte (n := n / 262144 % 8 + 240) (by omega)
        have hb := hbyte (n := n / 4096 % 64 + 128) (by omega)
        have hc := hbyte (n := n / 64 % 64 + 128) (by omega)
        have hd := hbyte (n := n % 64 + 128) (by omega)
        rw [List.cons_append, List.cons_append, List.cons_append, List.singleton_append,
          decodeFrom_four (by omega) (by omega)
            (isSecondOfFour_iff.mpr ⟨isTail_iff.mpr (by omega), by omega, by omega⟩)
            (isTail_iff.mpr (by omega)) (isTail_iff.mpr (by omega)) hrest,
          hchar (by rw [tailBits, tailBits, tailBits, ha, hb, hc, hd]; omega)]

theorem decodeFrom_encode (cs : List Char) (position : Nat) :
    decodeFrom position (encode cs) = .ok cs := by
  induction cs generalizing position with
  | nil => rfl
  | cons c rest ih =>
    rw [encode, List.flatMap_cons]
    exact decodeFrom_utf8EncodeChar c ih position

/-- The bytes of a byte order mark. -/
def mark : List UInt8 := [0xEF, 0xBB, 0xBF]

theorem decode_mark_append_encode (cs : List Char) : decode (mark ++ encode cs) = .ok cs :=
  decodeFrom_encode cs 0

/-- Bytes that start with a mark are those of a text that does. -/
theorem head?_of_decodeFrom_mark {rest : List UInt8} {cs : List Char} {position : Nat}
    (h : decodeFrom position (mark ++ rest) = .ok cs) : cs.head? = some '\ufeff' := by
  have hsecond : isSecondOfThree 0xEF 0xBB = true := by decide
  have htail : isTail 0xBF = true := by decide
  have hchar : Char.ofNat ((239 % 16 * 64 + tailBits 0xBB) * 64 + tailBits 0xBF) = '\ufeff' := by
    decide
  simp only [mark, List.cons_append, List.nil_append] at h
  simp [decodeFrom, hsecond, htail, hchar] at h
  split at h
  · cases h; rfl
  · cases h

theorem decode_encode {cs : List Char} (h : cs.head? ≠ some '\ufeff') :
    decode (encode cs) = .ok cs := by
  have hread := decodeFrom_encode cs 0
  unfold decode
  split
  · rename_i rest hbytes
    rw [hbytes] at hread
    exact absurd (head?_of_decodeFrom_mark hread) h
  -- Too short for a mark, and no text either.
  · rename_i hbytes
    rw [hbytes] at hread
    cases hread
  · rename_i hbytes
    rw [hbytes] at hread
    cases hread
  · exact hread

/-! ## Bytes that are read -/

theorem toNat_ofNat {n : Nat} (h : n < 0xD800 ∨ 0xDFFF < n ∧ n < 0x110000) :
    (Char.ofNat n).toNat = n := by
  have hvalid : n.isValidChar := h
  rw [Char.ofNat, dif_pos hvalid]
  rfl

theorem ofNat_eq_of_toNat {n : Nat} {b : UInt8} (h : b.toNat = n) : UInt8.ofNat n = b := by
  rw [← h, UInt8.ofNat_toNat]

section Sequences
variable {a b c d : UInt8}

theorem utf8EncodeChar_one (ha : a.toNat < 128) :
    String.utf8EncodeChar (Char.ofNat a.toNat) = [a] := by
  have hcode := toNat_ofNat (n := a.toNat) (by omega)
  unfold String.utf8EncodeChar
  dsimp only
  rw [show (Char.ofNat a.toNat).val.toNat = a.toNat from hcode, if_pos (by omega),
    UInt8.ofNat_toNat]

theorem utf8EncodeChar_two (hlow : 194 ≤ a.toNat) (hhigh : a.toNat < 224) (hb : isTail b = true) :
    String.utf8EncodeChar (Char.ofNat (a.toNat % 32 * 64 + tailBits b)) = [a, b] := by
  rw [isTail_iff] at hb
  rw [tailBits]
  generalize hn : a.toNat % 32 * 64 + b.toNat % 64 = n
  have hcode := toNat_ofNat (n := n) (by omega)
  unfold String.utf8EncodeChar
  dsimp only
  rw [show (Char.ofNat n).val.toNat = n from hcode, if_neg (by omega), if_pos (by omega),
    ofNat_eq_of_toNat (b := a) (by omega), ofNat_eq_of_toNat (b := b) (by omega)]

theorem utf8EncodeChar_three (hlow : 224 ≤ a.toNat) (hhigh : a.toNat < 240)
    (hb : isSecondOfThree a b = true) (hc : isTail c = true) :
    String.utf8EncodeChar
      (Char.ofNat ((a.toNat % 16 * 64 + tailBits b) * 64 + tailBits c)) = [a, b, c] := by
  rw [isSecondOfThree_iff, isTail_iff] at hb
  rw [isTail_iff] at hc
  rw [tailBits, tailBits]
  generalize hn : (a.toNat % 16 * 64 + b.toNat % 64) * 64 + c.toNat % 64 = n
  have hcode := toNat_ofNat (n := n) (by omega)
  unfold String.utf8EncodeChar
  dsimp only
  rw [show (Char.ofNat n).val.toNat = n from hcode, if_neg (by omega), if_neg (by omega),
    if_pos (by omega), ofNat_eq_of_toNat (b := a) (by omega), ofNat_eq_of_toNat (b := b) (by omega),
    ofNat_eq_of_toNat (b := c) (by omega)]

theorem utf8EncodeChar_four (hlow : 240 ≤ a.toNat) (hhigh : a.toNat < 245)
    (hb : isSecondOfFour a b = true) (hc : isTail c = true) (hd : isTail d = true) :
    String.utf8EncodeChar (Char.ofNat
      (((a.toNat % 8 * 64 + tailBits b) * 64 + tailBits c) * 64 + tailBits d)) = [a, b, c, d] := by
  rw [isSecondOfFour_iff, isTail_iff] at hb
  rw [isTail_iff] at hc hd
  rw [tailBits, tailBits, tailBits]
  generalize hn : ((a.toNat % 8 * 64 + b.toNat % 64) * 64 + c.toNat % 64) * 64 + d.toNat % 64 = n
  have hcode := toNat_ofNat (n := n) (by omega)
  unfold String.utf8EncodeChar
  dsimp only
  rw [show (Char.ofNat n).val.toNat = n from hcode, if_neg (by omega), if_neg (by omega),
    if_neg (by omega), ofNat_eq_of_toNat (b := a) (by omega), ofNat_eq_of_toNat (b := b) (by omega),
    ofNat_eq_of_toNat (b := c) (by omega), ofNat_eq_of_toNat (b := d) (by omega)]

theorem isStart_iff :
    ¬ (decide (a < 0xC2) || decide (0xF5 ≤ a)) = true ↔ 194 ≤ a.toNat ∧ a.toNat < 245 := by
  simp [UInt8.lt_iff_toNat_lt, UInt8.le_iff_toNat_le]

end Sequences

theorem encode_cons (c : Char) (cs : List Char) :
    encode (c :: cs) = String.utf8EncodeChar c ++ encode cs := List.flatMap_cons

/-- Bytes that are read as a text are the bytes of the text. -/
theorem eq_encode_of_decodeFrom {position : Nat} {bytes : List UInt8} {cs : List Char}
    (h : decodeFrom position bytes = .ok cs) : bytes = encode cs := by
  -- One case for each number of bytes in front; all other cases are faults.
  fun_induction decodeFrom position bytes generalizing cs with
  | case1 =>
    cases h
    rfl
  | case2 _ a rest ha cs hrest ih =>
    cases h
    rw [encode_cons, utf8EncodeChar_one (UInt8.lt_iff_toNat_lt.mp ha), ← ih hrest]
    rfl
  | case6 _ a _ hstart htwo b rest hb cs hrest ih =>
    cases h
    have hhigh : a.toNat < 224 := UInt8.lt_iff_toNat_lt.mp htwo
    rw [encode_cons, utf8EncodeChar_two (isStart_iff.mp hstart).1 hhigh hb, ← ih hrest]
    rfl
  | case14 _ a _ _ htwo hthree b c rest hb hc cs hrest ih =>
    cases h
    have hlow : 224 ≤ a.toNat := Nat.not_lt.mp fun hlt => htwo (UInt8.lt_iff_toNat_lt.mpr hlt)
    have hhigh : a.toNat < 240 := UInt8.lt_iff_toNat_lt.mp hthree
    rw [encode_cons, utf8EncodeChar_three hlow hhigh (by simpa using hb) (by simpa using hc),
      ← ih hrest]
    rfl
  | case25 _ a _ hstart _ hthree b c d rest hb hc hd cs hrest ih =>
    cases h
    have hlow : 240 ≤ a.toNat := Nat.not_lt.mp fun hlt => hthree (UInt8.lt_iff_toNat_lt.mpr hlt)
    rw [encode_cons, utf8EncodeChar_four hlow (isStart_iff.mp hstart).2 (by simpa using hb)
      (by simpa using hc) (by simpa using hd), ← ih hrest]
    rfl
  | _ => cases h

theorem decodeFrom_eq_ok_iff {position : Nat} {bytes : List UInt8} {cs : List Char} :
    decodeFrom position bytes = .ok cs ↔ bytes = encode cs := by
  refine ⟨eq_encode_of_decodeFrom, ?_⟩
  rintro rfl
  exact decodeFrom_encode cs position

/-- The bytes behind a byte order mark, or all of them where they do not start with one. -/
def dropMark : List UInt8 → List UInt8
  | 0xEF :: 0xBB :: 0xBF :: rest => rest
  | bytes => bytes

/-- Bytes that are only the start of a mark. -/
def markStarts : List (List UInt8) := [[0xEF], [0xEF, 0xBB]]

theorem decode_eq_ok_iff {bytes : List UInt8} {cs : List Char} :
    decode bytes = .ok cs ↔ dropMark bytes = encode cs ∨ bytes ∈ markStarts ∧ cs = [] := by
  have hstart : ∀ start ∈ markStarts, dropMark start ≠ encode cs := by
    intro start hmem heq
    have hread : decodeFrom 0 (dropMark start) = .ok cs := decodeFrom_eq_ok_iff.mpr heq
    simp only [markStarts, List.mem_cons, List.not_mem_nil, or_false] at hmem
    rcases hmem with rfl | rfl <;> cases hread
  unfold decode
  split
  · rw [decodeFrom_eq_ok_iff, dropMark]
    simp [markStarts]
  · have h := hstart [0xEF, 0xBB] (by decide)
    simp [h, markStarts, eq_comm]
  · have h := hstart [0xEF] (by decide)
    simp [h, markStarts, eq_comm]
  · rename_i hmark htwo hone
    have hdrop : dropMark bytes = bytes := by
      rw [dropMark]
      exact hmark
    have hmem : bytes ∉ markStarts := by
      simp only [markStarts, List.mem_cons, List.not_mem_nil, or_false, not_or]
      exact ⟨hone, htwo⟩
    rw [decodeFrom_eq_ok_iff, hdrop]
    simp [hmem]

/-- The bytes of texts are those that are valid. -/
theorem isValidUTF8_iff {bytes : List UInt8} :
    bytes.toByteArray.IsValidUTF8 ↔ ∃ cs, bytes = encode cs := by
  constructor
  · rintro ⟨cs, hcs⟩
    exact ⟨cs, List.toByteArray_inj.mp hcs⟩
  · rintro ⟨cs, rfl⟩
    exact ⟨cs, rfl⟩

end AsmKit.Text.Utf8
