import AsmKit.Text.Blank

/-! # Texts without blanks at their ends

Trimming drops blanks at the two ends and nothing else. -/
namespace AsmKit.Text

/-- The text neither begins nor ends with a blank. -/
structure Trimmed (cs : List Char) : Prop where
  head : ∀ {c}, cs.head? = some c → isBlank c = false
  last : ∀ {c}, cs.getLast? = some c → isBlank c = false

theorem head?_dropWhile_isBlank {cs : List Char} {c : Char}
    (h : (cs.dropWhile isBlank).head? = some c) : isBlank c = false := by
  have hfirst := List.head?_dropWhile_not isBlank cs
  rw [h] at hfirst
  exact hfirst

theorem exists_trimEnd_append (cs : List Char) :
    ∃ blanks, (∀ c ∈ blanks, isBlank c = true) ∧ trimEnd cs ++ blanks = cs := by
  refine ⟨(cs.reverse.takeWhile isBlank).reverse, fun c hc => ?_, ?_⟩
  · exact List.all_eq_true.mp List.all_takeWhile c (List.mem_reverse.mp hc)
  · rw [trimEnd, ← List.reverse_append, List.takeWhile_append_dropWhile, List.reverse_reverse]

theorem trimmed_trim (cs : List Char) : Trimmed (trim cs) where
  head := by
    intro c h
    obtain ⟨blanks, -, hstart⟩ := exists_trimEnd_append (trimStart cs)
    have hhead : (trimStart cs).head? = some c := by
      rw [← hstart, List.head?_append]
      unfold trim at h
      rw [h]
      rfl
    exact head?_dropWhile_isBlank hhead
  last := by
    intro c h
    rw [trim, trimEnd, List.getLast?_reverse] at h
    exact head?_dropWhile_isBlank h

theorem trim_sublist (cs : List Char) : (trim cs).Sublist cs := by
  obtain ⟨blanks, -, hstart⟩ := exists_trimEnd_append (trimStart cs)
  have hkept : (trim cs).Sublist (trimEnd (trimStart cs) ++ blanks) :=
    List.sublist_append_left _ _
  rw [hstart] at hkept
  exact hkept.trans (List.dropWhile_sublist isBlank)

theorem trimEnd_append_blanks {cs blanks : List Char} (h : ∀ c ∈ blanks, isBlank c = true) :
    trimEnd (cs ++ blanks) = trimEnd cs := by
  have hreverse : ∀ c ∈ blanks.reverse, isBlank c = true := fun c hc => h c (List.mem_reverse.mp hc)
  rw [trimEnd, List.reverse_append, List.dropWhile_append_of_pos hreverse, ← trimEnd]

theorem trimStart_blanks_append {cs blanks : List Char} (h : ∀ c ∈ blanks, isBlank c = true) :
    trimStart (blanks ++ cs) = trimStart cs :=
  List.dropWhile_append_of_pos h

theorem trim_blanks_append {cs blanks : List Char} (h : ∀ c ∈ blanks, isBlank c = true) :
    trim (blanks ++ cs) = trim cs := by
  rw [trim, trimStart_blanks_append h, trim]

theorem trim_append_blanks {cs blanks : List Char} (h : ∀ c ∈ blanks, isBlank c = true) :
    trim (cs ++ blanks) = trim cs := by
  unfold trim trimStart
  rw [List.dropWhile_append]
  split
  · rename_i hnil
    have hcs : cs.dropWhile isBlank = [] := List.isEmpty_iff.mp hnil
    have hblanks : blanks.dropWhile isBlank = [] := by
      rw [← List.append_nil blanks, List.dropWhile_append_of_pos h]
      rfl
    rw [hcs, hblanks]
  · exact trimEnd_append_blanks h

/-- Blanks at the end are behind every character that is none. -/
theorem trimEnd_append_cons {c : Char} (h : isBlank c = false) (front cs : List Char) :
    trimEnd (front ++ c :: cs) = front ++ c :: trimEnd cs := by
  unfold trimEnd
  rw [List.reverse_append, List.reverse_cons, List.append_assoc, List.dropWhile_append]
  split
  · rename_i hnil
    rw [List.isEmpty_iff.mp hnil]
    simp [h]
  · simp

/-- A text that starts with no blank is trimmed at its end only. -/
theorem trim_cons {c : Char} (h : isBlank c = false) (cs : List Char) :
    trim (c :: cs) = trimEnd (c :: cs) := by
  rw [trim, trimStart, List.dropWhile_cons_of_neg (by simp [h])]

/-- Trimming takes blanks away at the two ends. -/
theorem exists_blanks_trim (cs : List Char) : ∃ front back, front ++ (trim cs ++ back) = cs ∧
    (∀ c ∈ front, isBlank c = true) ∧ ∀ c ∈ back, isBlank c = true := by
  obtain ⟨back, hback, heq⟩ := exists_trimEnd_append (trimStart cs)
  refine ⟨cs.takeWhile isBlank, back, ?_, List.all_eq_true.mp List.all_takeWhile, hback⟩
  rw [trim, heq]
  exact List.takeWhile_append_dropWhile

/-- There is nothing to trim off a text without blanks at its ends. -/
theorem Trimmed.trim_eq {cs : List Char} (h : Trimmed cs) : trim cs = cs := by
  obtain ⟨front, back, heq, hfront, hback⟩ := exists_blanks_trim cs
  have hnone : front = [] := by
    cases front with
    | nil => rfl
    | cons c front =>
      have hc := h.head (c := c) (by rw [← heq]; rfl)
      rw [hfront c List.mem_cons_self] at hc
      cases hc
  have hnone' : back = [] := by
    rw [← List.getLast?_eq_none_iff, Option.eq_none_iff_forall_ne_some]
    intro c hlast
    have hend : cs.getLast? = some c := by
      rw [← heq, List.getLast?_append, List.getLast?_append, hlast]
      rfl
    have hc := h.last hend
    rw [hback c (List.mem_of_getLast? hlast)] at hc
    cases hc
  rw [hnone, hnone', List.nil_append, List.append_nil] at heq
  exact heq

/-- A text without blanks at its ends, and another one that has it between blanks. -/
structure TrimsTo (cs line : List Char) : Prop where
  trimmed : Trimmed line
  blanks : ∃ front back, cs = front ++ (line ++ back) ∧
    (∀ c ∈ front, isBlank c = true) ∧ ∀ c ∈ back, isBlank c = true

/-- Whatever is trimmed like this was between blanks, and nothing else was. -/
theorem trim_eq_iff {cs line : List Char} : trim cs = line ↔ TrimsTo cs line := by
  constructor
  · rintro rfl
    obtain ⟨front, back, heq, hfront, hback⟩ := exists_blanks_trim cs
    exact ⟨trimmed_trim cs, front, back, heq.symm, hfront, hback⟩
  · rintro ⟨htrimmed, front, back, rfl, hfront, hback⟩
    rw [trim_blanks_append hfront, trim_append_blanks hback, htrimmed.trim_eq]

end AsmKit.Text
