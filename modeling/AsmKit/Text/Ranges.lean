/-! Sets of code points, written as ascending lists of inclusive ranges. Main statement: the scan,
which stops at the first range beyond the code point, still answers membership in the union. -/

namespace AsmKit.Text.Ranges

/-- Whether some range holds `n`. The ranges ascend, so the scan ends at the first one beyond `n`.
-/
def covers : List (Nat × Nat) → Nat → Bool
  | [], _ => false
  | (low, high) :: rest, n => if n < low then false else n ≤ high || covers rest n

theorem covers_sound {ranges : List (Nat × Nat)} {n : Nat} (h : covers ranges n = true) :
    ∃ r ∈ ranges, r.1 ≤ n ∧ n ≤ r.2 := by
  induction ranges with
  | nil => simp [covers] at h
  | cons r rest ih =>
    obtain ⟨low, high⟩ := r
    simp only [covers] at h
    split at h
    · simp at h
    · rename_i hlow
      simp only [Bool.or_eq_true, decide_eq_true_eq] at h
      rcases h with h | h
      · exact ⟨(low, high), by simp, by omega, h⟩
      · obtain ⟨r, hr, hin⟩ := ih h
        exact ⟨r, by simp [hr], hin⟩

theorem covers_iff {ranges : List (Nat × Nat)} (ascending : ranges.Pairwise fun a b => a.1 < b.1)
    (n : Nat) : covers ranges n = true ↔ ∃ r ∈ ranges, r.1 ≤ n ∧ n ≤ r.2 := by
  refine ⟨covers_sound, fun h => ?_⟩
  induction ranges with
  | nil => simp at h
  | cons a rest ih =>
    obtain ⟨low, high⟩ := a
    obtain ⟨hfirst, hrest⟩ := List.pairwise_cons.mp ascending
    obtain ⟨r, hr, hin⟩ := h
    have hlow : ¬ n < low := by
      rcases List.mem_cons.mp hr with rfl | hr
      · omega
      · have := hfirst r hr
        omega
    simp only [covers, hlow, if_false, Bool.or_eq_true, decide_eq_true_eq]
    rcases List.mem_cons.mp hr with rfl | hr
    · exact Or.inl hin.2
    · exact Or.inr (ih hrest ⟨r, hr, hin⟩)

end AsmKit.Text.Ranges
