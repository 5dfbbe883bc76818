import AsmKit.Files.Path

/-! # The characters of a path

Bringing a text into the normal form of a path takes slashes and dots away and
leaves all other characters, so a path has a zero character exactly if the text
that it was read from has one. -/
namespace AsmKit.Path

theorem mem_split_iff {c : Char} (hslash : c ≠ '/') {cs : List Char} :
    (∃ segment ∈ split cs, c ∈ segment) ↔ c ∈ cs := by
  induction cs with
  | nil => simp [split]
  | cons first rest ih =>
    rw [split]
    by_cases hfirst : first = '/'
    · simp [hfirst, ih, hslash]
    · rw [if_neg (by simpa using hfirst), List.mem_cons, ← ih]
      cases hsplit : split rest with
      | nil => simp
      | cons segment more => simp [or_assoc]

theorem mem_intercalate_iff {c : Char} (hslash : c ≠ '/') {segments : List String} :
    c ∈ ("/".intercalate segments).toList ↔ ∃ segment ∈ segments, c ∈ segment.toList := by
  rw [String.toList_intercalate]
  induction segments with
  | nil => simp
  | cons first rest ih =>
    cases rest with
    | nil => simp
    | cons second more =>
      rw [List.map_cons, List.map_cons, List.intercalate_cons_cons, ← List.map_cons,
        List.mem_append, ih]
      simp [hslash]

theorem notMem_rootOf {c : Char} (hslash : c ≠ '/') (cs : List Char) : c ∉ (rootOf cs).toList := by
  unfold rootOf
  split <;> simp [hslash]

theorem mem_text_iff {c : Char} (hslash : c ≠ '/') (hdot : c ≠ '.') {path : Path}
    (hroot : c ∉ path.root.toList) :
    c ∈ path.text.toList ↔ ∃ segment ∈ path.segments, c ∈ segment.toList := by
  unfold text
  split
  · rename_i hempty
    rw [Bool.and_eq_true, List.isEmpty_iff] at hempty
    simp [hempty.2, hdot]
  · rw [String.toList_append, List.mem_append, mem_intercalate_iff hslash]
    exact or_iff_right hroot

theorem mem_segments_ofText_iff {c : Char} (hslash : c ≠ '/') (hdot : c ≠ '.') {text : String} :
    (∃ segment ∈ (ofText text).segments, c ∈ segment.toList) ↔ c ∈ text.toList := by
  rw [← mem_split_iff hslash]
  simp only [ofText, List.mem_map, List.mem_filter]
  constructor
  · rintro ⟨_, ⟨segment, ⟨hmem, -⟩, rfl⟩, hc⟩
    exact ⟨segment, hmem, by simpa using hc⟩
  · rintro ⟨segment, hmem, hc⟩
    refine ⟨_, ⟨segment, ⟨hmem, ?_⟩, rfl⟩, by simpa using hc⟩
    rw [Bool.and_eq_true, bne_iff_ne, bne_iff_ne]
    refine ⟨List.ne_nil_of_mem hc, ?_⟩
    rintro rfl
    exact hdot (List.mem_singleton.mp hc)

/-- A path has the characters of its text, apart from slashes and dots. -/
theorem mem_text_ofText_iff {c : Char} (hslash : c ≠ '/') (hdot : c ≠ '.') {text : String} :
    c ∈ (ofText text).text.toList ↔ c ∈ text.toList := by
  have hroot : c ∉ (ofText text).root.toList := notMem_rootOf hslash text.toList
  rw [mem_text_iff hslash hdot hroot, mem_segments_ofText_iff hslash hdot]

theorem zero_mem_text_ofText_iff {text : String} :
    '\x00' ∈ (ofText text).text.toList ↔ '\x00' ∈ text.toList :=
  mem_text_ofText_iff (by decide) (by decide)

end AsmKit.Path
