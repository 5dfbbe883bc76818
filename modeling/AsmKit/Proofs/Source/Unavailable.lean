import AsmKit.Proofs.Files.Tree
import AsmKit.Proofs.Settings.Standard
import AsmKit.Source.File

/-! # Files that are no source

A path that leads to no text is reported as a source that is not available, with
the path. Only a path with a zero character is refused in another way. -/
namespace AsmKit.TextSource
open Text.Utf8 (dropMark markStarts)

variable {settings : Settings} {files : FileTree} {path : String}

theorem ofFile_eq_ok_iff {source : TextSource} : ofFile settings files path = .ok source ↔
    ∃ text, files.textAt (.ofText path) = .ok text ∧ ofText settings text = source := by
  unfold ofFile fileText
  dsimp only
  cases files.textAt (.ofText path) <;> simp [Except.map]

theorem ofFile_eq_error_iff {fault : SourceFault} : ofFile settings files path = .error fault ↔
    ∃ cause, files.textAt (.ofText path) = .error cause ∧ fault = ⟨.ofText path, cause⟩ := by
  unfold ofFile fileText
  dsimp only
  cases files.textAt (.ofText path) <;> simp [Except.map, eq_comm]

theorem kind_of_textFault {fault : SourceFault} :
    fault.kind = if fault.fault = .zeroInPath then .badValue else .unavailable := by
  unfold SourceFault.kind
  split <;> simp_all

/-- A path gives a source exactly if it has no zero character and leads to a file whose bytes,
behind at most one byte order mark, are valid UTF-8, or are no more than the start of a mark. Every
fault names the path, and it says that the source is not available unless the path has a zero
character. -/
theorem file_is_unavailable_unless_zero_in_path (settings : Settings) (files : FileTree)
    (path : String) :
    ((∃ source, ofFile settings files path = .ok source) ↔
      '\x00' ∉ path.toList ∧ ∃ bytes, files.bytesAt (.ofText path) = .ok bytes ∧
        ((dropMark bytes).toByteArray.IsValidUTF8 ∨ bytes ∈ markStarts)) ∧
    ∀ fault, ofFile settings files path = .error fault →
      fault.path = .ofText path ∧
      fault.kind = if '\x00' ∈ path.toList then .badValue else .unavailable := by
  have hpath : '\x00' ∈ (Path.ofText path).text.toList ↔ '\x00' ∈ path.toList :=
    Path.zero_mem_text_ofText_iff
  constructor
  · rw [← hpath, ← FileTree.exists_textAt_eq_ok_iff]
    simp only [ofFile_eq_ok_iff]
    constructor
    · rintro ⟨_, text, htext, -⟩
      exact ⟨text, htext⟩
    · rintro ⟨text, htext⟩
      exact ⟨_, text, htext, rfl⟩
  · intro fault hfault
    obtain ⟨cause, hcause, rfl⟩ := ofFile_eq_error_iff.mp hfault
    refine ⟨rfl, ?_⟩
    have htext : files.textAt (.ofText path) = .error .zeroInPath ↔ '\x00' ∈ path.toList :=
      FileTree.textAt_eq_zeroInPath_iff.trans hpath
    have hzero : cause = .zeroInPath ↔ '\x00' ∈ path.toList := by
      rw [← htext, hcause, Except.error.injEq]
    rw [kind_of_textFault]
    simp only [hzero]

theorem missing_file_is_unavailable :
    ∃ fault, ofFile .standard ⟨[]⟩ "missing" = .error fault ∧ fault.path = .ofText "missing" ∧
      fault.kind = if '\x00' ∈ "missing".toList then .badValue else .unavailable :=
  ⟨⟨.ofText "missing", .path .missing⟩, by rfl,
    (file_is_unavailable_unless_zero_in_path .standard ⟨[]⟩ "missing").2 _ (by rfl)⟩

/-- A path with a zero character is no unavailable source, and the start of a mark, which is no
valid UTF-8, is one of no lines. -/
theorem zero_in_path_is_bad_value :
    (∃ fault, ofFile .standard ⟨[]⟩ "a\x00b" = .error fault ∧ fault.kind = .badValue) ∧
      ∃ source, ofFile .standard ⟨[(["f"], .file [0xEF])]⟩ "f" = .ok source ∧ source.rest = [] :=
  ⟨⟨⟨.ofText "a\x00b", .zeroInPath⟩, by rfl, by rfl⟩, _, by rfl, by rfl⟩

end AsmKit.TextSource
