import AsmKit.Files.Tree
import AsmKit.Proofs.Files.Path
import AsmKit.Proofs.Text.Utf8

/-! # What is read as text

A file is read exactly if it can be found and its bytes are those of a text. A
zero character in the path is looked for first, whatever stands there. -/
namespace AsmKit.FileTree
open Text.Utf8 (decode dropMark markStarts)

variable {files : FileTree} {path : Path}

theorem textAt_eq_ok_iff {text : List Char} : files.textAt path = .ok text ↔
    '\x00' ∉ path.text.toList ∧ ∃ bytes, files.bytesAt path = .ok bytes ∧
      ∃ cs, decode bytes = .ok cs ∧ unifyLineEnds cs = text := by
  unfold textAt
  split
  · rename_i hzero
    simp [List.contains_iff_mem.mp hzero]
  · rename_i hzero
    rw [List.contains_iff_mem] at hzero
    split
    · simp [‹files.bytesAt path = _›]
    · rename_i bytes hbytes
      split <;> simp [hzero, hbytes, ‹decode bytes = _›]

theorem textAt_eq_zeroInPath_iff :
    files.textAt path = .error .zeroInPath ↔ '\x00' ∈ path.text.toList := by
  rw [← List.contains_iff_mem]
  unfold textAt
  split
  · exact iff_of_true rfl ‹_›
  · rename_i hzero
    refine iff_of_false ?_ hzero
    split
    · nofun
    · split <;> nofun

/-- The bytes of a text, behind a byte order mark or without one, and those of the start of a mark
are read as text. -/
theorem exists_decode_eq_ok_iff {bytes : List UInt8} : (∃ cs, decode bytes = .ok cs) ↔
    (dropMark bytes).toByteArray.IsValidUTF8 ∨ bytes ∈ markStarts := by
  simp only [Text.Utf8.decode_eq_ok_iff, Text.Utf8.isValidUTF8_iff, exists_or, exists_and_left,
    exists_eq, and_true]

theorem exists_textAt_eq_ok_iff : (∃ text, files.textAt path = .ok text) ↔
    '\x00' ∉ path.text.toList ∧ ∃ bytes, files.bytesAt path = .ok bytes ∧
      ((dropMark bytes).toByteArray.IsValidUTF8 ∨ bytes ∈ markStarts) := by
  simp only [textAt_eq_ok_iff, ← exists_decode_eq_ok_iff]
  constructor
  · rintro ⟨_, hzero, bytes, hbytes, cs, hcs, -⟩
    exact ⟨hzero, bytes, hbytes, cs, hcs⟩
  · rintro ⟨hzero, bytes, hbytes, cs, hcs⟩
    exact ⟨_, hzero, bytes, hbytes, cs, hcs, rfl⟩

end AsmKit.FileTree
