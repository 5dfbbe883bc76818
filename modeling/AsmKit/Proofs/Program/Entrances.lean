import AsmKit.Assembler
import AsmKit.Proofs.Program.Reached
import AsmKit.Proofs.Settings.Resolving

/-! # Ways to a reading

Whatever reads a text or hands out its lines resolves the settings that it is
given. An assembler gives its own settings, resolved by then, to a reader and a
source that resolve them again; a caller may also give the same overrides to
each of the two. Main statement: resolving settled settings changes nothing, so
both ways come to one reading or to one fault. -/
namespace AsmKit.Assembler
variable {α : Type}

/-- A source of the lines of a text gives the report of the text. -/
theorem read_textSource (assembler : Assembler α) (text : String) :
    ∃ later, assembler.read (assembler.textSource text) = .ok (assembler.readText text, later) :=
  ⟨_, Program.read_text assembler.forms assembler.settings _⟩

section
variable [Text.CharacterNames]

/-- A source of the lines of a text, under settings that the source resolves. -/
def openText (overrides : Settings.Overrides) (text : String) : Except Settings.Fault LineSource :=
  overrides.resolve.map fun settings => .text (.ofText settings text.toList)

/-- Reads a text with a reader and a source that each resolve the overrides. -/
def readApart (forms : List (InstructionForm α)) (overrides : Settings.Overrides) (text : String) :
    Except Settings.Fault (Except LineFault (Report α × LineSource)) := do
  let reader ← new forms overrides
  let source ← openText overrides text
  return reader.read source

/-- Reads a text with an assembler, whose reader and source are given its settings. -/
def readThrough (forms : List (InstructionForm α)) (overrides : Settings.Overrides)
    (text : String) : Except Settings.Fault (Except LineFault (Report α × LineSource)) := do
  let assembler ← new forms overrides
  readApart assembler.forms (.draft assembler.settings.toDraft) text

section Readings
variable {forms : List (InstructionForm α)} {overrides : Settings.Overrides}

theorem readApart_of_error {fault : Settings.Fault} (h : overrides.resolve = .error fault)
    (text : String) : readApart forms overrides text = .error fault := by
  rw [readApart, new, h]
  rfl

/-- What comes of a text depends on the settings alone, however they were given. -/
theorem readApart_of_ok {settings : Settings} (h : overrides.resolve = .ok settings)
    (text : String) :
    readApart forms overrides text =
      .ok (read ⟨forms, settings⟩ (textSource ⟨forms, settings⟩ text)) := by
  rw [readApart, new, openText, h]
  rfl

theorem readThrough_of_error {fault : Settings.Fault} (h : overrides.resolve = .error fault)
    (text : String) : readThrough forms overrides text = .error fault := by
  rw [readThrough, new, h]
  rfl

theorem readThrough_of_ok {settings : Settings} (h : overrides.resolve = .ok settings)
    (text : String) :
    readThrough forms overrides text =
      readApart forms (.draft settings.toDraft) text := by
  rw [readThrough, new, h]
  rfl

end Readings

/-- Settings that overrides come to are resolved to themselves. So an assembler reads a text as a
reader and a source do that each resolve the overrides: both ways fail with the fault of the
overrides, or both give the report of the text under the settings. -/
theorem readings_agree (overrides : Settings.Overrides) :
    (∀ settings, overrides.resolve = .ok settings →
      (Settings.Overrides.draft settings.toDraft).resolve = .ok settings) ∧
    ∀ (forms : List (InstructionForm α)) (text : String),
      readThrough forms overrides text = readApart forms overrides text ∧
        ((∃ fault, overrides.resolve = .error fault ∧
            readApart forms overrides text = .error fault) ∨
          ∃ assembler later, new forms overrides = .ok assembler ∧
            readApart forms overrides text = .ok (.ok (assembler.readText text, later))) := by
  refine ⟨fun settings h => Settings.Overrides.resolve_again h, fun forms text => ?_⟩
  cases hresolve : overrides.resolve with
  | error fault =>
    have hapart : readApart forms overrides text = .error fault := readApart_of_error hresolve text
    rw [readThrough_of_error hresolve, hapart]
    exact ⟨rfl, .inl ⟨fault, rfl, rfl⟩⟩
  | ok settings =>
    have hagain := Settings.Overrides.resolve_again hresolve
    have hnew : new forms overrides = .ok ⟨forms, settings⟩ := by
      rw [new, hresolve]
      rfl
    rw [readThrough_of_ok hresolve, readApart_of_ok hagain, readApart_of_ok hresolve]
    obtain ⟨later, hread⟩ := read_textSource ⟨forms, settings⟩ text
    exact ⟨rfl, .inr ⟨⟨forms, settings⟩, later, hnew, congrArg Except.ok hread⟩⟩

end

/-- Overrides of all sorts: labels switched on, a rule that is read already, a table of both. -/
def mixedOverrides : Settings.Overrides := .named
  [("label", .rule (.datum (.bool true))),
    ("separator", .rule (.pattern Settings.separatorPattern)),
    ("syntax", .table
      [("digit", .datum (.text "^\\d$")), ("reg", .pattern Settings.registerPattern)])]

section
open scoped Text.Nameless

theorem mixedOverrides_settle : ∃ settings, mixedOverrides.resolve = .ok settings ∧
    (Settings.Overrides.draft settings.toDraft).resolve = .ok settings ∧
    readThrough [⟨"add", ["reg", "digit"], some 7⟩] mixedOverrides "start: add x 1" =
      readApart [⟨"add", ["reg", "digit"], some 7⟩] mixedOverrides "start: add x 1" := by
  obtain ⟨settings, hsettings⟩ :=
    Option.isSome_iff_exists.mp (by decide +kernel : mixedOverrides.resolve.toOption.isSome = true)
  have hresolve := Settings.eq_ok_of_toOption hsettings
  obtain ⟨hagain, hreadings⟩ := readings_agree mixedOverrides
  exact ⟨settings, hresolve, hagain settings hresolve, (hreadings _ _).1⟩

end

end AsmKit.Assembler
