import AsmKit.Proofs.Settings.Standard
import Mathlib

/-! # What resolving settings reads

A draft resolves exactly if each of its parts can be read, and the settings
have what was read. Settings that come out of a draft are a draft again, whose
rules are all read: resolving that one changes nothing. -/
namespace AsmKit.Settings

/-- Settings that leave everything out come to the standard settings. -/
theorem resolve_none [Text.CharacterNames] : Overrides.none.resolve = .ok standard := by cbv

theorem bind_eq_ok_iff {ε β γ : Type} {first : Except ε β} {next : β → Except ε γ} {value : γ} :
    (first >>= next) = .ok value ↔ ∃ middle, first = .ok middle ∧ next middle = .ok value := by
  cases first with
  | error fault => simp [bind, Except.bind]
  | ok middle => simp [bind, Except.bind]

theorem bind_eq_error_iff {ε β γ : Type} {first : Except ε β} {next : β → Except ε γ} {fault : ε} :
    (first >>= next) = .error fault ↔
      first = .error fault ∨ ∃ middle, first = .ok middle ∧ next middle = .error fault := by
  cases first with
  | error other => simp [bind, Except.bind]
  | ok middle => simp [bind, Except.bind]

/-- The parts of a draft are read one by one, and all of them must be readable. -/
theorem Draft.resolve_eq_ok_iff [Text.CharacterNames] {draft : Draft} {settings : Settings} :
    draft.resolve = .ok settings ↔
      readLabel draft.label = .ok settings.label ∧
      readGiven "separator" standardSeparator draft.separator = .ok settings.separator ∧
      readGiven "comment" standardComment draft.comment = .ok settings.comment ∧
      ∃ entries, tableEntries draft.operandRules = .ok entries ∧
        readTable entries = .ok settings.operandRules := by
  unfold Draft.resolve
  simp only [bind_eq_ok_iff]
  constructor
  · rintro ⟨entries, hentries, label, hlabel, separator, hseparator, comment, hcomment,
      operandRules, hrules, hsettings⟩
    cases hsettings
    exact ⟨hlabel, hseparator, hcomment, entries, hentries, hrules⟩
  · rintro ⟨hlabel, hseparator, hcomment, entries, hentries, hrules⟩
    exact ⟨entries, hentries, _, hlabel, _, hseparator, _, hcomment, _, hrules, rfl⟩

/-! ## The texts of rules -/

/-- The text of a rule that is given as a text. -/
def Rule.text? : Rule → Option String
  | .datum (.text source) => some source
  | _ => none

/-- The text of a setting that is given as one text. -/
def Given.text? : Given → Option String
  | .rule given => given.text?
  | .table _ => none

/-- The texts in a setting that is given as a table. -/
def Given.tableTexts : Given → List String
  | .rule _ => []
  | .table entries => entries.filterMap fun entry => entry.2.text?

/-- The texts that a draft gives for rules. -/
def Draft.ruleTexts (draft : Draft) : List String :=
  draft.separator.text?.toList ++ draft.label.text?.toList ++ draft.comment.text?.toList ++
    draft.operandRules.tableTexts

/-- A text is compiled to a pattern, or it is malformed. Of the texts that are neither, one asks for
modes that clash and the other for too many repetitions. -/
def IsJudged [Text.CharacterNames] (source : String) : Prop :=
  ∀ fault, Pattern.compile source = .error fault →
    ∃ complaint position, fault = .malformed complaint position

/-! ## Resolving twice -/

/-- A label rule has groups for the name and for the rest of the line. -/
def LabelGroups (label : Option Pattern) : Prop :=
  ∀ pattern, label = some pattern → 2 ≤ pattern.groups

theorem labelGroups_of_readLabel [Text.CharacterNames] {given : Given} {label : Option Pattern}
    (h : readLabel given = .ok label) : LabelGroups label := by
  unfold readLabel at h
  split at h
  · cases h
    rintro pattern ⟨⟩
  · obtain ⟨pattern, -, hgroups⟩ := bind_eq_ok_iff.mp h
    split at hgroups
    · cases hgroups
    · cases hgroups
      rintro other ⟨⟩
      omega

theorem readLabel_toDraft [Text.CharacterNames] {settings : Settings}
    (h : LabelGroups settings.label) :
    readLabel settings.toDraft.label = .ok settings.label := by
  unfold toDraft
  dsimp only
  cases hlabel : settings.label with
  | none => rfl
  | some pattern =>
    have hgroups : ¬ pattern.groups < 2 := Nat.not_lt.mpr (h pattern hlabel)
    refine bind_eq_ok_iff.mpr ⟨pattern, rfl, ?_⟩
    rw [if_neg hgroups]
    rfl

theorem readTable_patterns [Text.CharacterNames] (table : List (String × Pattern)) :
    readTable (table.map fun entry => (entry.1, .pattern entry.2)) = .ok table := by
  induction table with
  | nil => rfl
  | cons entry rest ih =>
    rw [List.map_cons, readTable]
    exact bind_eq_ok_iff.mpr ⟨entry.2, rfl, bind_eq_ok_iff.mpr ⟨rest, ih, rfl⟩⟩

/-- Rules that are read already are kept as they are, and the groups of the label rule are counted
once more. -/
theorem resolve_toDraft_iff [Text.CharacterNames] {settings : Settings} :
    settings.toDraft.resolve = .ok settings ↔ LabelGroups settings.label := by
  refine ⟨fun h => labelGroups_of_readLabel (Draft.resolve_eq_ok_iff.mp h).1, fun h => ?_⟩
  exact Draft.resolve_eq_ok_iff.mpr
    ⟨readLabel_toDraft h, rfl, rfl, _, rfl, readTable_patterns settings.operandRules⟩

/-- Whatever a caller gives, it is a draft that settings come from. -/
theorem Overrides.exists_draft [Text.CharacterNames] {overrides : Overrides} {settings : Settings}
    (h : overrides.resolve = .ok settings) : ∃ draft : Draft, draft.resolve = .ok settings := by
  cases overrides with
  | none => exact ⟨_, h⟩
  | draft given => exact ⟨given, h⟩
  | named fields =>
    unfold Overrides.resolve at h
    dsimp only at h
    split at h
    · exact ⟨_, h⟩
    · cases h
  | datum datum => cases h

/-- Settings that came out of overrides come out of themselves again. -/
theorem Overrides.resolve_again [Text.CharacterNames] {overrides : Overrides} {settings : Settings}
    (h : overrides.resolve = .ok settings) :
    (Overrides.draft settings.toDraft).resolve = .ok settings := by
  obtain ⟨draft, hdraft⟩ := exists_draft h
  exact resolve_toDraft_iff.mpr (labelGroups_of_readLabel (Draft.resolve_eq_ok_iff.mp hdraft).1)

end AsmKit.Settings
