import AsmKit.Instruction.Search
import AsmKit.Proofs.Settings.Offences

/-! # Rules that are read when they are looked up

A draft reads the rule of an operand type whenever the type is looked up, and
reads no other; resolving the draft reads all rules beforehand. Main statement:
where a draft with a table of rules can be resolved, nothing tells the two ways
apart, neither a lookup nor what comes of the tokens of a line. -/
namespace AsmKit.Settings

section
variable [Text.CharacterNames]
variable {draft : Draft} {settings : Settings} {entries : List (String × Rule)}
  {patterns : List (String × Pattern)} {operandType : String}

/-- What a lookup in a table of rules comes to: the pattern that the rule of the type gives, or a
fault where the table has no such type. -/
inductive LooksUp (entries : List (String × Rule)) (operandType : String) :
    Except Fault Pattern → Prop
  | rule {rule : Rule} {pattern : Pattern} : entries.lookup operandType = some rule →
      rule.Gives pattern → LooksUp entries operandType (.ok pattern)
  | missing : entries.lookup operandType = none →
      LooksUp entries operandType (.error (.noRule operandType))

/-- The first entry of a type stands where the first pattern of the type does. -/
theorem lookup_cases (h : (Given.table entries).GivesTable patterns) (operandType : String) :
    (entries.lookup operandType = none ∧ patterns.lookup operandType = none) ∨
      ∃ rule pattern, entries.lookup operandType = some rule ∧ rule.Gives pattern ∧
        patterns.lookup operandType = some pattern := by
  cases h with
  | table h =>
    induction h with
    | nil => exact .inl ⟨rfl, rfl⟩
    | @cons entry named _ _ hentry _ ih =>
      obtain ⟨name, rule⟩ := entry
      obtain ⟨_, pattern⟩ := named
      obtain ⟨rfl, hgives⟩ := hentry
      simp only [List.lookup_cons]
      cases operandType == name with
      | true => exact .inr ⟨rule, pattern, rfl, hgives, rfl⟩
      | false => exact ih

/-! ## The two ways -/

theorem operandRule_looksUp (h : (Given.table entries).GivesTable settings.operandRules)
    (operandType : String) : LooksUp entries operandType (settings.operandRule operandType) := by
  rw [operandRule]
  rcases lookup_cases h operandType with ⟨hnone, hnone'⟩ | ⟨rule, pattern, hrule, hgives, hpattern⟩
  · rw [hnone']
    exact .missing hnone
  · rw [hpattern]
    exact .rule hrule hgives

/-- A lookup in a draft reads the rule of the type alone. -/
theorem LooksUp.draft_operandRule {outcome : Except Fault Pattern}
    (h : LooksUp entries operandType outcome) (hentries : draft.operandRules = .table entries) :
    draft.operandRule operandType = outcome := by
  rw [Draft.operandRule, hentries]
  cases h with
  | missing hnone => simp only [hnone]
  | @rule rule pattern hrule hgives =>
    have hread : readRule (operandRuleName operandType) rule = .ok pattern :=
      readRule_eq_ok_iff.mpr hgives
    -- no rule that gives a pattern is a null, which would stand for a missing one
    cases hgives with
    | pattern | text => simpa only [hrule] using hread

/-- Settings look up as the draft does whose rules are all read already. -/
theorem toDraft_operandRule (settings : Settings) (operandType : String) :
    settings.toDraft.operandRule operandType = settings.operandRule operandType := by
  have hgives : settings.toDraft.operandRules.GivesTable settings.operandRules := by
    refine .table (List.forall₂_map_left_iff.mpr (List.forall₂_same.mpr ?_))
    exact fun entry _ => ⟨rfl, .pattern entry.2⟩
  exact (operandRule_looksUp hgives operandType).draft_operandRule rfl

/-- Where a draft with a table of rules can be resolved, it does not matter whether a rule is read
at each lookup or all of them were read before. Each type has the pattern that its own rule gives,
or the fault that it has no rule, and so each form reads any tokens alike, and the search among any
forms ends alike, with the same refusals on the way. -/
theorem late_reading_agrees (hentries : draft.operandRules = .table entries)
    (hresolve : draft.resolve = .ok settings) :
    (∀ operandType, LooksUp entries operandType (draft.operandRule operandType) ∧
      settings.operandRule operandType = draft.operandRule operandType ∧
      settings.toDraft.operandRule operandType = draft.operandRule operandType) ∧
    ∀ (α : Type) (tokens : List String) (lineNumber : Int) (text : String),
      (∀ form : InstructionForm α,
        form.read draft.operandRule tokens lineNumber text =
          form.read settings.operandRule tokens lineNumber text) ∧
      ∀ (forms : List (InstructionForm α)) (mnemonic : String),
        let late := FormSearch.run draft.operandRule mnemonic tokens lineNumber text forms
        let early := FormSearch.run settings.operandRule mnemonic tokens lineNumber text forms
        late.answer mnemonic = early.answer mnemonic ∧
          late.events lineNumber = early.events lineNumber := by
  obtain ⟨-, -, -, hgives⟩ := draft_resolve_eq_ok_iff.mp hresolve
  rw [hentries] at hgives
  have hlookup : ∀ operandType, LooksUp entries operandType (settings.operandRule operandType) :=
    operandRule_looksUp hgives
  have hagree : draft.operandRule = settings.operandRule :=
    funext fun operandType => (hlookup operandType).draft_operandRule hentries
  rw [hagree]
  refine ⟨fun operandType => ⟨hlookup operandType, rfl, ?_⟩, fun α tokens lineNumber text => ?_⟩
  · exact toDraft_operandRule settings operandType
  · exact ⟨fun form => rfl, fun forms mnemonic => ⟨rfl, rfl⟩⟩

end

/-- A table with a text, which is compiled at each lookup, and a pattern that is compiled already.
-/
def mixedTable : List (String × Rule) :=
  [("digit", .datum (.text "^\\d$")), ("reg", .pattern registerPattern)]

section
open scoped Text.Nameless

theorem mixedTable_read_late : ∃ settings,
    ({ operandRules := .table mixedTable } : Draft).resolve = .ok settings ∧
    settings.operandRule "reg" = .ok registerPattern ∧
    settings.operandRule "label" = .error (.noRule "label") ∧
    (⟨"add", ["reg", "digit"], some 7⟩ : InstructionForm Nat).read
        (Draft.operandRule { operandRules := .table mixedTable }) ["x", "12"] 4 "add" =
      (⟨"add", ["reg", "digit"], some 7⟩ : InstructionForm Nat).read
        settings.operandRule ["x", "12"] 4 "add" := by
  have hsome : (Draft.resolve { operandRules := .table mixedTable }).toOption.isSome := by
    decide +kernel
  obtain ⟨settings, hsettings⟩ := Option.isSome_iff_exists.mp hsome
  have hresolve := eq_ok_of_toOption hsettings
  obtain ⟨hlookup, hread⟩ := late_reading_agrees rfl hresolve
  exact ⟨settings, hresolve, (hlookup "reg").2.1, (hlookup "label").2.1, (hread Nat _ 4 "add").1 _⟩

end

/-- Without a table the two ways differ: no type is found in one that is left out, which resolving
takes for the default one. -/
example [Text.CharacterNames] : ({} : Draft).operandRule "imm" = .error (.noRule "imm") ∧
    standard.operandRule "imm" = .ok numberPattern := ⟨rfl, rfl⟩

end AsmKit.Settings
