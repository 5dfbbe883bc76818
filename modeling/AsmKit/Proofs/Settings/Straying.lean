import AsmKit.Proofs.Pattern.Warranted
import AsmKit.Proofs.Settings.Offences

/-! # Faults that are none of the configuration

A rule whose text is no pattern is a fault of the configuration, with two
exceptions: texts that set two classes of characters and texts that ask for too
many repetitions, or in too many digits. They are reported in another way
wherever the rule stands. Apart from them, only the lookup of a rule in what is
no table goes astray. -/
namespace AsmKit.Settings
open Pattern (Overflows Sets warrants_of_compile)

section
variable [Text.CharacterNames]

/-- The fault of a text for a rule that is not reported as one of the configuration. -/
inductive Strays (source : String) : Pattern.Fault → FaultKind → Prop
  | modeClash : Sets source.toList .ascii → Sets source.toList .unicode →
      Strays source .modeClash .badValue
  | repetitionTooLarge : Overflows source.toList .repetitionTooLarge →
      Strays source .repetitionTooLarge .tooLarge
  | numberTooLong {digits : Nat} : Overflows source.toList (.numberTooLong digits) →
      Strays source (.numberTooLong digits) .badValue

/-- A fault that one of the texts has as a pattern, and that is none of the configuration. -/
def StraysFrom (texts : List String) (fault : Fault) : Prop :=
  ∃ name, ∃ source ∈ texts, ∃ cause, fault = .badPattern name source cause ∧
    Pattern.compile source = .error cause ∧ Strays source cause fault.kind

/-- The texts that a caller gives for rules. -/
def Overrides.ruleTexts : Overrides → List String
  | .none | .datum _ => []
  | .draft given => given.ruleTexts
  | .named fields => (Draft.ofFields fields).ruleTexts

variable {fault : Fault}

theorem strays_of_compile {source : String} {cause : Pattern.Fault} (name : String)
    (h : Pattern.compile source = .error cause) :
    (Fault.badPattern name source cause).kind = .configuration ∨
      Strays source cause (Fault.badPattern name source cause).kind := by
  have hwarrants := warrants_of_compile h
  cases cause with
  | malformed complaint position => exact .inl rfl
  | modeClash => exact .inr (.modeClash hwarrants.1 hwarrants.2)
  | repetitionTooLarge => exact .inr (.repetitionTooLarge hwarrants)
  | numberTooLong digits => exact .inr (.numberTooLong hwarrants)

theorem Rule.Fails.straysFrom {name : String} {rule : Rule} {texts : List String}
    (h : rule.Fails name fault) (htexts : ∀ source ∈ rule.text?, source ∈ texts) :
    fault.kind = .configuration ∨ StraysFrom texts fault := by
  cases h with
  | text hcompile =>
    refine (strays_of_compile name hcompile).imp id fun hstrays => ?_
    exact ⟨name, _, htexts _ rfl, _, rfl, hcompile, hstrays⟩
  | shape _ => exact .inl rfl

theorem Given.FailsRule.straysFrom {name : String} {given : Given} {texts : List String}
    (h : given.FailsRule name fault) (htexts : ∀ source ∈ given.text?, source ∈ texts) :
    fault.kind = .configuration ∨ StraysFrom texts fault := by
  cases h with
  | rule _ hfails => exact hfails.straysFrom htexts
  | table _ => exact .inl rfl

omit [Text.CharacterNames] in
theorem Given.IsNoTable.kind {given : Given} (h : given.IsNoTable fault) :
    fault.kind = .configuration := by
  cases h
  rfl

theorem Given.LacksGroups.kind {given : Given} (h : given.LacksGroups fault) :
    fault.kind = .configuration := by
  cases h
  rfl

omit [Text.CharacterNames] in
theorem mem_tableTexts {given : Given} {entry : String × Rule} (hentry : entry ∈ given.entries)
    {source : String} (hsource : source ∈ entry.2.text?) : source ∈ given.tableTexts := by
  cases given with
  | rule rule => cases hentry
  | table entries => exact List.mem_filterMap.mpr ⟨entry, hentry, hsource⟩

theorem draft_straysFrom {draft : Draft} (h : draft.resolve = .error fault) :
    fault.kind = .configuration ∨ StraysFrom draft.ruleTexts fault := by
  have htexts : ∀ source, source ∈ draft.ruleTexts ↔
      source ∈ draft.separator.text? ∨ source ∈ draft.label.text? ∨
        source ∈ draft.comment.text? ∨ source ∈ draft.operandRules.tableTexts := by
    simp [Draft.ruleTexts]
  obtain ⟨offence, hstops, hfault⟩ := (reports_draft draft fault).mp h
  rcases List.mem_append.mp hstops.mem with hmem | hmem
  · simp only [List.mem_cons, List.not_mem_nil, or_false] at hmem
    rcases hmem with rfl | rfl | rfl | rfl | rfl
    · exact .inl hfault.kind
    · exact hfault.2.straysFrom fun source hsource => (htexts source).mpr (by simp [hsource])
    · exact .inl hfault.kind
    · exact hfault.straysFrom fun source hsource => (htexts source).mpr (by simp [hsource])
    · exact hfault.straysFrom fun source hsource => (htexts source).mpr (by simp [hsource])
  · obtain ⟨entry, hentry, rfl⟩ := List.mem_map.mp hmem
    exact hfault.straysFrom fun source hsource =>
      (htexts source).mpr (.inr (.inr (.inr (mem_tableTexts hentry hsource))))

/-- Settings whose rules are patterns, malformed texts or no texts at all are resolved, or they are
at fault. -/
theorem Draft.resolve_fault {draft : Draft} (hjudged : ∀ source ∈ draft.ruleTexts, IsJudged source)
    (h : draft.resolve = .error fault) : fault.kind = .configuration := by
  refine (draft_straysFrom h).resolve_right ?_
  rintro ⟨name, source, hmem, cause, rfl, hcompile, hstrays⟩
  obtain ⟨complaint, position, rfl⟩ := hjudged source hmem cause hcompile
  cases hstrays

section Places
variable {source : String} {cause : Pattern.Fault}

end Places

end

section
open scoped Text.Nameless

end

end AsmKit.Settings
