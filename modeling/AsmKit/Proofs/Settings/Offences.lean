import AsmKit.Proofs.First
import AsmKit.Proofs.Settings.Resolving
import Mathlib.Data.List.Forall2

/-! # Settings by name, one by one

What a setting comes to depends on what is given under its own name and on
nothing else. Main statement: settings by name are resolved exactly if all names
are known and each setting comes to something, and the fault of any others is
the first offence in a fixed order. -/
namespace AsmKit.Settings

section
variable [Text.CharacterNames]

/-! ## What a setting comes to -/

/-- The pattern that a rule gives: itself, or what its text is compiled to. -/
inductive Rule.Gives : Rule → Pattern → Prop
  | pattern (pattern : Pattern) : Gives (.pattern pattern) pattern
  | text {source : String} {pattern : Pattern} :
      Pattern.compile source = .ok pattern → Gives (.datum (.text source)) pattern

/-- Why a rule gives no pattern; `name` is its name in faults. -/
inductive Rule.Fails (name : String) : Rule → Fault → Prop
  | text {source : String} {cause : Pattern.Fault} :
      Pattern.compile source = .error cause →
      Fails name (.datum (.text source)) (.badPattern name source cause)
  | shape {datum : Datum} :
      (∀ source, datum ≠ .text source) → Fails name (.datum datum) (.ruleNotText name)

/-- A setting that is true or false. -/
def Given.switch (on : Bool) : Given := .rule (.datum (.bool on))

/-- The pattern of a setting that is one rule: the default one where it is left out. -/
inductive Given.GivesRule (default : Pattern) : Given → Pattern → Prop
  | absent : GivesRule default .absent default
  | rule {rule : Rule} {pattern : Pattern} :
      rule.Gives pattern → GivesRule default (.rule rule) pattern

/-- Why a setting that should be one rule is none. -/
inductive Given.FailsRule (name : String) : Given → Fault → Prop
  | rule {rule : Rule} {fault : Fault} :
      Given.rule rule ≠ .absent → rule.Fails name fault → FailsRule name (.rule rule) fault
  | table (entries : List (String × Rule)) : FailsRule name (.table entries) (.ruleNotText name)

/-- The pattern of labels, or none where they are off. -/
inductive Given.GivesLabel : Given → Option Pattern → Prop
  | absent : GivesLabel .absent standard.label
  | on : GivesLabel (.switch true) standard.label
  | off : GivesLabel (.switch false) none
  | rule {rule : Rule} {pattern : Pattern} :
      rule.Gives pattern → 2 ≤ pattern.groups → GivesLabel (.rule rule) (some pattern)

/-- Why the label setting is no rule. -/
def Given.FailsLabel (given : Given) (fault : Fault) : Prop :=
  (∀ on, given ≠ .switch on) ∧ given.FailsRule "label" fault

/-- The label rule has no groups for the name and for the rest of the line. -/
inductive Given.LacksGroups : Given → Fault → Prop
  | rule {rule : Rule} {pattern : Pattern} :
      rule.Gives pattern → pattern.groups < 2 → LacksGroups (.rule rule) .fewLabelGroups

/-- The patterns of operands: those of the entries and no others, or the default ones where the
table is left out. -/
inductive Given.GivesTable : Given → List (String × Pattern) → Prop
  | absent : GivesTable .absent standard.operandRules
  | table {entries : List (String × Rule)} {patterns : List (String × Pattern)} :
      List.Forall₂ (fun entry named => entry.1 = named.1 ∧ entry.2.Gives named.2)
        entries patterns → GivesTable (.table entries) patterns

/-- Operand rules are given, and not as a table. -/
inductive Given.IsNoTable : Given → Fault → Prop
  | rule {rule : Rule} : Given.rule rule ≠ .absent → IsNoTable (.rule rule) .rulesNotTable

/-- The entries of a setting that is a table. -/
def Given.entries : Given → List (String × Rule)
  | .rule _ => []
  | .table entries => entries

/-- Some of the given names are those of no settings. The fault lists all of them in order. -/
inductive Unknown (given : List String) : Fault → Prop
  | names {unknown : List String} :
      unknown ≠ [] → unknown.Perm (given.filter fun name => name ∉ names) →
      unknown.Pairwise (· ≤ ·) → Unknown given (.unknownNames unknown)

/-- What is given under a name; a name that is missing is left out. -/
def givenUnder (fields : List (String × Given)) (name : String) : Given :=
  (fields.lookup name).getD .absent

/-- The offences that settings by name can commit, in the order in which they are looked for. -/
def offences (fields : List (String × Given)) : List (Fault → Prop) :=
  let given := givenUnder fields
  [Unknown (fields.map (·.1)), (given "syntax").IsNoTable, (given "label").FailsLabel,
    (given "label").LacksGroups, (given "separator").FailsRule "separator",
    (given "comment").FailsRule "comment"] ++
  (given "syntax").entries.map fun entry => entry.2.Fails (operandRuleName entry.1)

/-! ## The first offence -/

/-- An offence that is not committed. -/
def Clear (offence : Fault → Prop) : Prop := ∀ fault, ¬ offence fault

/-- The fault of the first offence that is committed. -/
def FirstOffence (offences : List (Fault → Prop)) (fault : Fault) : Prop :=
  ∃ offence, StopsAt Clear offences offence ∧ offence fault

/-- An outcome is at fault exactly as the first of the offences says. -/
def Reports {α : Type} (offences : List (Fault → Prop)) (outcome : Except Fault α) : Prop :=
  ∀ fault, outcome = .error fault ↔ FirstOffence offences fault

end

section Reports
variable {α β : Type} {first later : List (Fault → Prop)}

theorem clear_or_firstOffence (offences : List (Fault → Prop)) :
    (∀ offence ∈ offences, Clear offence) ∨ ∃ fault, FirstOffence offences fault := by
  rcases StopsAt.exists_or_all Clear offences with hall | ⟨offence, hstops⟩
  · exact .inl hall
  · obtain ⟨fault, hfault⟩ := not_forall_not.mp hstops.not_skips
    exact .inr ⟨fault, offence, hstops, hfault⟩

theorem not_firstOffence (h : ∀ offence ∈ first, Clear offence) {fault : Fault} :
    ¬ FirstOffence first fault := by
  rintro ⟨offence, hstops, -⟩
  exact hstops.not_skips (h offence hstops.mem)

/-- Offences that are not committed leave the fault to those behind them. -/
theorem firstOffence_append_of_clear (h : ∀ offence ∈ first, Clear offence) {fault : Fault} :
    FirstOffence (first ++ later) fault ↔ FirstOffence later fault := by
  constructor
  · rintro ⟨offence, hstops, hfault⟩
    rcases clear_or_firstOffence later with hclear | ⟨_, other, hstops', -⟩
    · have hall : ∀ offence ∈ first ++ later, Clear offence := by
        intro offence hmem
        exact (List.mem_append.mp hmem).elim (h offence) (hclear offence)
      exact absurd ⟨offence, hstops, hfault⟩ (not_firstOffence hall)
    · obtain rfl := hstops.unique (hstops'.behind h)
      exact ⟨offence, hstops', hfault⟩
  · rintro ⟨offence, hstops, hfault⟩
    exact ⟨offence, hstops.behind h, hfault⟩

/-- Behind an offence that is committed, no other matters. -/
theorem firstOffence_append_of_firstOffence {other : Fault} (h : FirstOffence first other)
    {fault : Fault} : FirstOffence (first ++ later) fault ↔ FirstOffence first fault := by
  obtain ⟨committed, hcommitted, -⟩ := h
  constructor
  · rintro ⟨offence, hstops, hfault⟩
    obtain rfl := hstops.unique (hcommitted.append later)
    exact ⟨offence, hcommitted, hfault⟩
  · rintro ⟨offence, hstops, hfault⟩
    exact ⟨offence, hstops.append later, hfault⟩

theorem Reports.clear {outcome : Except Fault α} (h : Reports first outcome) {value : α}
    (hok : outcome = .ok value) : ∀ offence ∈ first, Clear offence := by
  rcases clear_or_firstOffence first with hclear | ⟨fault, hfault⟩
  · exact hclear
  · cases hok.symm.trans ((h fault).mpr hfault)

theorem reports_ok (h : ∀ offence ∈ first, Clear offence) (value : α) :
    Reports first (.ok value : Except Fault α) :=
  fun _ => ⟨fun herror => (nomatch herror), fun hfirst => absurd hfirst (not_firstOffence h)⟩

theorem reports_singleton {offence : Fault → Prop} {outcome : Except Fault α}
    (h : ∀ fault, outcome = .error fault ↔ offence fault) : Reports [offence] outcome := by
  intro fault
  rw [h fault]
  constructor
  · intro hfault
    exact ⟨offence, .head (fun hclear => hclear fault hfault), hfault⟩
  · rintro ⟨other, hstops, hfault⟩
    rcases StopsAt.cons_iff.mp hstops with ⟨rfl, -⟩ | ⟨-, hnone⟩
    · exact hfault
    · cases hnone.mem

/-- Of two readings, the offences of the first are looked for first. -/
theorem Reports.bind {outcome : Except Fault α} {next : α → Except Fault β}
    (hfirst : Reports first outcome)
    (hlater : ∀ value, outcome = .ok value → Reports later (next value)) :
    Reports (first ++ later) (outcome >>= next) := by
  intro fault
  cases houtcome : outcome with
  | error other =>
    rw [firstOffence_append_of_firstOffence ((hfirst other).mp houtcome), ← hfirst fault, houtcome,
      bind_eq_error_iff]
    simp
  | ok value =>
    rw [firstOffence_append_of_clear (hfirst.clear houtcome), ← hlater value houtcome fault]
    exact .rfl

/-- An offence that is looked for alone, in front of the others. -/
theorem reports_cons {offence : Fault → Prop} {outcome : Except Fault α} {next : α → Except Fault β}
    (hfirst : ∀ fault, outcome = .error fault ↔ offence fault)
    (hlater : ∀ value, outcome = .ok value → Reports later (next value)) :
    Reports (offence :: later) (outcome >>= next) :=
  (reports_singleton hfirst).bind hlater

theorem Reports.map {outcome : Except Fault α} (h : Reports first outcome) (f : α → β) :
    Reports first (outcome >>= fun value => .ok (f value)) := by
  have hmap := h.bind fun value _ => reports_ok (List.forall_mem_nil _) (f value)
  rwa [List.append_nil] at hmap

end Reports

/-! ## Rules -/

section Rules
variable [Text.CharacterNames]
variable {name default : String} {rule : Rule} {given : Given} {standardPattern : Pattern}

theorem readRule_eq_ok_iff {pattern : Pattern} :
    readRule name rule = .ok pattern ↔ rule.Gives pattern := by
  constructor
  · intro h
    unfold readRule at h
    split at h
    · cases h
      exact .pattern _
    · split at h
      · cases h
        exact .text ‹_›
      · cases h
    · cases h
  · rintro (_ | ⟨hcompile⟩)
    · rfl
    · rw [readRule, hcompile]

theorem readRule_eq_error_iff {fault : Fault} :
    readRule name rule = .error fault ↔ rule.Fails name fault := by
  constructor
  · intro h
    unfold readRule at h
    split at h
    · cases h
    · split at h
      · cases h
      · cases h
        exact .text ‹_›
    · cases h
      exact .shape ‹_›
  · rintro (⟨hcompile⟩ | ⟨hshape⟩)
    · rw [readRule, hcompile]
    · rw [readRule]
      exact hshape

theorem Rule.Gives.unique {pattern other : Pattern} (h : rule.Gives pattern)
    (h' : rule.Gives other) : pattern = other := by
  have hread : readRule "" rule = .ok pattern := readRule_eq_ok_iff.mpr h
  exact Except.ok.inj (hread.symm.trans (readRule_eq_ok_iff.mpr h'))

theorem readGiven_rule (h : Given.rule rule ≠ .absent) :
    readGiven name default (.rule rule) = readRule name rule := by
  cases rule with
  | pattern pattern => rfl
  | datum datum =>
    cases datum with
    | null => exact absurd rfl h
    | bool _ | int _ | float _ | text _ | list _ | record _ => rfl

theorem ne_absent_of_gives {pattern : Pattern} (h : rule.Gives pattern) :
    Given.rule rule ≠ .absent := by
  cases h <;> nofun

theorem readGiven_eq_ok_iff (hdefault : readGiven name default .absent = .ok standardPattern)
    {pattern : Pattern} :
    readGiven name default given = .ok pattern ↔ given.GivesRule standardPattern pattern := by
  constructor
  · intro h
    cases given with
    | table entries => cases h
    | rule rule =>
      by_cases habsent : Given.rule rule = .absent
      · rw [habsent] at h ⊢
        cases hdefault.symm.trans h
        exact .absent
      · rw [readGiven_rule habsent] at h
        exact .rule (readRule_eq_ok_iff.mp h)
  · rintro (_ | ⟨hgives⟩)
    · exact hdefault
    · rw [readGiven_rule (ne_absent_of_gives hgives)]
      exact readRule_eq_ok_iff.mpr hgives

theorem readGiven_eq_error_iff (hdefault : readGiven name default .absent = .ok standardPattern)
    {fault : Fault} :
    readGiven name default given = .error fault ↔ given.FailsRule name fault := by
  constructor
  · intro h
    cases given with
    | table entries =>
      cases h
      exact .table entries
    | rule rule =>
      by_cases habsent : Given.rule rule = .absent
      · rw [habsent, hdefault] at h
        cases h
      · rw [readGiven_rule habsent] at h
        exact .rule habsent (readRule_eq_error_iff.mp h)
  · rintro (⟨habsent, hfails⟩ | entries)
    · rw [readGiven_rule habsent]
      exact readRule_eq_error_iff.mpr hfails
    · rfl

/-! ## The standard rules -/

theorem resolve_absent : ({} : Draft).resolve = .ok standard := resolve_none

theorem readGiven_separator_absent :
    readGiven "separator" standardSeparator .absent = .ok standard.separator :=
  (Draft.resolve_eq_ok_iff.mp resolve_absent).2.1

theorem readGiven_comment_absent :
    readGiven "comment" standardComment .absent = .ok standard.comment :=
  (Draft.resolve_eq_ok_iff.mp resolve_absent).2.2.1

theorem readLabel_absent : readLabel .absent = .ok standard.label :=
  (Draft.resolve_eq_ok_iff.mp resolve_absent).1

theorem readGiven_label_absent : readGiven "label" standardLabel .absent = .ok labelPattern := by
  obtain ⟨pattern, hpattern, hgroups⟩ := bind_eq_ok_iff.mp readLabel_absent
  split at hgroups
  · cases hgroups
  · cases hgroups
    exact hpattern

end Rules

/-! ## Labels -/

section Labels
variable [Text.CharacterNames] {given : Given}

/-- A label setting that is no switch is read as a rule, whose groups are counted. -/
theorem readLabel_eq (h : ∀ on, given ≠ .switch on) :
    readLabel given = do
      let pattern ← readGiven "label" standardLabel given
      if pattern.groups < 2 then throw .fewLabelGroups
      return some pattern := by
  unfold readLabel
  split
  · exact absurd rfl (h false)
  · split
    · exact absurd rfl (h true)
    · rfl

theorem readLabel_eq_ok_iff {label : Option Pattern} :
    readLabel given = .ok label ↔ given.GivesLabel label := by
  by_cases hswitch : ∀ on, given ≠ .switch on
  · rw [readLabel_eq hswitch, bind_eq_ok_iff]
    simp only [readGiven_eq_ok_iff readGiven_label_absent]
    constructor
    · rintro ⟨pattern, hgives, hgroups⟩
      split at hgroups
      · cases hgroups
      · cases hgroups
        cases hgives with
        | absent => exact .absent
        | rule hrule => exact .rule hrule (by omega)
    · intro hgives
      cases hgives with
      | absent => exact ⟨labelPattern, .absent, rfl⟩
      | on => exact absurd rfl (hswitch true)
      | off => exact absurd rfl (hswitch false)
      | rule hrule hgroups => exact ⟨_, .rule hrule, by rw [if_neg (by omega)]; rfl⟩
  · obtain ⟨on, hon⟩ := not_forall_not.mp hswitch
    subst hon
    cases on with
    | true =>
      rw [show readLabel (.switch true) = .ok standard.label from readLabel_absent]
      constructor
      · rintro ⟨⟩
        exact .on
      · rintro (_ | _ | _ | ⟨⟨⟩, _⟩)
        rfl
    | false =>
      rw [show readLabel (.switch false) = .ok none from rfl]
      constructor
      · rintro ⟨⟩
        exact .off
      · rintro (_ | _ | _ | ⟨⟨⟩, _⟩)
        rfl

theorem reports_groups {pattern : Pattern} (hgives : given.GivesRule labelPattern pattern) :
    Reports [given.LacksGroups] (do
      if pattern.groups < 2 then throw .fewLabelGroups
      return some pattern) := by
  refine reports_singleton fun fault => ?_
  constructor
  · intro h
    split at h
    · cases h
      cases hgives with
      | absent => exact absurd ‹labelPattern.groups < 2› (by decide)
      | rule hrule => exact .rule hrule ‹_›
    · cases h
  · rintro ⟨hrule, hfew⟩
    cases hgives with
    | absent => cases hrule
    | rule hrule' =>
      obtain rfl := hrule.unique hrule'
      rw [if_pos hfew]
      rfl

theorem reports_readLabel : Reports [given.FailsLabel, given.LacksGroups] (readLabel given) := by
  by_cases hswitch : ∀ on, given ≠ .switch on
  · rw [readLabel_eq hswitch]
    refine reports_cons (fun fault => ?_) fun pattern hpattern =>
      reports_groups ((readGiven_eq_ok_iff readGiven_label_absent).mp hpattern)
    rw [readGiven_eq_error_iff readGiven_label_absent]
    exact ⟨fun h => ⟨hswitch, h⟩, And.right⟩
  · obtain ⟨on, hon⟩ := not_forall_not.mp hswitch
    subst hon
    have hclear : ∀ offence ∈ [(Given.switch on).FailsLabel, (Given.switch on).LacksGroups],
        Clear offence := by
      refine List.forall_mem_cons.mpr ⟨fun fault h => h.1 on rfl, ?_⟩
      refine List.forall_mem_cons.mpr ⟨?_, List.forall_mem_nil _⟩
      rintro fault ⟨⟨⟩, -⟩
    cases on with
    | true => exact readLabel_absent.symm ▸ reports_ok hclear standard.label
    | false => exact reports_ok hclear none

end Labels

/-! ## Tables -/

section Tables
variable {given : Given} {entries : List (String × Rule)}

theorem tableEntries_rule {rule : Rule} (h : Given.rule rule ≠ .absent) :
    tableEntries (.rule rule) = .error .rulesNotTable := by
  cases rule with
  | pattern pattern => rfl
  | datum datum =>
    cases datum with
    | null => exact absurd rfl h
    | bool _ | int _ | float _ | text _ | list _ | record _ => rfl

/-- The entries are those of the table that is given, or those of the default one. -/
theorem tableEntries_cases (h : tableEntries given = .ok entries) :
    given = .absent ∨ given = .table entries := by
  cases given with
  | rule rule =>
    refine .inl (Classical.byContradiction fun hne => ?_)
    rw [tableEntries_rule hne] at h
    cases h
  | table others =>
    cases h
    exact .inr rfl

theorem reports_tableEntries (given : Given) :
    Reports [given.IsNoTable] (tableEntries given) := by
  refine reports_singleton fun fault => ?_
  constructor
  · intro h
    cases given with
    | rule rule =>
      by_cases habsent : Given.rule rule = .absent
      · rw [habsent] at h
        cases h
      · rw [tableEntries_rule habsent] at h
        cases h
        exact .rule habsent
    | table entries => cases h
  · rintro ⟨habsent⟩
    exact tableEntries_rule habsent

variable [Text.CharacterNames]

theorem readTable_eq_ok_iff {patterns : List (String × Pattern)} :
    readTable entries = .ok patterns ↔
      List.Forall₂ (fun entry named => entry.1 = named.1 ∧ entry.2.Gives named.2)
        entries patterns := by
  induction entries generalizing patterns with
  | nil => simp [readTable, eq_comm]
  | cons entry rest ih =>
    obtain ⟨operandType, rule⟩ := entry
    rw [readTable, List.forall₂_cons_left_iff]
    simp only [bind_eq_ok_iff, readRule_eq_ok_iff, ih]
    constructor
    · rintro ⟨pattern, hrule, others, hothers, hpatterns⟩
      cases hpatterns
      exact ⟨(operandType, pattern), others, ⟨rfl, hrule⟩, hothers, rfl⟩
    · rintro ⟨⟨_, pattern⟩, others, ⟨rfl, hrule⟩, hothers, rfl⟩
      exact ⟨pattern, hrule, others, hothers, rfl⟩

theorem reports_readTable (entries : List (String × Rule)) :
    Reports (entries.map fun entry => entry.2.Fails (operandRuleName entry.1))
      (readTable entries) := by
  induction entries with
  | nil => exact reports_ok (List.forall_mem_nil _) []
  | cons entry rest ih =>
    obtain ⟨operandType, rule⟩ := entry
    refine reports_cons (fun _ => readRule_eq_error_iff) fun pattern _ => ?_
    exact ih.map fun patterns => (operandType, pattern) :: patterns

theorem readTable_absent (h : tableEntries .absent = .ok entries) :
    readTable entries = .ok standard.operandRules := by
  obtain ⟨-, -, -, others, hothers, hrules⟩ := Draft.resolve_eq_ok_iff.mp resolve_absent
  cases hothers.symm.trans h
  exact hrules

theorem givesTable_iff {patterns : List (String × Pattern)} : given.GivesTable patterns ↔
    ∃ entries, tableEntries given = .ok entries ∧ readTable entries = .ok patterns := by
  constructor
  · rintro (_ | ⟨hpatterns⟩)
    · exact ⟨_, rfl, readTable_absent rfl⟩
    · exact ⟨_, rfl, readTable_eq_ok_iff.mpr hpatterns⟩
  · rintro ⟨entries, hentries, hpatterns⟩
    rcases tableEntries_cases hentries with rfl | rfl
    · cases (readTable_absent hentries).symm.trans hpatterns
      exact .absent
    · exact .table (readTable_eq_ok_iff.mp hpatterns)

theorem reports_entries (h : tableEntries given = .ok entries) :
    Reports (given.entries.map fun entry => entry.2.Fails (operandRuleName entry.1))
      (readTable entries) := by
  rcases tableEntries_cases h with rfl | rfl
  · rw [readTable_absent h]
    exact reports_ok (List.forall_mem_nil _) _
  · exact reports_readTable entries

end Tables

/-! ## Names -/

theorem unknownNames_perm (given : List String) :
    (unknownNames given).Perm (given.filter fun name => name ∉ names) := by
  have hfilter : (given.filter fun name => !names.contains name) =
      given.filter fun name => name ∉ names := by
    simp
  rw [unknownNames, hfilter]
  exact List.mergeSort_perm _ _

theorem not_lt_iff_le {a b : String} : (!decide (b < a)) = true ↔ a ≤ b := by
  rw [Bool.not_eq_true', decide_eq_false_iff_not, String.not_lt]

theorem unknownNames_pairwise (given : List String) :
    (unknownNames given).Pairwise (· ≤ ·) := by
  have htrans : ∀ a b c : String, (!decide (b < a)) = true → (!decide (c < b)) = true →
      (!decide (c < a)) = true := by
    intro a b c hab hbc
    rw [not_lt_iff_le] at hab hbc ⊢
    exact String.le_trans hab hbc
  have htotal : ∀ a b : String, (!decide (b < a) || !decide (a < b)) = true := by
    intro a b
    rw [Bool.or_eq_true, not_lt_iff_le, not_lt_iff_le]
    exact String.le_total a b
  have hsorted := List.pairwise_mergeSort htrans htotal
    (given.filter fun name => !names.contains name)
  exact hsorted.imp not_lt_iff_le.mp

/-- Refuses names that no setting has. -/
def refuseUnknown (given : List String) : Except Fault Unit :=
  match unknownNames given with
  | [] => .ok ()
  | unknown => .error (.unknownNames unknown)

theorem refuseUnknown_eq_ok_iff {given : List String} {value : Unit} :
    refuseUnknown given = .ok value ↔ ∀ name ∈ given, name ∈ names := by
  have hnil : unknownNames given = [] ↔ ∀ name ∈ given, name ∈ names := by
    rw [← List.length_eq_zero_iff, (unknownNames_perm given).length_eq, List.length_eq_zero_iff]
    simp
  rw [← hnil]
  unfold refuseUnknown
  split
  · simpa using ‹_›
  · simpa using ‹_›

theorem reports_refuseUnknown (given : List String) :
    Reports [Unknown given] (refuseUnknown given) := by
  refine reports_singleton fun fault => ?_
  unfold refuseUnknown
  constructor
  · intro h
    split at h
    · cases h
    · cases h
      exact .names ‹_› (unknownNames_perm given) (unknownNames_pairwise given)
  · rintro ⟨hne, hperm, hsorted⟩
    obtain rfl := (hperm.trans (unknownNames_perm given).symm).eq_of_pairwise
      (fun _ _ _ _ => String.le_antisymm) hsorted (unknownNames_pairwise given)
    split
    · exact absurd ‹_› hne
    · rfl

theorem resolve_named [Text.CharacterNames] (fields : List (String × Given)) :
    (Overrides.named fields).resolve =
      refuseUnknown (fields.map (·.1)) >>= fun _ => (Draft.ofFields fields).resolve := by
  unfold Overrides.resolve refuseUnknown
  dsimp only
  cases unknownNames (fields.map (·.1)) <;> rfl

/-! ## All settings -/

theorem draft_resolve_eq_ok_iff [Text.CharacterNames] {draft : Draft} {settings : Settings} :
    draft.resolve = .ok settings ↔
      draft.separator.GivesRule standard.separator settings.separator ∧
      draft.label.GivesLabel settings.label ∧
      draft.comment.GivesRule standard.comment settings.comment ∧
      draft.operandRules.GivesTable settings.operandRules := by
  rw [Draft.resolve_eq_ok_iff, readLabel_eq_ok_iff, readGiven_eq_ok_iff readGiven_separator_absent,
    readGiven_eq_ok_iff readGiven_comment_absent, givesTable_iff, and_left_comm]

theorem reports_draft [Text.CharacterNames] (draft : Draft) :
    Reports ([draft.operandRules.IsNoTable, draft.label.FailsLabel, draft.label.LacksGroups,
        draft.separator.FailsRule "separator", draft.comment.FailsRule "comment"] ++
      draft.operandRules.entries.map fun entry => entry.2.Fails (operandRuleName entry.1))
      draft.resolve := by
  refine (reports_tableEntries draft.operandRules).bind fun entries hentries => ?_
  refine reports_readLabel.bind fun label _ => ?_
  refine reports_cons (fun _ => readGiven_eq_error_iff readGiven_separator_absent)
    fun separator _ => ?_
  refine reports_cons (fun _ => readGiven_eq_error_iff readGiven_comment_absent)
    fun comment _ => ?_
  exact (reports_entries hentries).map fun operandRules =>
    (⟨separator, label, comment, operandRules⟩ : Settings)

/-- Settings by name come to settings exactly if all their names are known and each of them comes to
something, whatever the others are. Else the fault is the first offence: names that are not known,
operand rules that are no table, the label rule, its groups, the separator, the comment rule, and
then the operand rules in their order. -/
theorem first_offence_is_reported [Text.CharacterNames] (fields : List (String × Given)) :
    (∀ settings, (Overrides.named fields).resolve = .ok settings ↔
      (∀ field ∈ fields, field.1 ∈ names) ∧
      (givenUnder fields "separator").GivesRule standard.separator settings.separator ∧
      (givenUnder fields "label").GivesLabel settings.label ∧
      (givenUnder fields "comment").GivesRule standard.comment settings.comment ∧
      (givenUnder fields "syntax").GivesTable settings.operandRules) ∧
    ∀ fault, (Overrides.named fields).resolve = .error fault ↔
      FirstOffence (offences fields) fault := by
  rw [resolve_named]
  constructor
  · intro settings
    rw [bind_eq_ok_iff]
    constructor
    · rintro ⟨_, hnames, hdraft⟩
      exact ⟨List.forall_mem_map.mp (refuseUnknown_eq_ok_iff.mp hnames),
        draft_resolve_eq_ok_iff.mp hdraft⟩
    · rintro ⟨hnames, hdraft⟩
      exact ⟨(), refuseUnknown_eq_ok_iff.mpr (List.forall_mem_map.mpr hnames),
        draft_resolve_eq_ok_iff.mpr hdraft⟩
  · have hnames := reports_refuseUnknown (fields.map (·.1))
    exact hnames.bind fun _ _ => reports_draft (.ofFields fields)

/-- The groups of the label rule are counted before the separator is looked at. -/
example [Text.CharacterNames] : (Overrides.named [("separator", .rule (.datum (.int 3))),
    ("label", .rule (.datum (.text "(a)")))]).resolve = .error .fewLabelGroups := by
  cbv

end AsmKit.Settings
