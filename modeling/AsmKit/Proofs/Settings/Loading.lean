import AsmKit.Proofs.Json.Limits
import AsmKit.Proofs.Settings.Straying
import AsmKit.Proofs.Source.File
import AsmKit.Settings.File

/-! # Settings from a file and settings by name

A file is checked for the shapes of its fields before a rule is read, and a
caller's settings are found out rule by rule. Main statement: a record in a file
comes to the settings that its fields come to by name, and what one way refuses
the other refuses too. The checks refuse nothing that could be read, and what
they let through is read as it would be without them. -/
namespace AsmKit.Settings

/-- The fields of a record as settings by name. -/
def Overrides.ofRecord (fields : List (String × Datum)) : Overrides :=
  .named (Table.mapValues Given.ofDatum fields)

/-- The fields of a record as a draft. -/
def Draft.ofRecord (fields : List (String × Datum)) : Draft :=
  .ofFields (Table.mapValues Given.ofDatum fields)

section
variable [Text.CharacterNames] {fields : List (String × Datum)} {settings : Settings}

theorem resolve_ofRecord : (Overrides.ofRecord fields).resolve =
    match unknownNames (fields.map (·.1)) with
    | [] => (Draft.ofRecord fields).resolve
    | unknown => .error (.unknownNames unknown) := by
  have hnames : (Table.mapValues Given.ofDatum fields).map (·.1) = fields.map (·.1) := List.map_map
  unfold Overrides.ofRecord Overrides.resolve
  dsimp only
  rw [hnames]
  rfl

theorem resolve_ofRecord_of_known (h : unknownNames (fields.map (·.1)) = []) :
    (Overrides.ofRecord fields).resolve = (Draft.ofRecord fields).resolve := by
  rw [resolve_ofRecord, h]

theorem known_of_resolve_ofRecord (h : (Overrides.ofRecord fields).resolve = .ok settings) :
    unknownNames (fields.map (·.1)) = [] := by
  rw [resolve_ofRecord] at h
  split at h
  · assumption
  · cases h

/-! ## What the checks let through -/

omit [Text.CharacterNames] in
theorem draftOf_record_eq_ok_iff {draft : Draft} :
    draftOf (.record fields) = .ok draft ↔
      checkNames fields = .ok () ∧ checkRule "separator" fields = .ok () ∧
        checkRule "comment" fields = .ok () ∧ checkLabel fields = .ok () ∧
        checkTable fields = .ok () ∧ draft = Draft.ofRecord fields := by
  unfold draftOf
  simp only [bind_eq_ok_iff]
  constructor
  · rintro ⟨⟨⟩, hnames, ⟨⟩, hseparator, ⟨⟩, hcomment, ⟨⟩, hlabel, ⟨⟩, htable, hdraft⟩
    cases hdraft
    exact ⟨hnames, hseparator, hcomment, hlabel, htable, rfl⟩
  · rintro ⟨hnames, hseparator, hcomment, hlabel, htable, rfl⟩
    exact ⟨_, hnames, _, hseparator, _, hcomment, _, hlabel, _, htable, rfl⟩

section Faults
omit [Text.CharacterNames]
variable {fault : FileFault}

theorem checkNames_fault (h : checkNames fields = .error fault) : fault.kind = .configuration := by
  unfold checkNames at h
  split at h <;> cases h
  rfl

theorem checkRule_fault {name : String} (h : checkRule name fields = .error fault) :
    fault.kind = .configuration := by
  unfold checkRule at h
  split at h <;> cases h
  rfl

theorem checkLabel_fault (h : checkLabel fields = .error fault) : fault.kind = .configuration := by
  unfold checkLabel at h
  split at h
  · cases h
  · split at h <;> cases h
    rfl

theorem checkRules_fault {rules : List (String × Datum)} (h : checkRules rules = .error fault) :
    fault.kind = .configuration := by
  fun_induction checkRules rules with
  | case1 => cases h
  | case2 _ _ _ ih => exact ih h
  | case3 =>
    cases h
    rfl

theorem checkTable_fault (h : checkTable fields = .error fault) : fault.kind = .configuration := by
  unfold checkTable at h
  split at h
  · cases h
  · cases h
  · exact checkRules_fault h
  · cases h
    rfl

/-- A check that refuses a value blames the configuration. -/
theorem draftOf_fault {value : Datum} (h : draftOf value = .error fault) :
    fault.kind = .configuration := by
  unfold draftOf at h
  split at h
  · simp only [bind_eq_error_iff] at h
    obtain hnames | ⟨_, _, hseparator | ⟨_, _, hcomment | ⟨_, _, hlabel | ⟨_, _, htable |
      ⟨_, _, hdraft⟩⟩⟩⟩⟩ := h
    · exact checkNames_fault hnames
    · exact checkRule_fault hseparator
    · exact checkRule_fault hcomment
    · exact checkLabel_fault hlabel
    · exact checkTable_fault htable
    · cases hdraft
  · cases h
    rfl

end Faults

/-! ## What reading accepts -/

/-- The setting that a field of a record gives. -/
def givenAt (name : String) (fields : List (String × Datum)) : Given :=
  ((fields.lookup name).map Given.ofDatum).getD .absent

omit [Text.CharacterNames] in
theorem ofRecord_eq : Draft.ofRecord fields =
    { separator := givenAt "separator" fields, label := givenAt "label" fields,
      comment := givenAt "comment" fields, operandRules := givenAt "syntax" fields } := by
  simp only [Draft.ofRecord, Draft.ofFields, Table.lookup_mapValues, givenAt]

theorem checkRule_of_readGiven {name default field : String} {pattern : Pattern}
    (h : readGiven name default (givenAt field fields) = .ok pattern) :
    checkRule field fields = .ok () := by
  unfold givenAt at h
  unfold checkRule
  cases hfield : fields.lookup field with
  | none => rfl
  | some datum =>
    rw [hfield] at h
    cases datum with
    | null => rfl
    | text source => rfl
    | bool _ | int _ | float _ | list _ | record _ => cases h

theorem checkLabel_of_readLabel {label : Option Pattern}
    (h : readLabel (givenAt "label" fields) = .ok label) : checkLabel fields = .ok () := by
  unfold givenAt at h
  unfold checkLabel
  cases hfield : fields.lookup "label" with
  | none => rfl
  | some datum =>
    rw [hfield] at h
    cases datum with
    | null => rfl
    | bool switch => rfl
    | text source => rfl
    | int _ | float _ | list _ | record _ => cases h

theorem checkRules_of_readTable {rules : List (String × Datum)}
    {patterns : List (String × Pattern)}
    (h : readTable (rules.map fun rule => (rule.1, .datum rule.2)) = .ok patterns) :
    checkRules rules = .ok () := by
  induction rules generalizing patterns with
  | nil => rfl
  | cons rule rest ih =>
    obtain ⟨operandType, datum⟩ := rule
    obtain ⟨pattern, hrule, hmore⟩ := bind_eq_ok_iff.mp h
    obtain ⟨others, hrest, -⟩ := bind_eq_ok_iff.mp hmore
    cases datum with
    | text source => exact ih hrest
    | null | bool _ | int _ | float _ | list _ | record _ => cases hrule

theorem checkTable_of_readTable {entries : List (String × Rule)}
    {patterns : List (String × Pattern)}
    (hentries : tableEntries (givenAt "syntax" fields) = .ok entries)
    (h : readTable entries = .ok patterns) : checkTable fields = .ok () := by
  unfold givenAt at hentries
  unfold checkTable
  cases hfield : fields.lookup "syntax" with
  | none => rfl
  | some datum =>
    rw [hfield] at hentries
    cases datum with
    | null => rfl
    | record rules =>
      cases hentries
      exact checkRules_of_readTable h
    | bool _ | int _ | float _ | text _ | list _ => cases hentries

omit [Text.CharacterNames] in
theorem checkNames_eq_ok_iff :
    checkNames fields = .ok () ↔ unknownNames (fields.map (·.1)) = [] := by
  unfold checkNames
  split
  · simp_all
  · simp_all

/-- What is resolved by name passes all checks. -/
theorem draftOf_of_resolve (h : (Overrides.ofRecord fields).resolve = .ok settings) :
    draftOf (.record fields) = .ok (Draft.ofRecord fields) := by
  have hknown := known_of_resolve_ofRecord h
  rw [resolve_ofRecord_of_known hknown, ofRecord_eq] at h
  obtain ⟨hlabel, hseparator, hcomment, entries, hentries, hrules⟩ := Draft.resolve_eq_ok_iff.mp h
  have hnames : checkNames fields = .ok () := by rw [checkNames, hknown]
  exact draftOf_record_eq_ok_iff.mpr ⟨hnames, checkRule_of_readGiven hseparator,
    checkRule_of_readGiven hcomment, checkLabel_of_readLabel hlabel,
    checkTable_of_readTable hentries hrules, rfl⟩

/-- What is refused by name, where rules are patterns, malformed texts or no texts. -/
theorem resolve_ofRecord_fault {fault : Fault}
    (hjudged : ∀ source ∈ (Draft.ofRecord fields).ruleTexts, IsJudged source)
    (h : (Overrides.ofRecord fields).resolve = .error fault) : fault.kind = .configuration := by
  rw [resolve_ofRecord] at h
  split at h
  · exact Draft.resolve_fault hjudged h
  · cases h
    rfl

/-! ## The two ways -/

/-- A file is refused by a check, and by name its fields are refused too, or it comes to what its
fields come to by name. -/
theorem ofFileText_record {room : Nat} (path : Path) {text : List Char}
    (hjson : Json.read (readLimits room) text = .ok (.record fields)) :
    (∃ refusal, ofFileText room path text = .error refusal ∧ refusal.kind = .configuration ∧
        ∃ fault, (Overrides.ofRecord fields).resolve = .error fault) ∨
      ofFileText room path text = (Overrides.ofRecord fields).resolve.mapError .rejected := by
  unfold ofFileText
  rw [hjson]
  dsimp only
  cases hdraft : draftOf (.record fields) with
  | error refusal =>
    refine .inl ⟨refusal, rfl, draftOf_fault hdraft, ?_⟩
    cases hresolve : (Overrides.ofRecord fields).resolve with
    | error fault => exact ⟨fault, rfl⟩
    | ok settings => cases hdraft.symm.trans (draftOf_of_resolve hresolve)
  | ok draft =>
    obtain ⟨hnames, -, -, -, -, rfl⟩ := draftOf_record_eq_ok_iff.mp hdraft
    rw [resolve_ofRecord_of_known (checkNames_eq_ok_iff.mp hnames)]
    dsimp only
    cases (Draft.ofRecord fields).resolve <;> exact .inr rfl

omit [Text.CharacterNames] in
/-- A text that goes beyond what is read is not blamed on the configuration. -/
theorem malformed_kind_of_exceeds {limits : Json.Limits} {path : Path} {text : List Char}
    {fault : Json.Fault} (h : Json.Exceeds limits text fault) :
    (FileFault.malformed path text fault).kind ≠ .configuration := by
  cases h <;> nofun

/-- What a file comes to agrees with what fields come to by name: the settings are the same, and
faults of the configuration are faults of it both ways. The other way round this holds where each
text is compiled to a pattern or is malformed. Texts that ask for clashing modes or for too many
repetitions are left out there: their faults are of other kinds, and a check of the file may come
first. -/
structure AgreesWithNames (loaded : Except FileFault Settings) (fields : List (String × Datum)) :
    Prop where
  settings : ∀ settings, loaded = .ok settings ↔ (Overrides.ofRecord fields).resolve = .ok settings
  refused : ∀ fault, (Overrides.ofRecord fields).resolve = .error fault →
    fault.kind = .configuration →
    ∃ refusal, loaded = .error refusal ∧ refusal.kind = .configuration
  refusedByName : (∀ source ∈ (Draft.ofRecord fields).ruleTexts, IsJudged source) →
    ∀ refusal, loaded = .error refusal → refusal.kind = .configuration ∧
      ∃ fault, (Overrides.ofRecord fields).resolve = .error fault ∧ fault.kind = .configuration

theorem ofFileText_agrees {room : Nat} (path : Path) {text : List Char}
    (hjson : Json.read (readLimits room) text = .ok (.record fields)) :
    AgreesWithNames (ofFileText room path text) fields := by
  rcases ofFileText_record path hjson with ⟨refusal, hrefused, hkind, other, hother⟩ | hsame
  · rw [hrefused]
    refine ⟨fun settings => ⟨nofun, fun h => ?_⟩, fun _ _ _ => ⟨refusal, rfl, hkind⟩, ?_⟩
    · cases hother.symm.trans h
    · rintro hjudged _ ⟨⟩
      exact ⟨hkind, other, hother, resolve_ofRecord_fault hjudged hother⟩
  · rw [hsame]
    cases hresolve : (Overrides.ofRecord fields).resolve with
    | error fault =>
      refine ⟨fun settings => ⟨nofun, fun h => ?_⟩, fun other h hkind => ?_, ?_⟩
      · cases hresolve.symm.trans h
      · cases hresolve.symm.trans h
        exact ⟨.rejected fault, rfl, hkind⟩
      · rintro hjudged _ ⟨⟩
        have hkind := resolve_ofRecord_fault hjudged hresolve
        exact ⟨hkind, fault, hresolve, hkind⟩
    | ok settings =>
      refine ⟨fun other => ?_, fun other h => ?_, nofun⟩
      · rw [hresolve, Except.mapError, Except.ok.injEq, Except.ok.injEq]
      · cases hresolve.symm.trans h

/-- A record in a file and its fields by name come to the same settings, unless the text of the file
goes beyond what is read. A number of too many digits and lists and records nested too deep are
faults, and none of the configuration, whatever the fields come to by name. -/
theorem load_agrees_with_names (room : Nat) {files : FileTree} {path : String} {text : List Char}
    (htext : textAt files (.ofText path) = .ok text)
    (hjson : Json.Denotes text (.record fields)) :
    (Json.read (readLimits room) text = .ok (.record fields) ∧
        AgreesWithNames (load room files path) fields) ∨
      ∃ fault refusal, Json.Exceeds (readLimits room) text fault ∧
        Json.read (readLimits room) text = .error fault ∧
        load room files path = .error refusal ∧ refusal.kind ≠ .configuration := by
  have hload : load room files path = ofFileText room ((Path.ofText path).locate []) text := by
    unfold load
    rw [htext]
  rw [hload]
  rcases Json.read_of_denotes hjson (readLimits room) with hread | ⟨fault, hread, hexceeds⟩
  · exact .inl ⟨hread, ofFileText_agrees _ hread⟩
  · refine .inr ⟨fault, .malformed ((Path.ofText path).locate []) text fault, hexceeds, hread, ?_,
      malformed_kind_of_exceeds hexceeds⟩
    rw [ofFileText, hread]

end

/-- One file of rules. -/
def rulesFile (text : List Char) : FileTree :=
  ⟨[(["rules"], .file (Text.Utf8.encode text))]⟩

theorem textAt_rulesFile {text : List Char} (hmark : text.head? ≠ some '\ufeff')
    (hreturn : '\r' ∉ text) : textAt (rulesFile text) (.ofText "rules") = .ok text := by
  have hholds : (rulesFile text).Holds (.ofText "rules") text := ⟨by decide, .inr ⟨rfl, hmark⟩⟩
  have hhome : (Path.ofText "rules").home? = none := by decide
  have hfault : homeFault? [] (.ofText "rules") = none := by rw [homeFault?, hhome]
  have hlocated : (Path.ofText "rules").locate [] = .ofText "rules" := by
    rw [Path.locate, hhome]
    rfl
  rw [textAt, hfault]
  dsimp only
  rw [hlocated, hholds.textAt, TextSource.unifyLineEnds_eq_self hreturn]

/-- A label rule that is malformed, and a separator that is no rule. -/
def refusedFields : List (String × Datum) := [("label", .text "(a"), ("separator", .int 3)]

def refusedText : List Char := "\x7b\"label\": \"(a\", \"separator\": 3\x7d".toList

section
open scoped Text.Nameless

theorem refused_in_file_and_by_name :
    textAt (rulesFile refusedText) (.ofText "rules") = .ok refusedText ∧
      Json.Denotes refusedText (.record refusedFields) ∧
      (∀ source ∈ (Draft.ofRecord refusedFields).ruleTexts, IsJudged source) ∧
      load 1 (rulesFile refusedText) "rules" = .error (.notText "separator") ∧
      ∃ fault, (Overrides.ofRecord refusedFields).resolve = .error fault ∧
        fault.kind = .configuration := by
  have htext : textAt (rulesFile refusedText) (.ofText "rules") = .ok refusedText :=
    textAt_rulesFile (by decide) (by decide)
  have hjson : Json.read (readLimits 1) refusedText = .ok (.record refusedFields) := by
    have hlimits : readLimits 1 = ⟨4300, 1⟩ := by
      unfold readLimits Integer.digitLimit
      rfl
    rw [hlimits]
    cbv
  have hjudged : ∀ source ∈ (Draft.ofRecord refusedFields).ruleTexts, IsJudged source := by
    have htexts : (Draft.ofRecord refusedFields).ruleTexts = ["(a"] := by rfl
    have hcompile : Pattern.compile "(a" = .error (.malformed .unterminatedGroup (some 0)) := by rfl
    rw [htexts]
    intro source hsource fault hfault
    cases List.mem_singleton.mp hsource
    cases hcompile.symm.trans hfault
    exact ⟨_, _, rfl⟩
  have hload : load 1 (rulesFile refusedText) "rules" = .error (.notText "separator") := by
    have hnames : checkNames refusedFields = .ok () :=
      checkNames_eq_ok_iff.mpr (by decide +kernel)
    have hdraft : draftOf (.record refusedFields) = .error (.notText "separator") := by
      rw [draftOf, hnames]
      rfl
    unfold load
    rw [htext]
    unfold ofFileText
    simp only [hjson, hdraft]
  have hagrees : AgreesWithNames (load 1 (rulesFile refusedText) "rules") refusedFields := by
    rcases load_agrees_with_names 1 htext ⟨_, hjson⟩ with ⟨-, hagrees⟩ | ⟨_, _, -, hread, -, -⟩
    · exact hagrees
    · cases hjson.symm.trans hread
  exact ⟨htext, ⟨_, hjson⟩, hjudged, hload, (hagrees.refusedByName hjudged _ hload).2⟩

end

/-- A separator that is a number of so many digits. -/
def longSeparator (digits : Nat) : List Char :=
  "\x7b\"separator\":".toList ++ List.replicate digits '1' ++ ['\x7d']

theorem longSeparator_plain (digits : Nat) :
    (longSeparator digits).head? ≠ some '\ufeff' ∧ '\r' ∉ longSeparator digits := by
  have hfront : '\r' ∉ "\x7b\"separator\":".toList := by decide
  constructor
  · rintro ⟨⟩
  · intro hmem
    rcases List.mem_append.mp hmem with hmem | hmem
    · rcases List.mem_append.mp hmem with hmem | hmem
      · exact hfront hmem
      · cases List.eq_of_mem_replicate hmem
    · cases List.mem_singleton.mp hmem

theorem readNumber_ones (limit n position : Nat) :
    Json.readNumber limit ⟨'1' :: (List.replicate n '1' ++ ['\x7d']), position⟩ =
      if limit < n + 1 then .error (.longNumber (n + 1))
      else .ok (.int (Json.digitsValue (List.replicate (n + 1) '1')),
        ⟨['\x7d'], position + (n + 1)⟩) := by
  have hwhole : Json.wholePart ('1' :: (List.replicate n '1' ++ ['\x7d'])) =
      some ('1' :: List.replicate n '1') := by
    have hone : Json.isNumberDigit '1' = true := by decide
    have hend : Json.isNumberDigit '\x7d' = false := by decide
    simp [Json.wholePart, hone, hend]
  simp [Json.readNumber, Json.signPart, hwhole, Json.fractionPart, Json.exponentPart,
    Json.Cursor.skip, List.replicate_succ]

theorem read_longSeparator (limit room n : Nat) :
    Json.read ⟨limit, room + 1⟩ (longSeparator (n + 1)) =
      if limit < n + 1 then .error (.longNumber (n + 1))
      else .ok (.record
        [("separator", .int (Json.digitsValue (List.replicate (n + 1) '1')))]) := by
  have hlist : longSeparator (n + 1) = '\x7b' :: '"' :: 's' :: 'e' :: 'p' :: 'a' :: 'r' :: 'a' ::
      't' :: 'o' :: 'r' :: '"' :: ':' :: '1' :: (List.replicate n '1' ++ ['\x7d']) := rfl
  obtain ⟨fuel, hfuel⟩ : ∃ fuel, 2 * (longSeparator (n + 1)).length + 4 = fuel + 3 := ⟨_, rfl⟩
  have hvalue (position : Nat) :
      Json.readValue limit (fuel + 1) room ⟨'1' :: (List.replicate n '1' ++ ['\x7d']), position⟩ =
        if limit < n + 1 then .error (.longNumber (n + 1))
        else .ok (.int (Json.digitsValue (List.replicate (n + 1) '1')),
          ⟨['\x7d'], position + (n + 1)⟩) := by
    rw [Json.readValue.eq_def]
    exact readNumber_ones limit n position
  rw [Json.read.eq_def, hfuel, hlist]
  simp only [Json.readValue.eq_def _ (fuel + 3), Json.readFields.eq_def _ (fuel + 2)]
  by_cases hlong : limit < n + 1 <;>
    simp [hvalue, hlong, Json.readString, Json.Cursor.skip, Json.Cursor.skipSpaces, Json.isSpace,
      Table.put]

/-- By name a number is refused as a separator, whatever its size. -/
theorem number_is_no_separator [Text.CharacterNames] (number : Int) :
    ∃ fault, (Overrides.ofRecord [("separator", .int number)]).resolve = .error fault ∧
      fault.kind = .configuration := by
  have htexts : (Draft.ofRecord [("separator", .int number)]).ruleTexts = [] := rfl
  cases hresolve : (Overrides.ofRecord [("separator", .int number)]).resolve with
  | error fault => exact ⟨fault, rfl, resolve_ofRecord_fault (by simp [htexts]) hresolve⟩
  | ok settings =>
    obtain ⟨-, hrule, -⟩ := draftOf_record_eq_ok_iff.mp (draftOf_of_resolve hresolve)
    cases hrule

section
open scoped Text.Nameless

/-- A separator of more digits than a number may have is refused as no rule where it is given by
name. A file with it is refused too, but not as a fault of the configuration, whatever the room. -/
theorem long_separator_is_refused_otherwise :
    ∃ (text : List Char) (number : Int),
      text = longSeparator (Integer.digitLimit + 1) ∧
      textAt (rulesFile text) (.ofText "rules") = .ok text ∧
      Json.Denotes text (.record [("separator", .int number)]) ∧
      (∃ fault, (Overrides.ofRecord [("separator", .int number)]).resolve = .error fault ∧
        fault.kind = .configuration) ∧
      ∀ room, ∃ refusal, load (room + 1) (rulesFile text) "rules" = .error refusal ∧
        refusal.kind = .badValue ∧ FaultKind.badValue ≠ .configuration := by
  -- the limit is given a name, so that no step counts up to it
  obtain ⟨limit, hlimit⟩ : ∃ limit, limit = Integer.digitLimit := ⟨_, rfl⟩
  rw [← hlimit]
  have htext := textAt_rulesFile (longSeparator_plain (limit + 1)).1 (longSeparator_plain _).2
  have hjson := (read_longSeparator _ 0 limit).trans (if_neg (Nat.lt_irrefl _))
  refine ⟨_, _, rfl, htext, ⟨_, hjson⟩, number_is_no_separator _, fun room => ?_⟩
  have hread : Json.read (readLimits (room + 1)) (longSeparator (limit + 1)) =
      .error (.longNumber (limit + 1)) := by
    rw [readLimits, ← hlimit]
    exact (read_longSeparator _ room _).trans (if_pos (Nat.lt_succ_self _))
  unfold load
  rw [htext]
  unfold ofFileText
  dsimp only
  rw [hread]
  exact ⟨_, rfl, rfl, nofun⟩

end

end AsmKit.Settings
