import AsmKit.Proofs.Files.Tree
import AsmKit.Proofs.Settings.Loading

/-! # What loading settings comes to

Settings are loaded from a file exactly if its path can be found, its bytes are
those of a text and the text is a record whose fields come to settings. Faults
are those of the configuration, unless no home directory is known for the path,
the path has a zero character, the text goes beyond what is read, or a rule in a
record of the right shape goes astray. Texts with escapes for half a character
are told apart from these: nothing is said of them here. -/
namespace AsmKit.Settings
open FileTree (unifyLineEnds)
open Text.Utf8 (decode dropMark encode)

variable {room : Nat} {files : FileTree} {homes : Path.Homes} {path : String}

/-! ## Where a path leads -/

/-- The path itself leads to the file, or a home directory that is known stands in its place. -/
inductive Located (homes : Path.Homes) (path : Path) : Path → Prop
  | here : path.home? = none → Located homes path path
  | home {name : String} {home : Path} : path.home? = some name → '\x00' ∉ name.toList →
      homes.lookup name = some home →
      Located homes path { home with segments := home.segments ++ path.segments.tail }

/-- A path that starts with a home directory leads nowhere. -/
inductive Homeless (homes : Path.Homes) (path : Path) : FileFault → Prop
  | noHome {name : String} : path.home? = some name → '\x00' ∉ name.toList →
      homes.lookup name = none → Homeless homes path .noHome
  | zeroInPath {name : String} : path.home? = some name → '\x00' ∈ name.toList →
      Homeless homes path .zeroInPath

theorem homeFault?_eq_some_iff {path : Path} {fault : FileFault} :
    homeFault? homes path = some fault ↔ Homeless homes path fault := by
  constructor
  · intro h
    unfold homeFault? at h
    split at h
    · cases h
    · rename_i name hname
      split at h
      · rename_i hzero
        cases h
        exact .zeroInPath hname (List.contains_iff_mem.mp hzero)
      · rename_i hzero
        split at h
        · cases h
          rw [List.contains_iff_mem] at hzero
          exact .noHome hname hzero (Option.isNone_iff_eq_none.mp ‹_›)
        · cases h
  · rintro (⟨hname, hzero, hlookup⟩ | ⟨hname, hzero⟩)
    · simp [homeFault?, hname, hzero, hlookup]
    · simp [homeFault?, hname, hzero]

theorem located_iff {path located : Path} : Located homes path located ↔
    homeFault? homes path = none ∧ path.locate homes = located := by
  constructor
  · rintro (hname | ⟨hname, hzero, hlookup⟩)
    · simp [homeFault?, Path.locate, hname]
    · simp [homeFault?, Path.locate, hname, hzero, hlookup]
  · rintro ⟨hfault, rfl⟩
    cases hname : path.home? with
    | none =>
      rw [Path.locate, hname]
      exact .here hname
    | some name =>
      have hzero : '\x00' ∉ name.toList := fun hzero => by
        cases hfault.symm.trans (homeFault?_eq_some_iff.mpr (.zeroInPath hname hzero))
      cases hlookup : homes.lookup name with
      | none =>
        cases hfault.symm.trans (homeFault?_eq_some_iff.mpr (.noHome hname hzero hlookup))
      | some home =>
        rw [Path.locate, hname, Option.bind_some, hlookup]
        exact .home hname hzero hlookup

theorem located_or_homeless (homes : Path.Homes) (path : Path) :
    (∃ located, Located homes path located) ∨ ∃ fault, Homeless homes path fault := by
  cases hfault : homeFault? homes path with
  | none => exact .inl ⟨_, located_iff.mpr ⟨hfault, rfl⟩⟩
  | some fault => exact .inr ⟨fault, homeFault?_eq_some_iff.mp hfault⟩

/-! ## What a file holds -/

/-- The bytes of a record in a file: those of a text, perhaps behind a byte order mark, and the text
is read as the record once its line ends are line feeds. -/
def HoldRecord (room : Nat) (bytes : List UInt8) (fields : List (String × Datum)) : Prop :=
  ∃ text, dropMark bytes = encode text ∧
    Json.read (readLimits room) (unifyLineEnds text) = .ok (.record fields)

theorem read_nil_ne_ok (limits : Json.Limits) (value : Datum) : Json.read limits [] ≠ .ok value :=
  nofun

/-- Bytes that are only the start of a mark are read as the empty text, which is no record. -/
theorem exists_record_iff {bytes : List UInt8} {fields : List (String × Datum)} :
    (∃ text, decode bytes = .ok text ∧
      Json.read (readLimits room) (unifyLineEnds text) = .ok (.record fields)) ↔
        HoldRecord room bytes fields := by
  simp only [Text.Utf8.decode_eq_ok_iff]
  constructor
  · rintro ⟨text, hbytes | ⟨-, rfl⟩, hjson⟩
    · exact ⟨text, hbytes, hjson⟩
    · exact absurd hjson (read_nil_ne_ok _ _)
  · rintro ⟨text, hbytes, hjson⟩
    exact ⟨text, .inl hbytes, hjson⟩

/-! ## Faults -/

/-- Kinds of faults that loading is blamed for. -/
def Blamed (kind : FaultKind) : Prop := kind ≠ .configuration ∧ kind ≠ .unsupported

theorem Homeless.blamed {path : Path} {fault : FileFault} (h : Homeless homes path fault) :
    Blamed fault.kind := by
  cases h <;> exact ⟨nofun, nofun⟩

/-- The refusal of a text with an escape for half a character. -/
inductive HasHalf (room : Nat) (files : FileTree) (homes : Path.Homes) (path : Path) :
    FileFault → Prop
  | intro {located : Path} {text : List Char} : Located homes path located →
      files.textAt located = .ok text → Json.read (readLimits room) text = .error .halfCharacter →
      HasHalf room files homes path (.malformed located text .halfCharacter)

theorem HasHalf.kind {path : Path} {fault : FileFault} (h : HasHalf room files homes path fault) :
    fault.kind = .unsupported := by
  cases h
  rfl

section Loading
variable [Text.CharacterNames]

theorem load_of_located {located : Path} (h : Located homes (.ofText path) located) :
    load room files path homes =
      match files.textAt located with
      | .ok text => ofFileText room located text
      | .error .zeroInPath => .error .zeroInPath
      | .error (.path .missing) => .error (.missing located)
      | .error fault => .error (.unreadable located fault) := by
  obtain ⟨hfault, hlocated⟩ := located_iff.mp h
  unfold load textAt
  rw [hfault, hlocated]
  dsimp only
  cases files.textAt located with
  | ok text => rfl
  | error cause =>
    cases cause with
    | zeroInPath | encoding fault => rfl
    | path fault => cases fault <;> rfl

theorem load_of_homeless {fault : FileFault} (h : Homeless homes (.ofText path) fault) :
    load room files path homes = .error fault := by
  unfold load textAt
  rw [homeFault?_eq_some_iff.mpr h]

/-- The fields of a record that come to settings: all their names are known, and each gives its own
setting. -/
structure FieldsGive (fields : List (String × Datum)) (settings : Settings) : Prop where
  known : ∀ field ∈ fields, field.1 ∈ names
  separator : (givenAt "separator" fields).GivesRule standard.separator settings.separator
  label : (givenAt "label" fields).GivesLabel settings.label
  comment : (givenAt "comment" fields).GivesRule standard.comment settings.comment
  operandRules : (givenAt "syntax" fields).GivesTable settings.operandRules

theorem resolve_ofRecord_eq_ok_iff {fields : List (String × Datum)} {settings : Settings} :
    (Overrides.ofRecord fields).resolve = .ok settings ↔ FieldsGive fields settings := by
  have hnames : (Table.mapValues Given.ofDatum fields).map (·.1) = fields.map (·.1) := List.map_map
  rw [Overrides.ofRecord, resolve_named, hnames, bind_eq_ok_iff]
  change (∃ _, _ ∧ (Draft.ofRecord fields).resolve = .ok settings) ↔ _
  rw [ofRecord_eq, draft_resolve_eq_ok_iff]
  constructor
  · rintro ⟨_, hknown, hseparator, hlabel, hcomment, hrules⟩
    exact ⟨List.forall_mem_map.mp (refuseUnknown_eq_ok_iff.mp hknown), hseparator, hlabel,
      hcomment, hrules⟩
  · rintro ⟨hknown, hseparator, hlabel, hcomment, hrules⟩
    exact ⟨(), refuseUnknown_eq_ok_iff.mpr (List.forall_mem_map.mpr hknown), hseparator, hlabel,
      hcomment, hrules⟩

theorem ofFileText_eq_ok_iff {path : Path} {text : List Char} {settings : Settings} :
    ofFileText room path text = .ok settings ↔ ∃ fields,
      Json.read (readLimits room) text = .ok (.record fields) ∧
        (Overrides.ofRecord fields).resolve = .ok settings := by
  constructor
  · intro h
    cases hjson : Json.read (readLimits room) text with
    | error fault =>
      rw [ofFileText, hjson] at h
      cases h
    | ok value =>
      cases value with
      | record fields =>
        refine ⟨fields, rfl, ?_⟩
        rcases ofFileText_record path hjson with ⟨_, hrefused, -⟩ | hsame
        · cases hrefused.symm.trans h
        · rw [hsame] at h
          cases hresolve : (Overrides.ofRecord fields).resolve <;> rw [hresolve] at h <;> cases h
          rfl
      | null | bool _ | int _ | float _ | text _ | list _ =>
        rw [ofFileText, hjson] at h
        cases h
  · rintro ⟨fields, hjson, hresolve⟩
    rcases ofFileText_record path hjson with ⟨_, -, -, fault, hfault⟩ | hsame
    · cases hresolve.symm.trans hfault
    · rw [hsame, hresolve]
      rfl

/-- Faults of loading that are none of the configuration. -/
inductive Escapes (room : Nat) (files : FileTree) (homes : Path.Homes) (path : Path) :
    FileFault → Prop
  | homeless {fault : FileFault} : Homeless homes path fault → Escapes room files homes path fault
  | zeroInPath {located : Path} : Located homes path located → '\x00' ∈ located.text.toList →
      Escapes room files homes path .zeroInPath
  | excess {located : Path} {text : List Char} {fault : Json.Fault} :
      Located homes path located → files.textAt located = .ok text →
      Json.read (readLimits room) text = .error fault →
      Json.Exceeds (readLimits room) text fault →
      Escapes room files homes path (.malformed located text fault)
  | pattern {located : Path} {text : List Char} {value : Datum} {draft : Draft} {fault : Fault} :
      Located homes path located → files.textAt located = .ok text →
      Json.read (readLimits room) text = .ok value →
      draftOf value = .ok draft → draft.resolve = .error fault →
      StraysFrom draft.ruleTexts fault → Escapes room files homes path (.rejected fault)

theorem StraysFrom.blamed {texts : List String} {fault : Fault} (h : StraysFrom texts fault) :
    Blamed fault.kind := by
  obtain ⟨name, source, -, cause, -, -, hstrays⟩ := h
  generalize fault.kind = kind at hstrays
  cases hstrays <;> exact ⟨nofun, nofun⟩

theorem Escapes.blamed {path : Path} {fault : FileFault} (h : Escapes room files homes path fault) :
    Blamed fault.kind := by
  cases h with
  | homeless hhomeless => exact hhomeless.blamed
  | zeroInPath => exact ⟨nofun, nofun⟩
  | excess _ _ _ hexceeds => cases hexceeds <;> exact ⟨nofun, nofun⟩
  | pattern _ _ _ _ _ hstrays => exact hstrays.blamed

/-- What a text is refused for besides the configuration. -/
theorem load_fault_of_ofFileText {located : Path} {text : List Char} {fault : FileFault}
    (hlocated : Located homes (.ofText path) located) (htext : files.textAt located = .ok text)
    (h : ofFileText room located text = .error fault) (hkind : fault.kind ≠ .configuration) :
    Escapes room files homes (.ofText path) fault ∨
      HasHalf room files homes (.ofText path) fault := by
  unfold ofFileText at h
  split at h
  · rename_i cause hjson
    cases h
    cases cause with
    | malformed _ _ => exact absurd rfl hkind
    | longNumber _ | deepList | deepRecord =>
      exact .inl (.excess hlocated htext hjson (Json.exceeds_of_read hjson trivial))
    | halfCharacter => exact .inr ⟨hlocated, htext, hjson⟩
  · rename_i value hjson
    split at h
    · rename_i hdraft
      cases h
      exact absurd (draftOf_fault hdraft) hkind
    · rename_i draft hdraft
      split at h
      · rename_i rejected hresolve
        cases h
        exact .inl (.pattern hlocated htext hjson hdraft hresolve
          ((draft_straysFrom hresolve).resolve_left hkind))
      · cases h

theorem load_eq_ok_iff {settings : Settings} : load room files path homes = .ok settings ↔
    ∃ located bytes fields, Located homes (.ofText path) located ∧
      '\x00' ∉ located.text.toList ∧ files.bytesAt located = .ok bytes ∧
      HoldRecord room bytes fields ∧ FieldsGive fields settings := by
  constructor
  · intro h
    rcases located_or_homeless homes (.ofText path) with ⟨located, hlocated⟩ | ⟨fault, hhomeless⟩
    · rw [load_of_located hlocated] at h
      split at h
      · rename_i text htext
        obtain ⟨fields, hjson, hresolve⟩ := ofFileText_eq_ok_iff.mp h
        obtain ⟨hzero, bytes, hbytes, cs, hcs, rfl⟩ := FileTree.textAt_eq_ok_iff.mp htext
        exact ⟨located, bytes, fields, hlocated, hzero, hbytes,
          exists_record_iff.mp ⟨cs, hcs, hjson⟩, resolve_ofRecord_eq_ok_iff.mp hresolve⟩
      all_goals cases h
    · cases (load_of_homeless hhomeless).symm.trans h
  · rintro ⟨located, bytes, fields, hlocated, hzero, hbytes, hrecord, hgive⟩
    obtain ⟨cs, hcs, hjson⟩ := exists_record_iff.mpr hrecord
    have htext : files.textAt located = .ok (unifyLineEnds cs) :=
      FileTree.textAt_eq_ok_iff.mpr ⟨hzero, bytes, hbytes, cs, hcs, rfl⟩
    rw [load_of_located hlocated, htext]
    exact ofFileText_eq_ok_iff.mpr ⟨fields, hjson, resolve_ofRecord_eq_ok_iff.mpr hgive⟩

/-- A fault of loading is one of the configuration, or it escapes, or the text has half a
character. -/
theorem load_fault {fault : FileFault} (h : load room files path homes = .error fault)
    (hkind : fault.kind ≠ .configuration) :
    Escapes room files homes (.ofText path) fault ∨
      HasHalf room files homes (.ofText path) fault := by
  rcases located_or_homeless homes (.ofText path) with ⟨located, hlocated⟩ | ⟨other, hhomeless⟩
  · rw [load_of_located hlocated] at h
    split at h
    · rename_i text htext
      exact load_fault_of_ofFileText hlocated htext h hkind
    · rename_i htext
      cases h
      exact .inl (.zeroInPath hlocated (FileTree.textAt_eq_zeroInPath_iff.mp htext))
    -- All other files are blamed on the configuration.
    all_goals
      cases h
      exact absurd rfl hkind
  · cases (load_of_homeless hhomeless).symm.trans h
    exact .inl (.homeless hhomeless)

theorem load_of_escapes {fault : FileFault} (h : Escapes room files homes (.ofText path) fault) :
    load room files path homes = .error fault := by
  rcases h with hhomeless | ⟨hlocated, hzero⟩ | ⟨hlocated, htext, hjson, -⟩ |
    ⟨hlocated, htext, hjson, hdraft, hresolve, -⟩
  · exact load_of_homeless hhomeless
  · rw [load_of_located hlocated, FileTree.textAt_eq_zeroInPath_iff.mpr hzero]
  · rw [load_of_located hlocated, htext]
    dsimp only
    rw [ofFileText, hjson]
  · rw [load_of_located hlocated, htext]
    simp only [ofFileText, hjson, hdraft, hresolve]

theorem load_of_hasHalf {fault : FileFault} (h : HasHalf room files homes (.ofText path) fault) :
    load room files path homes = .error fault := by
  obtain ⟨hlocated, htext, hjson⟩ := h
  rw [load_of_located hlocated, htext]
  dsimp only
  rw [ofFileText, hjson]

/-- Settings come from a path exactly if it leads to a file with valid UTF-8, perhaps behind a byte
order mark, that is read as a record whose fields come to them. The faults that are none of the
configuration are those of paths without a home directory, of paths with a zero character, of texts
that go beyond what is read, and of records of the right shape with a rule that goes astray. Texts
with half a character are unsupported, and only they are. -/
theorem load_comes_to (room : Nat) (files : FileTree) (homes : Path.Homes) (path : String) :
    (∀ settings, load room files path homes = .ok settings ↔
      ∃ located bytes fields, Located homes (.ofText path) located ∧
        '\x00' ∉ located.text.toList ∧ files.bytesAt located = .ok bytes ∧
        HoldRecord room bytes fields ∧ FieldsGive fields settings) ∧
    (∀ fault, load room files path homes = .error fault ∧ Blamed fault.kind ↔
      Escapes room files homes (.ofText path) fault) ∧
    ∀ fault, load room files path homes = .error fault ∧ fault.kind = .unsupported ↔
      HasHalf room files homes (.ofText path) fault := by
  refine ⟨fun _ => load_eq_ok_iff, fun fault => ⟨fun ⟨h, hblamed⟩ => ?_, fun h => ?_⟩,
    fun fault => ⟨fun ⟨h, hkind⟩ => ?_, fun h => ⟨load_of_hasHalf h, h.kind⟩⟩⟩
  · rcases load_fault h hblamed.1 with hescapes | hhalf
    · exact hescapes
    · exact absurd hhalf.kind hblamed.2
  · exact ⟨load_of_escapes h, h.blamed⟩
  · rcases load_fault h (hkind ▸ nofun) with hescapes | hhalf
    · exact absurd hkind hescapes.blamed.2
    · exact hhalf

end Loading

/-- Paths with a zero character, and those below a home directory that is not known, are no faults
of the configuration. -/
theorem zero_and_unknown_home_escape :
    (∀ [Text.CharacterNames] (room : Nat), ∃ fault, load room ⟨[]⟩ "a\x00b" = .error fault ∧
      fault.kind = .badValue) ∧
    ∀ [Text.CharacterNames] (room : Nat), ∃ fault, load room ⟨[]⟩ "~nobody/rules" = .error fault ∧
      fault.kind = .environment :=
  ⟨fun _ => ⟨.zeroInPath, by rfl, rfl⟩, fun _ => ⟨.noHome, by rfl, rfl⟩⟩

end AsmKit.Settings
