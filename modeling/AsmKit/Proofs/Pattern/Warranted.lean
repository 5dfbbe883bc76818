import AsmKit.Proofs.Pattern.Steady

/-! # What a pattern holds where it is refused

Most faults are complaints. The others are warranted by the text: modes that
clash are both set in it for the whole pattern, and of a number of repetitions
that is too large, or too long to be read, the digits stand in braces. -/
namespace AsmKit.Pattern

/-- Letters that name modes one by one. -/
def Spells (letters : List Char) (modes : List Mode) : Prop :=
  letters.map Mode.ofLetter? = modes.map some

/-- A text sets a mode for the whole pattern: a group of letters of modes and nothing else names
it. -/
def Sets (text : List Char) (mode : Mode) : Prop :=
  ∃ before letters after modes, text = before ++ '(' :: '?' :: (letters ++ ')' :: after) ∧
    Spells letters modes ∧ mode ∈ modes

/-- The numbers in braces: one, or two with a comma between them. Digits may be missing. -/
inductive Numbers : List Char → List (List Char) → Prop
  | one {digits : List Char} : (∀ c ∈ digits, c.isDigit = true) → Numbers digits [digits]
  | two {low high : List Char} : (∀ c ∈ low, c.isDigit = true) → (∀ c ∈ high, c.isDigit = true) →
      Numbers (low ++ ',' :: high) [low, high]

/-- Digits that are refused as a number of repetitions: they are too many to be read, or else the
number is too large. -/
inductive Refused (digits : List Char) : Fault → Prop
  | tooLong : Integer.digitLimit < digits.length → Refused digits (.numberTooLong digits.length)
  | tooLarge : digits.length ≤ Integer.digitLimit →
      tooManyRepetitions ≤ decimalNumber digits → Refused digits .repetitionTooLarge

/-- Behind an opening brace stands a number that is refused, up to the closing one. -/
def Excess (rest : List Char) (fault : Fault) : Prop :=
  ∃ inside after numbers, rest = inside ++ '\x7d' :: after ∧ Numbers inside numbers ∧
    ∃ digits ∈ numbers, Refused digits fault

/-- A text asks for a number of repetitions that is refused. -/
def Overflows (text : List Char) (fault : Fault) : Prop :=
  ∃ before rest, text = before ++ '\x7b' :: rest ∧ Excess rest fault

/-- What stands in the text of a pattern with the given fault. A complaint may be about anything. -/
def Warrants (text : List Char) : Fault → Prop
  | .malformed _ _ => True
  | .modeClash => Sets text .ascii ∧ Sets text .unicode
  | .repetitionTooLarge => Overflows text .repetitionTooLarge
  | .numberTooLong digits => Overflows text (.numberTooLong digits)

variable {α β : Type} {p : Progress}

/-! ## What has been taken -/

/-- What an answer says about the progress it comes with, where there is one. -/
def Finds (m : ReadM α) (p : Progress) (post : α → Progress → Prop) : Prop :=
  Leads m p post fun _ => True

theorem finds_any (m : ReadM α) (p : Progress) : Finds m p fun _ _ => True := by
  unfold Finds Leads
  split <;> trivial

/-- Reading whose answer does not matter. -/
theorem finds_bind {m : ReadM α} {next : α → ReadM β} {post : β → Progress → Prop}
    (h : ∀ answer q, Finds (next answer) q post) : Finds (m >>= next) p post :=
  (finds_any m p).bind fun answer q _ => h answer q

theorem finds_complain {post : α → Progress → Prop} (complaint : Complaint) (position : Nat) :
    Finds (complain complaint position) p post := trivial

theorem finds_complain_bind {next : α → ReadM β} {post : β → Progress → Prop}
    (complaint : Complaint) (position : Nat) :
    Finds (complain complaint position >>= next) p post := trivial

theorem finds_complainMode {post : α → Progress → Prop} (symbol : Symbol) (otherwise : String) :
    Finds (complainMode symbol otherwise) p post := trivial

theorem eq_append_of_symbolAt? {cs : List Char} {symbol : Symbol}
    (h : symbolAt? cs = some symbol) : cs = symbol.text ++ cs.drop symbol.text.length := by
  unfold symbolAt? at h
  split at h <;> cases h <;> rfl

theorem finds_checkEnd : Finds checkEnd p fun _ q => q = p := by
  refine leads_get_bind ?_
  split
  · exact finds_complain _ _
  · exact rfl

/-- The symbol that is taken is the next one, and it is off the text then. -/
theorem finds_take : Finds take p fun answer q => answer = symbolAt? p.rest ∧
    ∀ symbol, answer = some symbol → p.rest = symbol.text ++ q.rest := by
  refine leads_get_bind ?_
  split
  · rename_i hnone
    exact ⟨hnone.symm, nofun⟩
  · rename_i symbol hsymbol
    refine leads_set_bind (finds_checkEnd.bind ?_)
    rintro _ _ rfl
    refine ⟨hsymbol.symm, ?_⟩
    rintro _ ⟨⟩
    exact eq_append_of_symbolAt? hsymbol

/-- A character is taken if it is the next one, else nothing is. -/
theorem finds_accept (c : Char) : Finds (accept c) p fun taken q =>
    taken = true ∧ p.rest = c :: q.rest ∨ taken = false ∧ q = p := by
  refine leads_peek_bind ?_
  split
  · rename_i hsymbol
    refine finds_take.bind ?_
    rintro answer q ⟨hanswer, hrest⟩
    exact .inl ⟨rfl, hrest (.plain c) (hanswer.trans (eq_of_beq hsymbol))⟩
  · exact .inr ⟨rfl, rfl⟩

theorem finds_takeUpTo (test : Char → Bool) (n : Nat) : Finds (takeUpTo test n) p fun cs q =>
    p.rest = cs ++ q.rest ∧ ∀ c ∈ cs, test c = true := by
  induction n generalizing p with
  | zero => exact ⟨rfl, nofun⟩
  | succ n ih =>
    rw [takeUpTo]
    refine leads_peek_bind ?_
    split
    · rename_i c hsymbol
      split
      · rename_i hc
        refine finds_take.bind ?_
        rintro answer q ⟨hanswer, hrest⟩
        have hfront := hrest _ (hanswer.trans hsymbol)
        refine ih.bind ?_
        rintro cs r ⟨hcs, hall⟩
        exact ⟨hfront.trans (congrArg (c :: ·) hcs), List.forall_mem_cons.mpr ⟨hc, hall⟩⟩
      · exact ⟨rfl, nofun⟩
    · exact ⟨rfl, nofun⟩

theorem finds_takeWhile (test : Char → Bool) : Finds (takeWhile test) p fun cs q =>
    p.rest = cs ++ q.rest ∧ ∀ c ∈ cs, test c = true :=
  finds_takeUpTo test p.rest.length

/-! ## Modes for the whole pattern -/

theorem spells_cons {c : Char} {mode : Mode} {letters : List Char} {modes : List Mode}
    (hc : Mode.ofLetter? c = some mode) (h : Spells letters modes) :
    Spells (c :: letters) (mode :: modes) := by
  rw [Spells, List.map_cons, List.map_cons, hc, h]

theorem plain_of_mode? {symbol : Symbol} {mode : Mode} (h : symbol.mode? = some mode) :
    ∃ c, symbol = .plain c ∧ Mode.ofLetter? c = some mode := by
  cases symbol with
  | plain c => exact ⟨c, rfl, h⟩
  | escaped c => cases h

theorem finds_readModesOn (fuel : Nat) (mode : Mode) (done : List Mode) :
    Finds (readModesOn fuel mode done) p fun answer q => answer.2 = ')' →
      ∃ letters modes, p.rest = letters ++ ')' :: q.rest ∧ Spells letters modes ∧
        answer.1 = done ++ mode :: modes := by
  induction fuel generalizing p mode done with
  | zero => exact nofun
  | succ fuel ih =>
    rw [readModesOn]
    dsimp only
    split
    · exact finds_bind fun _ _ => finds_complain_bind _ _
    · split
      · exact finds_bind fun _ _ => finds_complain_bind _ _
      · refine finds_take.bind fun answer q htaken => ?_
        split
        · exact finds_bind fun _ _ => finds_complain _ _
        · rename_i symbol
          have hfront := htaken.2 symbol rfl
          split
          · rename_i mode' hmode
            obtain ⟨c, rfl, hc⟩ := plain_of_mode? hmode
            refine (ih mode' (done ++ [mode])).imp (fun answer r hmore hclosed => ?_) fun _ => id
            obtain ⟨letters, modes, hletters, hspells, hon⟩ := hmore hclosed
            refine ⟨c :: letters, mode' :: modes, ?_, spells_cons hc hspells, ?_⟩
            · rw [hfront, hletters]
              rfl
            · rw [hon, List.append_assoc, List.singleton_append]
          · split
            · exact fun _ => ⟨[], [], hfront, rfl, rfl⟩
            · exact nofun
            · exact nofun
            · exact finds_complainMode _ _

theorem finds_readModeChange (first : Option Mode) :
    Finds (readModeChange first) p fun change q => ∀ on, change = .whole on →
      ∃ mode letters modes, first = some mode ∧ p.rest = letters ++ ')' :: q.rest ∧
        Spells letters modes ∧ on = mode :: modes := by
  refine leads_get_bind ?_
  extract_lets fuel behindOn
  have hbehindOn : ∀ answer q, Finds (behindOn answer) q fun change r =>
      ∀ on, change = .whole on → answer.2 = ')' ∧ on = answer.1 ∧ r = q := by
    rintro ⟨on, closing⟩ q
    dsimp -zeta only [behindOn]
    split
    · rename_i hclosing
      rintro _ ⟨⟩
      exact ⟨eq_of_beq hclosing, rfl, rfl⟩
    · extract_lets behindOff readOff
      have hbehindOff : ∀ off q, Finds (behindOff off) q fun change _ =>
          ∀ on, change ≠ .whole on := by
        intro off q
        dsimp only [behindOff]
        split
        · exact finds_bind fun _ _ => finds_complain_bind _ _
        · split
          · exact finds_bind fun _ _ => finds_complain_bind _ _
          · exact nofun
      have hreadOff : Finds (readOff ()) q fun change _ => ∀ on, change ≠ .whole on := by
        dsimp only [readOff]
        split
        · refine finds_bind fun symbol r => ?_
          split
          · exact finds_bind fun _ _ => finds_complain_bind _ _
          · split
            · exact finds_bind hbehindOff
            · exact finds_bind hbehindOff
        · exact finds_bind hbehindOff
      split
      · exact finds_bind fun _ _ => finds_complain_bind _ _
      · exact hreadOff.imp (fun _ _ hnot on hon => absurd hon (hnot on)) fun _ => id
  split
  · rename_i mode
    refine (finds_readModesOn fuel mode []).bind fun answer q hon => ?_
    refine (hbehindOn answer q).imp (fun change r hchange on hwhole => ?_) fun _ => id
    obtain ⟨hclosed, rfl, rfl⟩ := hchange on hwhole
    obtain ⟨letters, modes, hletters, hspells, hmodes⟩ := hon hclosed
    exact ⟨mode, letters, modes, rfl, hletters, hspells, hmodes⟩
  · refine (hbehindOn ([], '-') p).imp (fun change r hchange on hwhole => ?_) fun _ => id
    exact absurd (hchange on hwhole).1 (by decide)

theorem finds_readExtension (start : Nat) :
    Finds (readExtension start) p fun opening q => ∀ on, opening = .wholeModes on →
      ∃ letters, p.rest = letters ++ ')' :: q.rest ∧ Spells letters on := by
  refine finds_take.bind fun answer q htaken => ?_
  split
  · exact finds_bind fun _ _ => finds_complain _ _
  · refine finds_bind fun named r => ?_
    split
    · exact finds_bind fun _ _ => nofun
    · refine finds_bind fun referred s => ?_
      split
      · exact nofun
      · refine finds_bind fun symbol t => ?_
        split <;> exact finds_bind fun _ _ => finds_complain _ _
  · exact nofun
  · refine finds_bind ?_
    rintro ⟨_, closed⟩ r
    dsimp only
    split
    · exact nofun
    · exact finds_complain _ _
  · exact nofun
  · exact nofun
  · refine finds_bind fun symbol r => ?_
    split
    · exact finds_bind fun _ _ => finds_complain _ _
    · exact nofun
    · exact nofun
    · exact finds_bind fun _ _ => finds_complain _ _
  · exact nofun
  · exact nofun
  · rename_i symbol _ _ _ _ _ _ _ _
    split
    · refine (finds_readModeChange symbol.mode?).bind fun change r hchange => ?_
      split
      · rename_i on
        rintro _ ⟨⟩
        obtain ⟨mode, letters, modes, hmode, hletters, hspells, rfl⟩ := hchange on rfl
        obtain ⟨c, rfl, hc⟩ := plain_of_mode? hmode
        refine ⟨c :: letters, ?_, spells_cons hc hspells⟩
        rw [htaken.2 _ rfl, hletters]
        rfl
      · exact nofun
    · exact finds_bind fun _ _ => finds_complain _ _

theorem finds_readOpening (start : Nat) :
    Finds (readOpening start) p fun opening q => ∀ on, opening = .wholeModes on →
      ∃ letters, p.rest = '?' :: (letters ++ ')' :: q.rest) ∧ Spells letters on := by
  refine (finds_accept '?').bind fun extended q hq => ?_
  split
  · rename_i hextended
    obtain ⟨-, hfront⟩ := hq.resolve_right fun h => by cases hextended.symm.trans h.1
    refine (finds_readExtension start).imp (fun opening r hopening on hon => ?_) fun _ => id
    obtain ⟨letters, hletters, hspells⟩ := hopening on hon
    exact ⟨letters, by rw [hfront, hletters], hspells⟩
  · exact nofun

/-- Steady reading goes on from what it finds, or complains. -/
theorem Finds.leads {m : ReadM α} {post : α → Progress → Prop} {blame : Fault → Prop}
    (h : Finds m p post) (hsteady : Steady m) (hblame : ∀ fault, fault.IsComplaint → blame fault) :
    Leads m p (fun answer q => post answer q ∧ p.Onward q) blame :=
  (h.and (hsteady p)).imp (fun _ _ => id) fun fault hfault => hblame fault hfault.2

/-! ## Repetitions -/

theorem leads_repetitions? (digits : List Char) :
    Leads (repetitions? digits) p (fun _ q => q = p) (Refused digits) := by
  unfold repetitions?
  split
  · exact rfl
  · split
    · exact .tooLong ‹_›
    · rename_i hlength
      dsimp only
      split
      · exact .tooLarge (Nat.le_of_not_lt hlength) ‹_›
      · exact rfl

/-- The faults of bounds in front of which the text `rest` stands. -/
def BoundsFault (rest : List Char) (fault : Fault) : Prop :=
  fault.IsComplaint ∨ Excess rest fault

theorem leads_readBraces : Leads readBraces p (fun _ q => p.Onward q) (BoundsFault p.rest) := by
  have hcomplaint : ∀ fault : Fault, fault.IsComplaint → BoundsFault p.rest fault := fun _ => .inl
  refine leads_get_bind (leads_peek_bind ?_)
  split
  · exact .refl p
  · refine ((finds_takeWhile Char.isDigit).leads (steady_takeWhile _) hcomplaint).bind ?_
    rintro first q ⟨⟨hfirst, hdigits⟩, hq⟩
    refine ((finds_accept ',').leads (steady_accept _) hcomplaint).bind ?_
    rintro comma r ⟨hcomma, hr⟩
    extract_lets close
    -- What has been read so far holds the digits of both numbers.
    have hclose : ∀ second inside numbers s, Numbers inside numbers → first ∈ numbers →
        second ∈ numbers → p.rest = inside ++ s.rest → p.Onward s →
        Leads (close second) s (fun _ t => p.Onward t) (BoundsFault p.rest) := by
      intro second inside numbers s hnumbers hfirst hsecond hinside hs
      refine ((finds_accept '\x7d').leads (steady_accept _) hcomplaint).bind ?_
      rintro closed t ⟨hclosed, ht⟩
      split
      · rename_i htaken
        obtain ⟨-, hbrace⟩ := hclosed.resolve_right fun h => by cases htaken.symm.trans h.1
        have hexcess : ∀ digits ∈ numbers, ∀ fault, Refused digits fault →
            BoundsFault p.rest fault := by
          intro digits hdigits fault hrefused
          exact .inr ⟨inside, t.rest, numbers, by rw [hinside, hbrace], hnumbers, digits, hdigits,
            hrefused⟩
        refine ((leads_repetitions? first).imp (fun _ _ => id) (hexcess first hfirst)).bind ?_
        rintro low _ rfl
        refine ((leads_repetitions? second).imp (fun _ _ => id) (hexcess second hsecond)).bind ?_
        rintro high _ rfl
        dsimp only
        split
        · split
          · exact .inl ⟨_, _, rfl⟩
          · exact hs.trans ht
        · exact hs.trans ht
      · exact .refl p
    rcases hcomma with ⟨rfl, hcomma⟩ | ⟨rfl, rfl⟩
    · refine ((finds_takeWhile Char.isDigit).leads (steady_takeWhile _) hcomplaint).bind ?_
      rintro second s ⟨⟨hsecond, hdigits'⟩, hs⟩
      refine hclose second (first ++ ',' :: second) [first, second] s (.two hdigits hdigits')
        (by simp) (by simp) ?_ (hq.trans (hr.trans hs))
      rw [hfirst, hcomma, hsecond, List.append_assoc]
      rfl
    · exact hclose first first [first] r (.one hdigits) (by simp) (by simp) hfirst hq

theorem leads_readBounds (c : Char) : Leads (readBounds c) p (fun _ q => p.Onward q) fun fault =>
    fault.IsComplaint ∨ c ≠ '?' ∧ c ≠ '*' ∧ c ≠ '+' ∧ Excess p.rest fault := by
  unfold readBounds
  split
  · exact .refl p
  · split
    · exact .refl p
    · split
      · exact .refl p
      · rename_i hopt hstar hplus
        refine leads_readBraces.imp (fun _ _ => id) fun fault hfault => ?_
        refine hfault.imp id fun h => ⟨?_, ?_, ?_, h⟩
        · simpa using hopt
        · simpa using hstar
        · simpa using hplus

/-! ## Branches, sequences and groups -/

/-- Progress in a text, with no classes of characters chosen but those that the text asks for. -/
structure Within (text : List Char) (p : Progress) : Prop where
  rest : p.rest <:+ text
  ascii : p.modes.ascii = true → Sets text .ascii
  unicode : p.modes.unicode = true → Sets text .unicode

/-- Reading that stays within a text, whose faults the text warrants. -/
def Reads (text : List Char) (m : ReadM α) : Prop :=
  ∀ p, Within text p → Leads m p (fun _ q => Within text q) (Warrants text)

variable {text : List Char}

theorem Within.onward {q : Progress} (h : Within text p) (hq : p.Onward q) : Within text q :=
  ⟨hq.rest.trans h.rest, hq.modes ▸ h.ascii, hq.modes ▸ h.unicode⟩

theorem warrants_of_isComplaint (fault : Fault) (h : fault.IsComplaint) : Warrants text fault := by
  obtain ⟨complaint, position, rfl⟩ := h
  trivial

theorem warrants_of_overflows {fault : Fault} (h : Overflows text fault) : Warrants text fault := by
  obtain ⟨-, -, -, -, -, -, -, -, digits, -, hrefused⟩ := id h
  cases hrefused with
  | tooLong | tooLarge => exact h

theorem Steady.reads {m : ReadM α} (h : Steady m) : Reads text m := by
  intro p hp
  exact (h p).imp (fun _ _ => hp.onward) warrants_of_isComplaint

theorem Reads.bind {m : ReadM α} {next : α → ReadM β} (h : Reads text m)
    (hnext : ∀ answer, Reads text (next answer)) : Reads text (m >>= next) :=
  fun p hp => (h p hp).bind hnext

theorem Steady.reads_bind {m : ReadM α} {next : α → ReadM β} (h : Steady m)
    (hnext : ∀ answer, Reads text (next answer)) : Reads text (m >>= next) :=
  h.reads.bind hnext

theorem ascii_turnOn (modes : Modes) (mode : Mode) (h : (modes.turnOn mode).ascii = true) :
    modes.ascii = true ∨ mode = .ascii := by
  cases mode <;> simp_all [Modes.turnOn]

theorem unicode_turnOn (modes : Modes) (mode : Mode) (h : (modes.turnOn mode).unicode = true) :
    modes.unicode = true ∨ mode = .unicode := by
  cases mode <;> simp_all [Modes.turnOn]

/-- What only one mode turns on was on before, or that mode is among those turned on. -/
theorem mem_of_foldl_turnOn {isOn : Modes → Bool} {mode : Mode}
    (hturn : ∀ modes other, isOn (modes.turnOn other) = true → isOn modes = true ∨ other = mode)
    {on : List Mode} {modes : Modes} (h : isOn (on.foldl Modes.turnOn modes) = true) :
    isOn modes = true ∨ mode ∈ on := by
  induction on generalizing modes with
  | nil => exact .inl h
  | cons first rest ih =>
    rcases ih h with hmodes | hmem
    · rcases hturn modes first hmodes with hmodes | rfl
      · exact .inl hmodes
      · exact .inr (.head rest)
    · exact .inr (.tail _ hmem)

theorem Within.turnOn {on : List Mode} (h : Within text p) (hsets : ∀ mode ∈ on, Sets text mode) :
    Within text { p with modes := on.foldl Modes.turnOn p.modes } where
  rest := h.rest
  ascii hascii := (mem_of_foldl_turnOn ascii_turnOn hascii).elim h.ascii (hsets .ascii)
  unicode hunicode :=
    (mem_of_foldl_turnOn unicode_turnOn hunicode).elim h.unicode (hsets .unicode)

/-- The modes of an opening that has been taken are set in the text. -/
theorem sets_of_opening {q r : Progress} {letters : List Char} {on : List Mode}
    (hp : Within text p) (hfront : p.rest = '(' :: q.rest)
    (hletters : q.rest = '?' :: (letters ++ ')' :: r.rest)) (hspells : Spells letters on) :
    ∀ mode ∈ on, Sets text mode := by
  obtain ⟨before, hbefore⟩ := hp.rest
  refine fun mode hmode => ⟨before, letters, r.rest, on, ?_, hspells, hmode⟩
  rw [← hbefore, hfront, hletters]

/-- The bounds behind a character that may have some. -/
theorem leads_bounds {q : Progress} {c : Char} (hp : Within text p) (hq : Within text q)
    (hfront : p.rest = c :: q.rest)
    (hc : (c == '*' || c == '+' || c == '?' || c == '\x7b') = true) :
    Leads (readBounds c) q (fun _ r => Within text r) (Warrants text) := by
  refine (leads_readBounds c).imp (fun _ _ => hq.onward) ?_
  rintro fault (hcomplaint | ⟨hopt, hstar, hplus, hexcess⟩)
  · exact warrants_of_isComplaint fault hcomplaint
  · obtain ⟨before, hbefore⟩ := hp.rest
    have hbrace : c = '\x7b' := by simpa [hopt, hstar, hplus] using hc
    exact warrants_of_overflows ⟨before, q.rest, by rw [← hbefore, hfront, hbrace], hexcess⟩

/-- Reading with so much fuel stays within the text. -/
structure ReadsWith (text : List Char) (fuel : Nat) : Prop where
  branches : ∀ top modes, Reads text (readBranches fuel top modes)
  moreBranches : ∀ top modes, Reads text (readMoreBranches fuel top modes)
  sequence : ∀ first modes done, Reads text (readSequence fuel first modes done)
  group : ∀ start modes opening, Reads text (readGroup fuel start modes opening)

namespace ReadsWith
variable {fuel : Nat}

theorem branches_succ (h : ReadsWith text fuel) (top : Bool) (modes : Modes) :
    Reads text (readBranches (fuel + 1) top modes) := by
  rw [readBranches]
  refine (h.sequence top modes []).bind fun first => ?_
  exact (h.moreBranches top modes).bind fun rest => (steady_pure _).reads

theorem moreBranches_succ (h : ReadsWith text fuel) (top : Bool) (modes : Modes) :
    Reads text (readMoreBranches (fuel + 1) top modes) := by
  rw [readMoreBranches]
  refine (steady_accept '|').reads_bind fun more => ?_
  split
  · refine steady_get.reads_bind fun p => ?_
    refine (h.sequence false _ []).bind fun next => ?_
    exact (h.moreBranches top _).bind fun rest => (steady_pure _).reads
  · exact (steady_pure _).reads

theorem body (h : ReadsWith text fuel) (start : Nat) (modes : Modes) (wrap : Node → Node) :
    Reads text (do
      let body ← readBranches fuel false modes
      closeParenthesis start
      return wrap body) := by
  refine (h.branches false modes).bind fun body => ?_
  exact (steady_closeParenthesis start).reads_bind fun _ => (steady_pure _).reads

theorem group_succ (h : ReadsWith text fuel) (start : Nat) (modes : Modes) (opening : Opening) :
    Reads text (readGroup (fuel + 1) start modes opening) := by
  unfold readGroup
  -- In the order of the openings: numbered, atomic, look-around, condition, modes, all others.
  split
  · refine (steady_openGroup _).reads_bind fun index => ?_
    refine (h.branches false modes).bind fun body => ?_
    refine (steady_closeParenthesis start).reads_bind fun _ => ?_
    exact (steady_closeGroup index body).reads_bind fun _ => (steady_pure _).reads
  · exact h.body start modes .atomic
  · rename_i behind negated
    refine steady_get.reads_bind fun p => ?_
    extract_lets outer readBody
    have hreadBody : ∀ opened, Reads text (readBody opened) := by
      intro opened
      refine (h.branches false modes).bind fun body => ?_
      extract_lets close
      have hclose : ∀ closed, Reads text (close closed) := fun closed =>
        (steady_closeParenthesis start).reads_bind fun _ =>
          steady_get.reads_bind fun _ => (steady_pure _).reads
      split
      · refine Steady.reads_bind (steady_modify ?_) hclose
        exact fun _ => ⟨List.suffix_rfl, rfl⟩
      · exact hclose ()
    split
    · refine Steady.reads_bind (steady_modify ?_) hreadBody
      exact fun _ => ⟨List.suffix_rfl, rfl⟩
    · exact hreadBody ()
  · refine steady_readCondition.reads_bind fun index => ?_
    refine (h.sequence false modes []).bind fun present => ?_
    refine (steady_accept '|').reads_bind fun more => ?_
    extract_lets behind
    have hbehind : ∀ absent, Reads text (behind absent) := fun absent =>
      (steady_closeParenthesis start).reads_bind fun _ => (steady_pure _).reads
    split
    · refine (h.sequence false modes []).bind fun absent => ?_
      refine steady_peek.reads_bind fun symbol => ?_
      extract_lets behindAbsent
      have hbehindAbsent : Reads text (behindAbsent ()) := (steady_pure _).reads_bind hbehind
      split
      · exact (steady_here.bind fun _ => steady_complain_bind _ _ _).reads
      · exact hbehindAbsent
    · exact (steady_pure _).reads_bind hbehind
  · exact h.body start _ (.group none)
  · exact h.body start modes (.group none)

theorem sequence_succ (h : ReadsWith text fuel) (first : Bool) (modes : Modes)
    (done : List Node) : Reads text (readSequence (fuel + 1) first modes done) := by
  intro p hp
  rw [readSequence]
  refine leads_peek_bind ?_
  split
  · exact hp
  · rename_i symbol hsymbol
    split
    · exact hp
    · refine leads_here_bind ?_
      refine (finds_take.leads steady_take warrants_of_isComplaint).bind ?_
      rintro answer q ⟨⟨hanswer, hrest⟩, hq⟩
      have hfront := hrest symbol (hanswer.trans hsymbol)
      replace hq : Within text q := hp.onward hq
      have hnext : ∀ modes done, Reads text (readSequence fuel first modes done) :=
        fun modes done => h.sequence first modes done
      split
      · exact hnext modes done q hq
      · split
        · exact (steady_takeThrough '\n').reads_bind (fun _ => hnext modes done) q hq
        -- Of the symbols only a parenthesis may set modes, and only a brace asks for a number.
        · split
          · exact (steady_nodeEscape modes _).reads_bind (fun _ => hnext modes _) q hq
          · exact (steady_readSetNode modes).reads_bind (fun _ => hnext modes _) q hq
          · exact hnext modes _ q hq
          · exact hnext modes _ q hq
          · exact hnext modes _ q hq
          · refine ((finds_readOpening _).leads (steady_readOpening _)
              warrants_of_isComplaint).bind ?_
            rintro opening r ⟨hopening, hr⟩
            replace hr : Within text r := hq.onward hr
            split
            · exact hnext modes done r hr
            · rename_i on
              obtain ⟨letters, hletters, hspells⟩ := hopening on rfl
              have hsets := sets_of_opening hp hfront hletters hspells
              split
              · trivial
              · exact hnext _ done _ (hr.turnOn hsets)
            · exact (steady_readNameReference modes).reads_bind (fun _ => hnext modes _) r hr
            · exact (h.group _ modes _).bind (fun _ => hnext modes _) r hr
          · rename_i c _ _ _ _ _ _ _ _
            split
            · rename_i hc
              refine (leads_bounds hp hq hfront hc).bind fun bounds r hr => ?_
              split
              · exact (steady_repeatLast _ _ done).reads_bind (fun _ => hnext modes _) r hr
              · exact hnext modes _ r hr
            · exact hnext modes _ q hq

theorem zero : ReadsWith text 0 where
  branches _ _ := (steady_here.bind fun _ => steady_complain _ _).reads
  moreBranches _ _ := (steady_here.bind fun _ => steady_complain _ _).reads
  sequence _ _ _ := (steady_here.bind fun _ => steady_complain _ _).reads
  group _ _ _ := (steady_here.bind fun _ => steady_complain _ _).reads

end ReadsWith

theorem readsWith (text : List Char) (fuel : Nat) : ReadsWith text fuel := by
  induction fuel with
  | zero => exact .zero
  | succ fuel ih =>
    exact ⟨ih.branches_succ, ih.moreBranches_succ, ih.sequence_succ, ih.group_succ⟩

theorem reads_readPattern (text : List Char) : Reads text readPattern := by
  refine steady_checkEnd.reads_bind fun _ p hp => leads_get_bind ?_
  refine ((readsWith text _).branches true p.modes p hp).bind fun node q hq => leads_get_bind ?_
  extract_lets check checkRest
  have hcheck : Leads (check ()) q (fun _ r => Within text r) (Warrants text) := by
    dsimp only [check]
    split
    · trivial
    · split
      · trivial
      · exact hq
  have hcheckRest : Leads (checkRest ()) q (fun _ r => Within text r) (Warrants text) := by
    dsimp only [checkRest]
    split
    · trivial
    · exact hcheck
  split
  · rename_i hclash
    rw [Bool.and_eq_true] at hclash
    exact ⟨hq.ascii hclash.1, hq.unicode hclash.2⟩
  · exact hcheckRest

/-- A text is refused with a complaint, or it holds what its fault says. -/
theorem warrants_of_compile [characters : Text.CharacterNames] {source : String} {fault : Fault}
    (h : Pattern.compile source = .error fault) : Warrants source.toList fault := by
  have hstart : Within source.toList { characters, rest := source.toList, modes := {} } :=
    ⟨List.suffix_rfl, nofun, nofun⟩
  have hreads := reads_readPattern source.toList _ hstart
  unfold compile at h
  split at h
  · cases h
  · rename_i other hother
    cases h
    rw [Leads, show readPattern _ = _ from hother] at hreads
    exact hreads

end AsmKit.Pattern
