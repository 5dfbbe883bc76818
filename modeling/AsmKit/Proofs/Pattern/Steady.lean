import AsmKit.Pattern.Reader

/-! # How reading goes on

Each function that reads a part of a pattern either complains or takes
characters off the front of the text. The modes of the whole pattern are left
alone by all of them except those that read sequences, and only the number of
repetitions has a fault of another kind. -/
namespace AsmKit.Pattern

variable {α β : Type}

/-! ## Outcomes -/

/-- What reading from some progress leads to: an answer and progress as `post` says, or a fault as
`blame` says. -/
def Leads (m : ReadM α) (p : Progress) (post : α → Progress → Prop) (blame : Fault → Prop) : Prop :=
  match m p with
  | .ok (answer, q) => post answer q
  | .error fault => blame fault

section Leads
variable {m : ReadM α} {next : α → ReadM β} {p : Progress} {mid : α → Progress → Prop}
  {post : β → Progress → Prop} {blame : Fault → Prop}

theorem Leads.bind (h : Leads m p mid blame)
    (hnext : ∀ answer q, mid answer q → Leads (next answer) q post blame) :
    Leads (m >>= next) p post blame := by
  unfold Leads at h
  rw [Leads, show (m >>= next) p = m p >>= fun outcome => next outcome.1 outcome.2 from rfl]
  cases hm : m p with
  | error fault =>
    rw [hm] at h
    exact h
  | ok outcome =>
    rw [hm] at h
    exact hnext _ _ h

theorem Leads.imp {stronger : α → Progress → Prop} {narrower : Fault → Prop}
    (h : Leads m p stronger narrower) (hpost : ∀ answer q, stronger answer q → mid answer q)
    (hblame : ∀ fault, narrower fault → blame fault) : Leads m p mid blame := by
  unfold Leads at h ⊢
  split <;> simp_all

theorem Leads.and {other : α → Progress → Prop} {also : Fault → Prop}
    (h : Leads m p mid blame) (h' : Leads m p other also) :
    Leads m p (fun answer q => mid answer q ∧ other answer q)
      fun fault => blame fault ∧ also fault := by
  unfold Leads at h h' ⊢
  split <;> simp_all

theorem leads_get_bind {next : Progress → ReadM β} (h : Leads (next p) p post blame) :
    Leads (get >>= next) p post blame := h

theorem leads_set_bind {later : Progress} {next : PUnit → ReadM β}
    (h : Leads (next ⟨⟩) later post blame) : Leads (set later >>= next) p post blame := h

theorem leads_here_bind {next : Nat → ReadM β} (h : Leads (next p.position) p post blame) :
    Leads (here >>= next) p post blame := h

theorem leads_peek_bind {next : Option Symbol → ReadM β}
    (h : Leads (next (symbolAt? p.rest)) p post blame) : Leads (peek >>= next) p post blame := h

end Leads

/-! ## Steady reading -/

/-- A fault that is a complaint. -/
def Fault.IsComplaint (fault : Fault) : Prop :=
  ∃ complaint position, fault = .malformed complaint position

/-- Progress made from `p` to `q` without a change of modes. -/
structure Progress.Onward (p q : Progress) : Prop where
  rest : q.rest <:+ p.rest
  modes : q.modes = p.modes

theorem Progress.Onward.refl (p : Progress) : p.Onward p := ⟨List.suffix_rfl, rfl⟩

theorem Progress.Onward.trans {p q r : Progress} (h : p.Onward q) (h' : q.Onward r) :
    p.Onward r :=
  ⟨h'.rest.trans h.rest, h'.modes.trans h.modes⟩

/-- Reading that goes on without a change of modes, or complains. -/
def Steady (m : ReadM α) : Prop := ∀ p, Leads m p (fun _ q => p.Onward q) Fault.IsComplaint

theorem steady_pure (answer : α) : Steady (pure answer) := fun p => .refl p

theorem steady_complain (complaint : Complaint) (position : Nat) :
    Steady (complain complaint position : ReadM α) := fun _ => ⟨_, _, rfl⟩

theorem steady_complain_bind (complaint : Complaint) (position : Nat) (next : α → ReadM β) :
    Steady (complain complaint position >>= next) := fun _ => ⟨_, _, rfl⟩

theorem steady_modify {f : Progress → Progress} (h : ∀ p : Progress, p.Onward (f p)) :
    Steady (modify f : ReadM PUnit) := h

theorem steady_get : Steady (get : ReadM Progress) := .refl

theorem Steady.bind {m : ReadM α} {next : α → ReadM β} (h : Steady m)
    (hnext : ∀ answer, Steady (next answer)) : Steady (m >>= next) := by
  intro p
  refine (h p).bind fun answer q hq => ?_
  exact (hnext answer q).imp (fun _ _ => hq.trans) fun _ => id

theorem steady_here : Steady here := steady_get.bind fun p => steady_pure p.position

theorem steady_peek : Steady peek := steady_get.bind fun p => steady_pure (symbolAt? p.rest)

theorem steady_checkEnd : Steady checkEnd := by
  refine steady_get.bind fun p => ?_
  split
  · exact steady_complain _ _
  · exact steady_pure _

theorem steady_take : Steady take := by
  refine fun p => leads_get_bind ?_
  split
  · exact .refl p
  · rename_i symbol _
    let q : Progress := { p with
      rest := p.rest.drop symbol.text.length, position := p.position + symbol.text.length }
    have hq : p.Onward q := ⟨List.drop_suffix _ _, rfl⟩
    have hend := (steady_checkEnd.bind fun _ => steady_pure (some symbol)) q
    exact hend.imp (fun _ _ => hq.trans) fun _ => id

theorem steady_accept (c : Char) : Steady (accept c) := by
  refine steady_peek.bind fun symbol => ?_
  split
  · exact steady_take.bind fun _ => steady_pure true
  · exact steady_pure false

theorem steady_takeUpTo (test : Char → Bool) (n : Nat) : Steady (takeUpTo test n) := by
  induction n with
  | zero => exact steady_pure []
  | succ n ih =>
    rw [takeUpTo]
    refine steady_peek.bind fun symbol => ?_
    split
    · split
      · exact steady_take.bind fun _ => ih.bind fun _ => steady_pure _
      · exact steady_pure []
    · exact steady_pure []

theorem steady_takeWhile (test : Char → Bool) : Steady (takeWhile test) :=
  steady_get.bind fun p => steady_takeUpTo test p.rest.length

theorem steady_takeUntil (closing : Char) (n : Nat) : Steady (takeUntil closing n) := by
  induction n with
  | zero => exact steady_pure _
  | succ n ih =>
    rw [takeUntil]
    refine steady_take.bind fun symbol => ?_
    split
    · exact steady_pure _
    · split
      · exact steady_pure _
      · exact ih.bind fun _ => steady_pure _

theorem steady_takeThrough (closing : Char) : Steady (takeThrough closing) :=
  steady_get.bind fun p => steady_takeUntil closing (p.rest.length + 1)

theorem steady_takeName (closing : Char) (what : String) : Steady (takeName closing what) := by
  refine (steady_takeThrough closing).bind ?_
  rintro ⟨text, closed⟩
  refine steady_here.bind fun position => ?_
  split
  · exact steady_complain _ _
  · exact steady_complain _ _
  · exact steady_pure _
  · exact steady_complain _ _

/-! ## Escapes and sets -/

theorem steady_complainEscape (complaint : String → Complaint) (escape : List Char) :
    Steady (complainEscape complaint escape : ReadM α) :=
  steady_here.bind fun _ => steady_complain _ _

theorem steady_hexEscape (c : Char) (size : Nat) : Steady (hexEscape c size) := by
  refine (steady_takeUpTo Text.isHex size).bind fun digits => ?_
  dsimp only
  split
  · exact steady_complainEscape _ _
  · split
    · exact steady_complainEscape _ _
    · exact steady_pure _

theorem steady_namedEscape : Steady namedEscape := by
  refine (steady_accept '\x7b').bind fun open' => ?_
  split
  · refine (steady_takeName '\x7d' "character name").bind fun name => ?_
    refine steady_get.bind fun p => ?_
    split
    · exact steady_pure _
    · exact steady_here.bind fun _ => steady_complain _ _
  · exact steady_here.bind fun _ => steady_complain _ _

theorem steady_octalEscape (escape : List Char) : Steady (octalEscape escape) := by
  unfold octalEscape
  dsimp only
  split
  · exact steady_complainEscape _ _
  · exact steady_pure _

theorem steady_pointEscape (c : Char) : Steady (pointEscape c) := by
  unfold pointEscape
  split
  · exact steady_hexEscape c 2
  · split
    · exact steady_hexEscape c 4
    · split
      · exact steady_hexEscape c 8
      · split
        · exact steady_namedEscape
        · split
          · exact steady_complainEscape _ _
          · exact steady_pure _

theorem steady_setEscape (modes : Modes) (c : Char) : Steady (setEscape modes c) := by
  unfold setEscape
  split
  · exact steady_pure _
  · split
    · exact steady_pure _
    · split
      · refine (steady_takeUpTo isOctal 2).bind fun digits => ?_
        exact (steady_octalEscape _).bind fun _ => steady_pure _
      · exact (steady_pointEscape c).bind fun _ => steady_pure _

theorem steady_checkLookBehind (index : Nat) : Steady (checkLookBehind index) := by
  refine steady_get.bind fun p => ?_
  split
  · exact steady_pure _
  · split
    · exact steady_complain _ _
    · split
      · exact steady_complain _ _
      · exact steady_pure _

theorem steady_groupEscape (modes : Modes) (escape : List Char) :
    Steady (groupEscape modes escape) := by
  refine steady_get.bind fun p => ?_
  dsimp only
  split
  · split
    · exact steady_complain_bind _ _ _
    · exact (steady_checkLookBehind _).bind fun _ => steady_pure _
  · exact steady_complain _ _

theorem steady_digitEscape (modes : Modes) (c : Char) : Steady (digitEscape modes c) := by
  unfold digitEscape
  split
  · exact (steady_takeUpTo isOctal 2).bind fun _ => steady_pure _
  · refine (steady_takeUpTo Char.isDigit 1).bind fun digits => ?_
    split
    · rename_i d
      extract_lets tail
      have htail : ∀ third, Steady (tail third) := by
        intro third
        dsimp only [tail]
        split
        · exact steady_groupEscape _ _
        · exact (steady_octalEscape _).bind fun _ => steady_pure _
      split
      · exact (steady_takeUpTo isOctal 1).bind htail
      · exact (steady_pure _).bind htail
    · exact steady_groupEscape _ _

theorem steady_nodeEscape (modes : Modes) (c : Char) : Steady (nodeEscape modes c) := by
  unfold nodeEscape
  split
  · exact steady_pure _
  · split
    · exact steady_pure _
    · split
      · exact steady_pure _
      · split
        · exact steady_digitEscape modes c
        · exact (steady_pointEscape c).bind fun _ => steady_pure _

theorem steady_setMember (modes : Modes) (symbol : Symbol) : Steady (setMember modes symbol) := by
  cases symbol with
  | plain c => exact steady_pure _
  | escaped c => exact steady_setEscape modes c

theorem steady_readSet (modes : Modes) (start fuel : Nat) (done : List SetItem) :
    Steady (readSet modes start fuel done) := by
  induction fuel generalizing done with
  | zero => exact steady_complain _ _
  | succ fuel ih =>
    rw [readSet]
    refine steady_take.bind fun symbol => ?_
    split
    · exact steady_complain _ _
    · split
      · exact steady_pure _
      · refine (steady_setMember modes _).bind fun low => ?_
        refine (steady_accept '-').bind fun ranged => ?_
        split
        · refine steady_take.bind fun last => ?_
          split
          · exact steady_complain _ _
          · split
            · exact steady_pure _
            · refine (steady_setMember modes _).bind fun high => ?_
              refine steady_here.bind fun place => ?_
              dsimp only
              split
              · split
                · exact steady_complain _ _
                · exact ih _
              · exact steady_complain _ _
        · exact ih _

theorem steady_readSetNode (modes : Modes) : Steady (readSetNode modes) := by
  refine steady_here.bind fun place => ?_
  refine (steady_accept '^').bind fun negated => ?_
  refine steady_get.bind fun p => ?_
  exact (steady_readSet modes _ _ _).bind fun _ => steady_pure _

/-! ## Loops -/

theorem steady_readGreed : Steady readGreed := by
  refine (steady_accept '?').bind fun lazy => ?_
  split
  · exact steady_pure _
  · refine (steady_accept '+').bind fun possessive => ?_
    split
    · exact steady_pure _
    · exact steady_pure _

theorem steady_repeatLast (bounds : Bounds) (start : Nat) (done : List Node) :
    Steady (repeatLast bounds start done) := by
  unfold repeatLast
  split
  · exact steady_complain _ _
  · exact steady_complain _ _
  · exact steady_complain _ _
  · exact steady_readGreed.bind fun _ => steady_pure _

/-! ## Groups -/

theorem steady_complainMode (symbol : Symbol) (otherwise : String) :
    Steady (complainMode symbol otherwise : ReadM α) :=
  steady_here.bind fun _ => steady_complain _ _

theorem steady_readModesOn (fuel : Nat) (mode : Mode) (done : List Mode) :
    Steady (readModesOn fuel mode done) := by
  induction fuel generalizing mode done with
  | zero => exact steady_pure _
  | succ fuel ih =>
    rw [readModesOn]
    dsimp only
    split
    · exact steady_here.bind fun _ => steady_complain_bind _ _ _
    · split
      · exact steady_here.bind fun _ => steady_complain_bind _ _ _
      · refine steady_take.bind fun symbol => ?_
        split
        · exact steady_here.bind fun _ => steady_complain _ _
        · split
          · exact ih _ _
          · split
            · exact steady_pure _
            · exact steady_pure _
            · exact steady_pure _
            · exact steady_complainMode _ _

theorem steady_readModesOff (fuel : Nat) (mode : Mode) (done : List Mode) :
    Steady (readModesOff fuel mode done) := by
  induction fuel generalizing mode done with
  | zero => exact steady_pure _
  | succ fuel ih =>
    rw [readModesOff]
    dsimp only
    split
    · exact steady_here.bind fun _ => steady_complain_bind _ _ _
    · refine steady_take.bind fun symbol => ?_
      split
      · exact steady_here.bind fun _ => steady_complain _ _
      · split
        · exact steady_pure _
        · split
          · exact ih _ _
          · exact steady_complainMode _ _

theorem steady_readModeChange (first : Option Mode) : Steady (readModeChange first) := by
  refine steady_get.bind fun p => ?_
  extract_lets fuel behindOn
  have hbehindOn : ∀ answer, Steady (behindOn answer) := by
    rintro ⟨on, closing⟩
    dsimp -zeta only [behindOn]
    split
    · exact steady_pure _
    · extract_lets behindOff readOff
      have hbehindOff : ∀ off, Steady (behindOff off) := by
        intro off
        dsimp only [behindOff]
        split
        · exact steady_here.bind fun _ => steady_complain_bind _ _ _
        · split
          · exact steady_here.bind fun _ => steady_complain_bind _ _ _
          · exact steady_pure _
      have hreadOff : Steady (readOff ()) := by
        dsimp only [readOff]
        split
        · refine steady_take.bind fun symbol => ?_
          split
          · exact steady_here.bind fun _ => steady_complain_bind _ _ _
          · split
            · exact (steady_readModesOff _ _ _).bind hbehindOff
            · exact (steady_complainMode _ _).bind hbehindOff
        · exact (steady_pure _).bind hbehindOff
      split
      · exact steady_here.bind fun _ => steady_complain_bind _ _ _
      · exact hreadOff
  split
  · exact (steady_readModesOn _ _ _).bind hbehindOn
  · exact (steady_pure _).bind hbehindOn

theorem steady_takeGroupName (closing : Char) : Steady (takeGroupName closing) := by
  refine (steady_takeName closing "group name").bind fun name => ?_
  split
  · exact steady_pure _
  · exact steady_here.bind fun _ => steady_complain _ _

theorem steady_readNameReference (modes : Modes) : Steady (readNameReference modes) := by
  refine (steady_takeGroupName ')').bind fun name => ?_
  refine steady_get.bind fun p => ?_
  split
  · exact steady_complain _ _
  · split
    · exact steady_complain_bind _ _ _
    · exact (steady_checkLookBehind _).bind fun _ => steady_pure _

theorem steady_readCondition : Steady readCondition := by
  refine (steady_takeName ')' "group name").bind fun name p => leads_get_bind ?_
  extract_lets start behindIndex
  have hbehind : ∀ index, Steady (behindIndex index) := fun index =>
    (steady_checkLookBehind index).bind fun _ => steady_pure _
  split
  · split
    · exact steady_complain_bind _ _ _ p
    · exact hbehind _ p
  · split
    · exact steady_complain_bind _ _ _ p
    · split
      · exact steady_complain_bind _ _ _ p
      · split
        · exact steady_complain_bind _ _ _ p
        · split
          · exact steady_complain_bind _ _ _ p
          · extract_lets index asked
            split
            · exact (hbehind index _).imp (fun _ _ h => ⟨h.rest, h.modes⟩) fun _ => id
            · exact hbehind index p

theorem steady_openGroup (name : Option String) : Steady (openGroup name) := by
  refine fun p => leads_get_bind ?_
  dsimp only
  split
  · exact ⟨List.suffix_rfl, rfl⟩
  · split
    · exact ⟨_, _, rfl⟩
    · exact ⟨List.suffix_rfl, rfl⟩

theorem steady_closeGroup (index : Nat) (body : Node) : Steady (closeGroup index body) :=
  steady_modify fun _ => ⟨List.suffix_rfl, rfl⟩

theorem steady_closeParenthesis (start : Nat) : Steady (closeParenthesis start) := by
  refine (steady_accept ')').bind fun closed => ?_
  split
  · exact steady_complain _ _
  · exact steady_pure _

theorem steady_readExtension (start : Nat) : Steady (readExtension start) := by
  refine steady_take.bind fun symbol => ?_
  split
  · exact steady_here.bind fun _ => steady_complain _ _
  · refine (steady_accept '<').bind fun named => ?_
    split
    · exact (steady_takeGroupName '>').bind fun _ => steady_pure _
    · refine (steady_accept '=').bind fun referred => ?_
      split
      · exact steady_pure _
      · refine steady_take.bind fun symbol => ?_
        split <;> exact steady_here.bind fun _ => steady_complain _ _
  · exact steady_pure _
  · refine (steady_takeThrough ')').bind ?_
    rintro ⟨_, closed⟩
    dsimp only
    split
    · exact steady_pure _
    · exact steady_complain _ _
  · exact steady_pure _
  · exact steady_pure _
  · refine steady_take.bind fun symbol => ?_
    split
    · exact steady_here.bind fun _ => steady_complain _ _
    · exact steady_pure _
    · exact steady_pure _
    · exact steady_here.bind fun _ => steady_complain _ _
  · exact steady_pure _
  · exact steady_pure _
  · split
    · refine (steady_readModeChange _).bind fun change => ?_
      split <;> exact steady_pure _
    · exact steady_here.bind fun _ => steady_complain _ _

theorem steady_readOpening (start : Nat) : Steady (readOpening start) := by
  refine (steady_accept '?').bind fun extended => ?_
  split
  · exact steady_readExtension start
  · exact steady_pure _

end AsmKit.Pattern
