import AsmKit.Json.Reader
import Mathlib.Data.List.TakeWhile

/-! # Reading within limits

Limits decide whether a text is read, not what is read from it. Under wider
limits a text is read as under narrower ones, unless it goes beyond these: it
has more digits in a row than a number may have, or opens more lists and records
than there is room for. The step lemmas follow the reader. They compare two
readings of the same text, and say how much of it has been opened where a value
ends. -/
namespace AsmKit.Json

/-- Limits that allow all that others do. -/
structure Limits.Below (limits wider : Limits) : Prop where
  digits : limits.digits ≤ wider.digits
  depth : limits.depth ≤ wider.depth

/-- Whether a character opens a list or a record. -/
def opens (c : Char) : Bool := c == '[' || c == '\x7b'

/-- What goes beyond the limits in a text, and the fault for it. -/
inductive Exceeds (limits : Limits) (text : List Char) : Fault → Prop
  | longNumber {before digits after : List Char} : text = before ++ digits ++ after →
      (∀ c ∈ digits, isNumberDigit c = true) → limits.digits < digits.length →
      Exceeds limits text (.longNumber digits.length)
  | deepList : limits.depth < text.countP opens → Exceeds limits text .deepList
  | deepRecord : limits.depth < text.countP opens → Exceeds limits text .deepRecord

/-- The text stands for a value: it is read from the text under some limits. -/
def Denotes (text : List Char) (value : Datum) : Prop := ∃ limits, read limits text = .ok value

/-- A fault that limits are to blame for. -/
def Fault.IsExcess : Fault → Prop
  | .malformed _ _ | .halfCharacter => False
  | .longNumber _ | .deepList | .deepRecord => True

/-! ## Places in a text -/

/-- What is left of a text where at least so many lists and records have been opened. -/
def Left (text : List Char) (opened : Nat) (rest : List Char) : Prop :=
  ∃ before, text = before ++ rest ∧ opened ≤ before.countP opens

variable {limits : Limits} {text rest later : List Char} {opened : Nat} {cur : Cursor}

theorem Left.suffix (h : Left text opened rest) (hlater : later <:+ rest) :
    Left text opened later := by
  obtain ⟨before, rfl, hopened⟩ := h
  obtain ⟨between, rfl⟩ := hlater
  exact ⟨before ++ between, by simp, by rw [List.countP_append]; omega⟩

theorem Left.drop (h : Left text opened rest) (n : Nat) : Left text opened (rest.drop n) :=
  h.suffix (List.drop_suffix n rest)

theorem Left.skip (h : Left text opened cur.rest) (n : Nat) :
    Left text opened (cur.skip n).rest := h.drop n

theorem Left.skipSpaces (h : Left text opened cur.rest) : Left text opened cur.skipSpaces.rest :=
  h.skip _

/-- The value behind an opening bracket stands one level deeper. -/
theorem Left.opening {c : Char} (h : Left text opened cur.rest) (hrest : cur.rest = c :: rest)
    (hc : opens c = true) : Left text (opened + 1) (cur.skip 1).rest := by
  obtain ⟨before, hbefore, hopened⟩ := h
  refine ⟨before ++ [c], ?_, ?_⟩
  · rw [hbefore, Cursor.skip, hrest]
    simp
  · rw [List.countP_append, List.countP_singleton, hc]
    exact Nat.succ_le_succ hopened

/-- An opening bracket that there is no room for. -/
theorem Left.exceeds {c : Char} (h : Left text opened (c :: rest)) (hc : opens c = true)
    (hroom : opened = limits.depth) : limits.depth < text.countP opens := by
  obtain ⟨before, rfl, hopened⟩ := h
  rw [List.countP_append, List.countP_cons_of_pos hc]
  omega

/-! ## Two readings -/

/-- Two readings of a part of a text, the first within narrower limits: both read the same, or both
fail alike, or the first exceeds its limits. -/
inductive Goes {β : Type} (limits : Limits) (text : List Char) (opened : Nat) :
    Except Fault (β × Cursor) → Except Fault (β × Cursor) → Prop
  | ok {value : β} {next : Cursor} : Left text opened next.rest →
      Goes limits text opened (.ok (value, next)) (.ok (value, next))
  | fails {fault : Fault} : ¬ fault.IsExcess →
      Goes limits text opened (.error fault) (.error fault)
  | exceeds {fault : Fault} {other : Except Fault (β × Cursor)} : Exceeds limits text fault →
      Goes limits text opened (.error fault) other

/-- What goes well inside of brackets goes well in front of them. -/
theorem Goes.outside {β : Type} {one two : Except Fault (β × Cursor)}
    (h : Goes limits text (opened + 1) one two) : Goes limits text opened one two := by
  cases h with
  | ok hleft =>
    obtain ⟨before, hbefore, hopened⟩ := hleft
    exact .ok ⟨before, hbefore, by omega⟩
  | fails hfault => exact .fails hfault
  | exceeds hexceeds => exact .exceeds hexceeds

theorem goes_readString (limits : Limits) (start : Nat) (cs : List Char) (here : Nat)
    (done : List Char) (h : Left text opened cs) :
    Goes limits text opened (readString start cs here done) (readString start cs here done) := by
  fun_induction readString start cs here done with
  | case2 => exact .ok (h.drop 1)
  | case6 => rename_i ih; exact ih (h.drop 12)
  | case9 => rename_i ih; exact ih (h.drop 6)
  | case12 => rename_i ih; exact ih (h.drop 6)
  | case15 => rename_i ih; exact ih (h.drop 2)
  | case17 => rename_i ih; exact ih (h.drop 1)
  | case1 | case3 | case4 | case5 | case7 | case8 | case10 | case11 | case13 | case14 | case16 =>
    exact .fails id

/-- Digits in front of a text are the start of it. -/
theorem wholePart_eq_some {cs whole : List Char} (h : wholePart cs = some whole) :
    whole <+: cs ∧ ∀ c ∈ whole, isNumberDigit c = true := by
  unfold wholePart at h
  split at h
  · cases h
    refine ⟨⟨_, rfl⟩, ?_⟩
    intro c hc
    rw [List.mem_singleton.mp hc]
    rfl
  · dsimp only at h
    split at h
    · cases h
    · cases h
      exact ⟨List.takeWhile_prefix _, fun c hc => List.mem_takeWhile_imp hc⟩

theorem signPart_suffix (cs : List Char) : (signPart cs).2 <:+ cs := by
  unfold signPart
  split
  · exact List.suffix_cons _ _
  · exact List.suffix_rfl

theorem goes_readNumber {wider : Nat} (hwider : limits.digits ≤ wider)
    (h : Left text opened cur.rest) :
    Goes limits text opened (readNumber limits.digits cur) (readNumber wider cur) := by
  have hbody := h.suffix (signPart_suffix cur.rest)
  unfold readNumber
  generalize signPart cur.rest = sign at hbody ⊢
  obtain ⟨negative, body⟩ := sign
  dsimp only at hbody ⊢
  cases hwhole : wholePart body with
  | none => exact .fails id
  | some whole =>
    obtain ⟨⟨after, hafter⟩, hdigits⟩ := wholePart_eq_some hwhole
    dsimp only
    generalize fractionPart (body.drop whole.length) = fraction
    generalize exponentPart _ = exponent
    -- only a number without fraction and exponent is measured
    rcases fraction, exponent with ⟨_ | ⟨c, cs⟩, _ | exponent⟩
    · dsimp only
      by_cases hlong : limits.digits < whole.length
      · obtain ⟨before, hbefore, -⟩ := hbody
        rw [← hafter, ← List.append_assoc] at hbefore
        rw [if_pos hlong]
        exact .exceeds (.longNumber hbefore hdigits hlong)
      · have hfits : ¬ wider < whole.length := by omega
        rw [if_neg hlong, if_neg hfits]
        exact .ok (h.skip _)
    all_goals exact .ok (h.skip _)

/-! ## Values -/

/-- Reading with so much fuel goes as it does within wider limits. -/
structure GoesWith (limits wider : Limits) (text : List Char) (fuel : Nat) : Prop where
  value : ∀ {opened room wideRoom cur}, opened + room = limits.depth → room ≤ wideRoom →
    Left text opened cur.rest → Goes limits text opened
      (readValue limits.digits fuel room cur) (readValue wider.digits fuel wideRoom cur)
  items : ∀ {opened room wideRoom cur done}, opened + room = limits.depth → room ≤ wideRoom →
    Left text opened cur.rest → Goes limits text opened
      (readItems limits.digits fuel room cur done) (readItems wider.digits fuel wideRoom cur done)
  fields : ∀ {opened room wideRoom cur done}, opened + room = limits.depth → room ≤ wideRoom →
    Left text opened cur.rest → Goes limits text opened
      (readFields limits.digits fuel room cur done) (readFields wider.digits fuel wideRoom cur done)

namespace GoesWith
variable {wider : Limits} {fuel room wideRoom : Nat}

theorem zero : GoesWith limits wider text 0 where
  value _ _ _ := .fails id
  items _ _ _ := .fails id
  fields _ _ _ := .fails id

theorem items_succ (h : GoesWith limits wider text fuel) {done : List Datum}
    (hroom : opened + room = limits.depth) (hwide : room ≤ wideRoom)
    (hleft : Left text opened cur.rest) : Goes limits text opened
      (readItems limits.digits (fuel + 1) room cur done)
      (readItems wider.digits (fuel + 1) wideRoom cur done) := by
  have hvalue := h.value hroom hwide hleft
  rw [readItems, readItems]
  generalize readValue limits.digits fuel room cur = one at hvalue ⊢
  generalize readValue wider.digits fuel wideRoom cur = two at hvalue ⊢
  cases hvalue with
  | fails hfault => exact .fails hfault
  | exceeds hexceeds => exact .exceeds hexceeds
  | ok hnext =>
    dsimp only
    split
    · exact .ok (hnext.skipSpaces.skip 1)
    · exact h.items hroom hwide (hnext.skipSpaces.skip 1).skipSpaces
    · exact .fails id

theorem fields_succ (h : GoesWith limits wider text fuel) {done : List (String × Datum)}
    (hroom : opened + room = limits.depth) (hwide : room ≤ wideRoom)
    (hleft : Left text opened cur.rest) : Goes limits text opened
      (readFields limits.digits (fuel + 1) room cur done)
      (readFields wider.digits (fuel + 1) wideRoom cur done) := by
  rw [readFields, readFields]
  split
  · rename_i rest hrest
    have hname := goes_readString limits cur.position rest (cur.position + 1) []
      (hleft.suffix ⟨['"'], by rw [hrest]; rfl⟩)
    generalize readString cur.position rest (cur.position + 1) [] = name at hname ⊢
    cases hname with
    | fails hfault => exact .fails hfault
    | exceeds hexceeds => exact .exceeds hexceeds
    | ok hnext =>
      dsimp only
      split
      · have hvalue := h.value hroom hwide (hnext.skipSpaces.skip 1).skipSpaces
        generalize readValue limits.digits fuel room _ = one at hvalue ⊢
        generalize readValue wider.digits fuel wideRoom _ = two at hvalue ⊢
        cases hvalue with
        | fails hfault => exact .fails hfault
        | exceeds hexceeds => exact .exceeds hexceeds
        | ok hlast =>
          dsimp only
          split
          · exact .ok (hlast.skipSpaces.skip 1)
          · exact h.fields hroom hwide (hlast.skipSpaces.skip 1).skipSpaces
          · exact .fails id
      · exact .fails id
  · exact .fails id

theorem value_succ (h : GoesWith limits wider text fuel)
    (hwider : limits.Below wider) (hroom : opened + room = limits.depth) (hwide : room ≤ wideRoom)
    (hleft : Left text opened cur.rest) : Goes limits text opened
      (readValue limits.digits (fuel + 1) room cur)
      (readValue wider.digits (fuel + 1) wideRoom cur) := by
  rw [readValue.eq_def, readValue.eq_def]
  dsimp only
  split
  · rename_i rest hrest
    have hword := goes_readString limits cur.position rest (cur.position + 1) []
      (hleft.suffix ⟨['"'], by rw [hrest]; rfl⟩)
    generalize readString cur.position rest (cur.position + 1) [] = word at hword ⊢
    cases hword with
    | fails hfault => exact .fails hfault
    | exceeds hexceeds => exact .exceeds hexceeds
    | ok hnext => exact .ok hnext
  · rename_i rest hrest
    cases room with
    | zero => exact .exceeds (.deepList ((hrest ▸ hleft).exceeds rfl hroom))
    | succ room =>
      have hinside := (hleft.opening hrest rfl).skipSpaces
      obtain ⟨more, rfl⟩ := Nat.exists_eq_add_of_le' hwide
      apply Goes.outside
      dsimp only
      split
      · exact .ok (hinside.skip 1)
      · exact h.items (by omega) (Nat.le_add_left room more) hinside
  · rename_i rest hrest
    cases room with
    | zero => exact .exceeds (.deepRecord ((hrest ▸ hleft).exceeds rfl hroom))
    | succ room =>
      have hinside := (hleft.opening hrest rfl).skipSpaces
      obtain ⟨more, rfl⟩ := Nat.exists_eq_add_of_le' hwide
      apply Goes.outside
      dsimp only
      split
      · exact .ok (hinside.skip 1)
      · exact h.fields (by omega) (Nat.le_add_left room more) hinside
  · split
    · exact .ok (hleft.skip _)
    · exact goes_readNumber hwider.digits hleft

end GoesWith

theorem goesWith {wider : Limits} (hwider : limits.Below wider) (text : List Char) (fuel : Nat) :
    GoesWith limits wider text fuel := by
  induction fuel with
  | zero => exact .zero
  | succ fuel ih =>
    exact {
      value := ih.value_succ hwider
      items := ih.items_succ
      fields := ih.fields_succ }

/-! ## Texts -/

/-- A text is read the same within wider limits, unless it goes beyond the narrower ones. -/
theorem read_cases {wider : Limits} (hwider : limits.Below wider) (text : List Char) :
    (read limits text = read wider text ∧
      ∀ fault, read limits text = .error fault → ¬ fault.IsExcess) ∨
    ∃ fault, read limits text = .error fault ∧ Exceeds limits text fault := by
  let start : Cursor := ⟨text, 0⟩
  have hstart : Left text 0 start.skipSpaces.rest :=
    Left.skipSpaces ⟨[], rfl, Nat.le_refl 0⟩
  have hvalue := (goesWith hwider text (2 * text.length + 4)).value (Nat.zero_add _)
    hwider.depth hstart
  unfold read
  split
  · refine .inl ⟨rfl, ?_⟩
    intro fault hfault
    cases hfault
    exact id
  · dsimp only
    generalize readValue limits.digits _ _ _ = one at hvalue ⊢
    generalize readValue wider.digits _ _ _ = two at hvalue ⊢
    cases hvalue with
    | fails hkind =>
      refine .inl ⟨rfl, ?_⟩
      intro fault hfault
      cases hfault
      exact hkind
    | exceeds hexceeds => exact .inr ⟨_, rfl, hexceeds⟩
    | ok =>
      refine .inl ⟨rfl, ?_⟩
      intro fault hfault
      dsimp only at hfault
      split at hfault
      · cases hfault
      · cases hfault
        exact id

/-- Only a text that goes beyond the limits is refused for it. -/
theorem exceeds_of_read {fault : Fault} (h : read limits text = .error fault)
    (hexcess : fault.IsExcess) : Exceeds limits text fault := by
  rcases read_cases ⟨Nat.le_refl _, Nat.le_refl _⟩ text with ⟨-, hother⟩ | ⟨fault', h', hexceeds⟩
  · exact absurd hexcess (hother fault h)
  · cases h.symm.trans h'
    exact hexceeds

/-- A text that stands for a value is read as that value wherever it stays within the limits. -/
theorem read_of_denotes {value : Datum} (h : Denotes text value) (limits : Limits) :
    read limits text = .ok value ∨
      ∃ fault, read limits text = .error fault ∧ Exceeds limits text fault := by
  obtain ⟨other, hother⟩ := h
  let both : Limits := ⟨max limits.digits other.digits, max limits.depth other.depth⟩
  have hboth : read both text = .ok value := by
    have hbelow : other.Below both := ⟨Nat.le_max_right _ _, Nat.le_max_right _ _⟩
    rcases read_cases hbelow text with ⟨heq, -⟩ | ⟨fault, hfault, -⟩
    · exact heq.symm.trans hother
    · rw [hother] at hfault
      cases hfault
  have hbelow : limits.Below both := ⟨Nat.le_max_left _ _, Nat.le_max_left _ _⟩
  rcases read_cases hbelow text with ⟨heq, -⟩ | hexceeds
  · exact .inl (heq.trans hboth)
  · exact .inr hexceeds

end AsmKit.Json
