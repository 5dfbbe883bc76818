import AsmKit.Proofs.Pattern.Greedy

/-! # Rules for whole tokens

A rule that is tied to the start of the text and to its end, up to one line feed,
accepts a text or not as a whole: what it takes is the text without that line
feed. -/
namespace AsmKit.Text

/-- A text without the line feed at its end, if it has one. -/
def chomp (cs : List Char) : List Char := if cs.getLast? = some '\n' then cs.dropLast else cs

theorem chomp_of_notMem {cs : List Char} (h : '\n' ∉ cs) : chomp cs = cs :=
  if_neg fun hlast => h (List.mem_of_getLast? hlast)

theorem chomp_prefix (cs : List Char) : chomp cs <+: cs := by
  unfold chomp
  split
  · exact List.dropLast_prefix cs
  · exact List.prefix_refl cs

theorem chomp_cons {c : Char} {cs : List Char} (h : c :: cs ≠ ['\n']) :
    chomp (c :: cs) = c :: chomp cs := by
  cases cs with
  | nil => simpa [chomp] using h
  | cons d rest =>
    unfold chomp
    rw [List.getLast?_cons_cons, List.dropLast_cons_cons]
    split <;> rfl

theorem chomp_append {front : List Char} (h : '\n' ∉ front) (cs : List Char) :
    chomp (front ++ cs) = front ++ chomp cs := by
  induction front with
  | nil => rfl
  | cons c front ih =>
    rw [List.mem_cons, not_or] at h
    have hne : c :: (front ++ cs) ≠ ['\n'] := fun heq => h.1 (List.cons.inj heq).1.symm
    rw [List.cons_append, chomp_cons hne, ih h.2, List.cons_append]

end AsmKit.Text

namespace AsmKit.Pattern
open Text (chomp chomp_append)

/-! ## Repetitions up to the end -/

theorem lastLineEnd_holds (before after : List Char) :
    Anchor.lastLineEnd.holds before after = (chomp after).isEmpty := by
  by_cases hfeed : after = ['\n']
  · subst hfeed
    rfl
  · cases after with
    | nil => rfl
    | cons c rest =>
      rw [Text.chomp_cons hfeed]
      simpa [Anchor.holds] using hfeed

theorem chomp_takeWhile_append {p : Char → Bool} (hp : p '\n' = false) (cs : List Char) :
    chomp cs = cs.takeWhile p ++ chomp (cs.dropWhile p) := by
  have hnot : '\n' ∉ cs.takeWhile p := by
    intro hmem
    have htrue := List.all_eq_true.mp List.all_takeWhile '\n' hmem
    rw [hp] at htrue
    cases htrue
  rw [← chomp_append hnot, List.takeWhile_append_dropWhile]

/-- What passes leaves at most a line feed just when all in front of a last line feed passes. -/
theorem chomp_dropWhile_eq_nil_iff {p : Char → Bool} (hp : p '\n' = false) (cs : List Char) :
    chomp (cs.dropWhile p) = [] ↔ (chomp cs).all p = true := by
  rw [chomp_takeWhile_append hp cs, List.all_append, List.all_takeWhile, Bool.true_and]
  have hhead := List.head?_dropWhile_not p cs
  generalize cs.dropWhile p = rest at hhead
  by_cases hfeed : rest = ['\n']
  · subst hfeed
    exact ⟨fun _ => rfl, fun _ => rfl⟩
  · cases rest with
    | nil => exact ⟨fun _ => rfl, fun _ => rfl⟩
    | cons d more =>
      have hd : p d = false := hhead
      rw [Text.chomp_cons hfeed]
      simp [hd]

section Ending
variable {test : Single} {p : Char → Bool} {next : Next} {before after : List Char}
  {taken : List (Nat × List Char)}

@[simp] theorem run_anchor (anchor : Anchor) :
    (Node.anchor anchor).run next (.amid before after taken) =
      if anchor.holds before after then next (.amid before after taken) else none := rfl

/-- Before a character that is no line feed the text does not end. -/
theorem settles_lastLineEnd (hfeed : p '\n' = false) {cs : List Char}
    (hcs : ∀ c ∈ cs, p c = true) (rest : List Char) :
    Settles ((Node.anchor .lastLineEnd).run next) before cs rest taken := by
  refine .inr fun front c back heq => ?_
  have hc : p c = true := hcs c (by simp [heq])
  have hne : c ≠ '\n' := by
    rintro rfl
    rw [hfeed] at hc
    cases hc
  simp [Anchor.holds, hne]

/-- The place behind all but a last line feed. -/
def behindLine (before after : List Char) (taken : List (Nat × List Char)) : Place :=
  .amid ((chomp after).reverse ++ before) (after.drop (chomp after).length) taken

theorem behindLine_cons {c : Char} (h : c :: after ≠ ['\n']) :
    behindLine before (c :: after) taken = behindLine (c :: before) after taken := by
  simp [behindLine, Text.chomp_cons h]

/-- Behind all that passes the text ends when all in front of a last line feed passes. -/
theorem run_lastLineEnd_dropWhile (hfeed : p '\n' = false) :
    (Node.anchor .lastLineEnd).run next
        (.amid ((after.takeWhile p).reverse ++ before) (after.dropWhile p) taken) =
      if (chomp after).all p then next (behindLine before after taken) else none := by
  have hiff := chomp_dropWhile_eq_nil_iff hfeed after
  rw [run_anchor, lastLineEnd_holds]
  by_cases hall : (chomp after).all p = true
  · have hnil := hiff.mpr hall
    have hline : chomp after = after.takeWhile p := by
      rw [chomp_takeWhile_append hfeed after, hnil, List.append_nil]
    have hrest : (after.takeWhile p ++ after.dropWhile p).drop (after.takeWhile p).length =
        after.dropWhile p := List.drop_left
    rw [List.takeWhile_append_dropWhile] at hrest
    rw [if_pos (List.isEmpty_iff.mpr hnil), if_pos hall, behindLine, hline, hrest]
  · rw [if_neg fun h => hall (hiff.mp (List.isEmpty_iff.mp h)), if_neg hall]

theorem takeWhile_passes (hp : ∀ c, test.holds c = p c) (cs : List Char) :
    ∀ c ∈ cs.takeWhile p, test.holds c = true :=
  fun c hc => (hp c).trans (List.all_eq_true.mp List.all_takeWhile c hc)

theorem run_many_lastLineEnd (hp : ∀ c, test.holds c = p c) (hfeed : p '\n' = false) :
    (Node.loop .greedy 0 none (.single test)).run ((Node.anchor .lastLineEnd).run next)
        (.amid before after taken) =
      if (chomp after).all p then next (behindLine before after taken) else none := by
  have hrun := run_many ((Node.anchor .lastLineEnd).run next) before taken
    (takeWhile_passes hp after) (ends_dropWhile hp after)
    (settles_lastLineEnd hfeed (List.all_eq_true.mp List.all_takeWhile) _)
  rw [List.takeWhile_append_dropWhile] at hrun
  rw [hrun, run_lastLineEnd_dropWhile hfeed]

theorem run_many_one_lastLineEnd (hp : ∀ c, test.holds c = p c) (hfeed : p '\n' = false) :
    (Node.loop .greedy 1 none (.single test)).run ((Node.anchor .lastLineEnd).run next)
        (.amid before after taken) =
      if !(chomp after).isEmpty && (chomp after).all p then next (behindLine before after taken)
      else none := by
  -- The text of a single line feed is at its end, but has no first character that passes.
  by_cases hafter : after = ['\n']
  · subst hafter
    exact run_many_one_eq_none (ends_cons ((hp _).trans hfeed))
  · cases after with
    | nil => exact run_many_one_eq_none (ends_nil test)
    | cons c rest =>
      rw [Text.chomp_cons hafter]
      by_cases hc : p c = true
      · have hrun := run_many_one ((Node.anchor .lastLineEnd).run next) before taken
          ((hp c).trans hc) (takeWhile_passes hp rest) (ends_dropWhile hp rest)
          (settles_lastLineEnd hfeed (List.all_eq_true.mp List.all_takeWhile) _)
        rw [List.cons_append, List.takeWhile_append_dropWhile] at hrun
        rw [hrun, run_lastLineEnd_dropWhile hfeed, ← behindLine_cons hafter]
        simp [hc]
      · have hno : test.holds c = false := (hp c).trans (Bool.eq_false_iff.mpr hc)
        rw [run_many_one_eq_none (ends_cons hno)]
        simp [hc]

end Ending

/-! ## Matches at the start of a text -/

theorem firstMatch_textStart_eq_none (body : Node) (mustTake : Bool) (c : Char)
    (before after : List Char) (left : Nat) :
    firstMatch (.seq (.anchor .textStart) body) mustTake (c :: before) after left = none := by
  induction after generalizing mustTake c before left with
  | nil => rfl
  | cons d rest ih =>
    have hhere : matchAt (.seq (.anchor .textStart) body) mustTake
        { before := c :: before, after := d :: rest, left } = none := rfl
    rw [firstMatch, hhere, ih]
    rfl

/-- A rule that is tied to the start of the text matches there or nowhere. -/
theorem find?_of_textStart {pattern : Pattern} {body : Node}
    (h : pattern.body = .seq (.anchor .textStart) body) (text : List Char) :
    pattern.find? text = pattern.findAtStart? text := by
  unfold find? findAtStart?
  rw [h]
  cases text with
  | nil => rfl
  | cons c rest =>
    rw [firstMatch, firstMatch_textStart_eq_none]
    split
    · rename_i hmatch
      exact hmatch.symm
    · rename_i hmatch
      exact hmatch.symm

theorem findAtStart?_of_textStart {pattern : Pattern} {body : Node}
    (h : pattern.body = .seq (.anchor .textStart) body) (text : List Char) :
    pattern.findAtStart? text = (body.run some (.amid [] text)).map fun stop =>
      ⟨[], (Place.amid [] text).textTo stop, stop⟩ := by
  rw [findAtStart?, matchAt_false, h]
  rfl

/-- A rule that goes on to the end of a line takes the line without its line feed. -/
theorem find?_of_whole {pattern : Pattern} {body : Node} {text : List Char} {accepts : Bool}
    (h : pattern.body = .seq (.anchor .textStart) body)
    (hrun : body.run some (.amid [] text) =
      if accepts then some (behindLine [] text []) else none) :
    (pattern.find? text).map (·.text) = if accepts then some (chomp text) else none := by
  have htext : (Place.amid [] (chomp text ++ text.drop (chomp text).length)).textTo
      (behindLine [] text []) = chomp text := Place.textTo_amid
  rw [List.prefix_iff_eq_append.mp (Text.chomp_prefix text)] at htext
  rw [find?_of_textStart h, findAtStart?_of_textStart h, hrun]
  cases accepts
  · rfl
  · simp [htext]

end AsmKit.Pattern
