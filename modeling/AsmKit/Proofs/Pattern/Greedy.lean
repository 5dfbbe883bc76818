import AsmKit.Pattern.Match

/-! # What a greedy repetition takes

A repetition of one character takes all the characters that pass its test,
provided that the rest of the pattern can go on behind them or could not go on
from anywhere in between. The rules of the standard settings are built from such
repetitions. -/
namespace AsmKit.Pattern

/-- The place between two parts of a text, with what the groups have taken. -/
def Place.amid (before after : List Char) (taken : List (Nat × List Char) := []) : Place :=
  { before, after, left := after.length, taken }

section Places
variable {before before' rest cs : List Char} {taken taken' : List (Nat × List Char)}

@[simp] theorem Place.amid_before : (Place.amid before rest taken).before = before := rfl

@[simp] theorem Place.amid_after : (Place.amid before rest taken).after = rest := rfl

@[simp] theorem Place.amid_left : (Place.amid before rest taken).left = rest.length := rfl

@[simp] theorem Place.textTo_amid :
    (Place.amid before (cs ++ rest) taken).textTo (Place.amid before' rest taken') = cs := by
  simp [Place.textTo]

theorem Place.close_amid (index : Nat) :
    (Place.amid before' rest taken').close index (Place.amid before (cs ++ rest) taken) =
      Place.amid before' rest ((index, cs) :: taken') := by
  rw [Place.close, Place.textTo_amid]
  rfl

end Places

section Repetition
variable {test : Single} {next : Next} {before cs rest : List Char}
  {taken : List (Nat × List Char)}

@[simp] theorem run_single_cons (c : Char) :
    (Node.single test).run next (.amid before (c :: rest) taken) =
      if test.holds c then next (.amid (c :: before) rest taken) else none := rfl

@[simp] theorem run_single_nil :
    (Node.single test).run next (.amid before [] taken) = none := rfl

theorem run_either (first second : Node) (next : Next) (p : Place) :
    (Node.either first second).run next p = (first.run next p).or (second.run next p) := by
  rw [Node.run]
  cases first.run next p <;> rfl

/-- No character that passes the test comes first. -/
def Ends (test : Single) (rest : List Char) : Prop :=
  ∀ c, rest.head? = some c → test.holds c = false

theorem ends_nil (test : Single) : Ends test [] := fun _ h => by cases h

theorem ends_cons {c : Char} (h : test.holds c = false) : Ends test (c :: rest) := by
  rintro d ⟨⟩
  exact h

theorem ends_dropWhile {p : Char → Bool} (hp : ∀ c, test.holds c = p c) (cs : List Char) :
    Ends test (cs.dropWhile p) := by
  intro c hc
  have hhead := List.head?_dropWhile_not p cs
  rw [hc] at hhead
  exact (hp c).trans hhead

theorem Ends.run_single (h : Ends test rest) :
    (Node.single test).run next (.amid before rest taken) = none := by
  cases rest with
  | nil => rfl
  | cons c rest => rw [run_single_cons, h c rfl]; rfl

/-- What comes next goes on behind the characters, or from no place in front of their end. -/
def Settles (next : Next) (before cs rest : List Char) (taken : List (Nat × List Char)) : Prop :=
  (next (.amid (cs.reverse ++ before) rest taken)).isSome ∨
    ∀ front c back, cs = front ++ c :: back →
      next (.amid (front.reverse ++ before) (c :: back ++ rest) taken) = none

theorem Settles.tail {c : Char} (h : Settles next before (c :: cs) rest taken) :
    Settles next (c :: before) cs rest taken := by
  rcases h with h | h
  · exact .inl (by simpa using h)
  · refine .inr fun front d back hcs => ?_
    simpa using h (c :: front) d back (by rw [hcs]; rfl)

/-- Where nothing goes on behind the characters, nothing goes on in front of them either. -/
theorem Settles.front_eq_none {c : Char} (h : Settles next before (c :: cs) rest taken)
    (hnone : next (.amid (cs.reverse ++ c :: before) rest taken) = none) :
    next (.amid before (c :: (cs ++ rest)) taken) = none := by
  rcases h with h | h
  · rw [List.reverse_cons, List.append_assoc, List.singleton_append, hnone] at h
    cases h
  · exact h [] c cs rfl

/-- Past the least number of repetitions: as many as there are, and then what comes next. -/
theorem greedyLoop_single {fuel : Nat} {n : LoopCount} (hlow : n.low ≤ n.done)
    (hhigh : n.high = none) (hcs : ∀ c ∈ cs, test.holds c = true) (hrest : Ends test rest)
    (hnext : Settles next before cs rest taken) (hfuel : cs.length < fuel)
    (hlast : ∀ last, n.last = some last → (cs ++ rest).length < last) :
    greedyLoop (Node.single test).run next fuel n (.amid before (cs ++ rest) taken) =
      next (.amid (cs.reverse ++ before) rest taken) := by
  -- On the characters. `hlast` lets each round go on, since the one before took a character.
  induction cs generalizing before fuel n with
  | nil =>
    obtain ⟨fuel, rfl⟩ := Nat.exists_eq_add_of_lt hfuel
    have hround : ∀ later, (Node.single test).run later (.amid before rest taken) = none :=
      fun later => hrest.run_single
    unfold greedyLoop
    simp [LoopCount.mustGoOn, Nat.not_lt.mpr hlow, hround]
  | cons c cs ih =>
    obtain ⟨fuel, rfl⟩ := Nat.exists_eq_add_of_lt hfuel
    have hfirst : test.holds c = true := hcs c List.mem_cons_self
    have hmay : n.mayGoOn (.amid before (c :: (cs ++ rest)) taken) = true := by
      simp only [LoopCount.mayGoOn, hhigh, Bool.true_and, bne_iff_ne]
      exact fun heq => Nat.lt_irrefl _ (hlast _ heq)
    have hmore : greedyLoop (Node.single test).run next (cs.length + 1 + fuel)
        (n.chosen (.amid before (c :: (cs ++ rest)) taken))
        (.amid (c :: before) (cs ++ rest) taken) =
        next (.amid (cs.reverse ++ c :: before) rest taken) :=
      ih (by simp [LoopCount.chosen]; omega) hhigh (fun d hd => hcs d (List.mem_cons_of_mem c hd))
        hnext.tail (by omega) (by rintro last ⟨⟩; simp)
    rw [List.cons_append, List.length_cons, greedyLoop]
    simp only [LoopCount.mustGoOn, Nat.not_lt.mpr hlow, decide_false, Bool.false_eq_true, if_false,
      hmay, if_true, run_single_cons, hfirst, hmore]
    rw [List.reverse_cons, List.append_assoc, List.singleton_append]
    split
    · rename_i hstop
      exact hstop.symm
    · rename_i hnone
      rw [hnone]
      exact hnext.front_eq_none hnone

theorem run_greedy (low : Nat) (high : Option Nat) (body : Node) (next : Next) (p : Place) :
    (Node.loop .greedy low high body).run next p =
      greedyLoop body.run next (low + p.left + 2) { low, high } p := rfl

variable (next before taken) in
theorem run_many (hcs : ∀ c ∈ cs, test.holds c = true) (hrest : Ends test rest)
    (hnext : Settles next before cs rest taken) :
    (Node.loop .greedy 0 none (.single test)).run next (.amid before (cs ++ rest) taken) =
      next (.amid (cs.reverse ++ before) rest taken) := by
  rw [run_greedy]
  exact greedyLoop_single (Nat.le_refl 0) rfl hcs hrest hnext (by simp; omega) nofun

variable (next before taken) in
theorem run_many_one {c : Char} (hc : test.holds c = true) (hcs : ∀ c ∈ cs, test.holds c = true)
    (hrest : Ends test rest) (hnext : Settles next (c :: before) cs rest taken) :
    (Node.loop .greedy 1 none (.single test)).run next
        (.amid before (c :: cs ++ rest) taken) =
      next (.amid (cs.reverse ++ c :: before) rest taken) := by
  have hmore : greedyLoop (Node.single test).run next (1 + (c :: cs ++ rest).length + 1)
      (LoopCount.forced { low := 1, high := none }) (.amid (c :: before) (cs ++ rest) taken) =
      next (.amid (cs.reverse ++ c :: before) rest taken) :=
    greedyLoop_single (Nat.le_refl 1) rfl hcs hrest hnext (by simp; omega) nofun
  have hmust : LoopCount.mustGoOn { low := 1, high := none } = true := rfl
  rw [run_greedy, greedyLoop, if_pos hmust, List.cons_append, run_single_cons, if_pos hc]
  exact hmore

theorem run_many_one_eq_none (h : Ends test rest) :
    (Node.loop .greedy 1 none (.single test)).run next (.amid before rest taken) = none := by
  have hmust : LoopCount.mustGoOn { low := 1, high := none } = true := rfl
  rw [run_greedy, greedyLoop, if_pos hmust, h.run_single]

theorem run_optional_cons {c : Char} (hc : test.holds c = true) :
    (Node.loop .greedy 0 (some 1) (.single test)).run next (.amid before (c :: rest) taken) =
      (next (.amid (c :: before) rest taken)).or (next (.amid before (c :: rest) taken)) := by
  simp [run_greedy, greedyLoop, LoopCount.mustGoOn, LoopCount.mayGoOn, LoopCount.chosen, hc]
  cases next (.amid (c :: before) rest taken) <;> rfl

theorem run_optional_of_ends (h : Ends test rest) :
    (Node.loop .greedy 0 (some 1) (.single test)).run next (.amid before rest taken) =
      next (.amid before rest taken) := by
  simp [run_greedy, greedyLoop, LoopCount.mustGoOn, LoopCount.mayGoOn, h.run_single]

end Repetition

/-! ## Matches, one after the other -/

section Matches
variable {node : Node} {mustTake : Bool} {before after : List Char}

theorem matchAt_false (node : Node) (start : Place) :
    matchAt node false start =
      (node.run some start).map fun stop => ⟨[], start.textTo stop, stop⟩ := by
  simp [matchAt]

/-- A match is looked for at the next character, and then behind it. -/
theorem firstMatch_cons (node : Node) (mustTake : Bool) (before : List Char) (c : Char)
    (rest : List Char) :
    firstMatch node mustTake before (c :: rest) (c :: rest).length =
      (matchAt node mustTake (.amid before (c :: rest))).or
        ((firstMatch node false (c :: before) rest rest.length).map fun m =>
          { m with skipped := c :: m.skipped }) := by
  have hplace : (⟨before, c :: rest, (c :: rest).length, []⟩ : Place) = .amid before (c :: rest) :=
    rfl
  rw [firstMatch, hplace]
  cases matchAt node mustTake (.amid before (c :: rest)) <;> rfl

theorem matchesFrom_of_none (h : firstMatch node mustTake before after after.length = none)
    (fuel : Nat) : matchesFrom node (fuel + 1) mustTake (.amid before after) = ([], after) := by
  simp only [matchesFrom, Place.amid_before, Place.amid_after, Place.amid_left, h]

theorem matchesFrom_of_some {m : Match}
    (h : firstMatch node mustTake before after after.length = some m) (fuel : Nat) :
    matchesFrom node (fuel + 1) mustTake (.amid before after) =
      (m :: (matchesFrom node fuel m.text.isEmpty m.stop).1,
        (matchesFrom node fuel m.text.isEmpty m.stop).2) := by
  simp only [matchesFrom, Place.amid_before, Place.amid_after, Place.amid_left, h]

end Matches
end AsmKit.Pattern
