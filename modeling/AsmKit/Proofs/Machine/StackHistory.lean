import AsmKit.Machine.Memory
import Mathlib.Data.List.Induction
import Mathlib.Data.List.Infix

/-! # Stacks and their histories

What a stack holds is told by what was done with it since it was new, without
looking at the stack: the size by counting, and the item at a position by the
latest push that raised the size to it. Main statement: so it is at every moment
of every history, for the replies on the way as for the stack in the end. -/
namespace AsmKit.Stack

/-! ## Histories -/

/-- What may be done with a stack. -/
inductive Move where
  | push (datum : Datum)
  | pop
  | peek
  | get (position : Int)
  | size
  | length
  | clear

/-- What a stack replies: an item if there is one, a number, or nothing. -/
inductive Reply where
  | item (item : Option Datum)
  | number (count : Nat)
  | done

/-- The reply of a stack and the stack behind it. -/
def Move.perform (stack : Stack) : Move → Reply × Stack
  | .push datum => (.done, stack.push datum)
  | .pop => (.item stack.pop.1, stack.pop.2)
  | .peek => (.item stack.peek?, stack)
  | .get position => (.item (stack.get? position), stack)
  | .size | .length => (.number stack.size, stack)
  | .clear => (.done, stack.clear)

/-- The replies to moves one after the other, and the stack behind them. -/
def performAll : List Move → Stack → List Reply × Stack
  | [], stack => ([], stack)
  | move :: rest, stack =>
    let first := move.perform stack
    let more := performAll rest first.2
    (first.1 :: more.1, more.2)

/-- What a new stack becomes by the moves of a history. -/
def after (moves : List Move) : Stack := (performAll moves {}).2

/-- The moves that only ask. -/
def Move.asks : Move → Bool
  | .peek | .get _ | .size | .length => true
  | .push _ | .pop | .clear => false

/-! ## What a history tells -/

/-- The size behind a move. A pop does not take it below zero. -/
def Move.count (size : Nat) : Move → Nat
  | .push _ => size + 1
  | .pop => size - 1
  | .clear => 0
  | .peek | .get _ | .size | .length => size

/-- The size that a history comes to, counted move by move. -/
def height (moves : List Move) : Nat := moves.foldl Move.count 0

/-- The latest push of the history that raised the size to a position was one of this datum. -/
def RaisedBy (moves : List Move) (position : Int) (datum : Datum) : Prop :=
  ∃ front back, moves = front ++ .push datum :: back ∧ height front + 1 = position ∧
    ∀ front' datum' back', moves = front' ++ .push datum' :: back' →
      front.length < front'.length → height front' + 1 ≠ position

/-- The item at a position, or none where the history leaves no item there. -/
inductive Tells (moves : List Move) (position : Int) : Option Datum → Prop
  | item {datum : Datum} : 1 ≤ position → position ≤ height moves →
      RaisedBy moves position datum → Tells moves position (some datum)
  | absent : ¬ (1 ≤ position ∧ position ≤ height moves) → Tells moves position none

/-- The reply to a move behind the moves of a history. -/
inductive Answers (moves : List Move) : Move → Reply → Prop
  | push (datum : Datum) : Answers moves (.push datum) .done
  | pop {item : Option Datum} : Tells moves (height moves) item → Answers moves .pop (.item item)
  | peek {item : Option Datum} : Tells moves (height moves) item → Answers moves .peek (.item item)
  | get {position : Int} {item : Option Datum} :
      Tells moves position item → Answers moves (.get position) (.item item)
  | size : Answers moves .size (.number (height moves))
  | length : Answers moves .length (.number (height moves))
  | clear : Answers moves .clear .done

/-! ## The positions of a stack -/

section Positions
variable {stack : Stack} {position : Int}

theorem get?_eq_none_iff :
    stack.get? position = none ↔ ¬ (1 ≤ position ∧ position ≤ stack.size) := by
  unfold get? size
  split
  · simp only [true_iff]
    omega
  · rw [Array.getElem?_eq_none_iff]
    omega

theorem range_of_get? {datum : Datum} (h : stack.get? position = some datum) :
    1 ≤ position ∧ position ≤ stack.size := by
  by_contra hrange
  rw [get?_eq_none_iff.mpr hrange] at h
  cases h

theorem get?_of_le_zero (h : position ≤ 0) : stack.get? position = none :=
  get?_eq_none_iff.mpr (by omega)

@[simp] theorem size_push (datum : Datum) : (stack.push datum).size = stack.size + 1 :=
  Array.size_push datum

@[simp] theorem size_pop : stack.pop.2.size = stack.size - 1 := Array.size_pop

@[simp] theorem size_clear : stack.clear.size = 0 := rfl

theorem get?_push_top (datum : Datum) :
    (stack.push datum).get? (stack.size + 1) = some datum := by
  have hindex : ((stack.size : Int) + 1 - 1).toNat = stack.items.size := by simp [size]
  rw [get?, if_neg (by omega), hindex]
  exact Array.getElem?_push_size

theorem get?_push_of_le (datum : Datum) (h : position ≤ stack.size) :
    (stack.push datum).get? position = stack.get? position := by
  unfold get? push
  split
  · rfl
  · have hindex : (position - 1).toNat ≠ stack.items.size := by
      unfold size at h
      omega
    rw [Array.getElem?_push, if_neg hindex]

theorem get?_pop_of_lt (h : position < stack.size) :
    stack.pop.2.get? position = stack.get? position := by
  unfold get? pop drop
  split
  · rfl
  · have hindex : (position - 1).toNat < stack.items.size - 1 := by
      unfold size at h
      omega
    rw [Array.getElem?_pop, if_pos hindex]

theorem peek?_eq_get? : stack.peek? = stack.get? stack.size := by
  unfold peek? get? size
  rw [Array.back?_eq_getElem?]
  split
  · rw [Array.getElem?_eq_none_iff]
    omega
  · congr 1
    omega

theorem pop_of_size_eq_zero (h : stack.size = 0) : stack.pop = (none, stack) := by
  obtain ⟨items⟩ := stack
  obtain rfl := Array.eq_empty_of_size_eq_zero h
  rfl

/-- A pop takes the item on top alone. -/
theorem pop_of_size_pos (h : 0 < stack.size) :
    ∃ top rest, stack.pop = (some top, rest) ∧ stack.peek? = some top ∧
      rest.size + 1 = stack.size ∧
      ∀ position : Int, position < stack.size → rest.get? position = stack.get? position := by
  obtain ⟨top, htop⟩ : ∃ top, stack.peek? = some top := by
    rw [← Option.ne_none_iff_exists', peek?_eq_get?, Ne, get?_eq_none_iff]
    omega
  refine ⟨top, stack.pop.2, Prod.ext htop rfl, htop, ?_, fun position => get?_pop_of_lt⟩
  rw [size_pop]
  omega

/-- A move keeps the items at the positions that are there before it and behind it. -/
theorem get?_perform (move : Move) (hbefore : position ≤ stack.size)
    (hbehind : position ≤ (move.perform stack).2.size) :
    (move.perform stack).2.get? position = stack.get? position := by
  cases move with
  | push datum => exact get?_push_of_le datum hbefore
  | pop =>
    by_cases hempty : stack.size = 0
    · rw [Move.perform, pop_of_size_eq_zero hempty]
    · apply get?_pop_of_lt
      rw [Move.perform, size_pop] at hbehind
      omega
  | clear =>
    rw [get?_of_le_zero hbehind, get?_of_le_zero]
    exact hbehind
  | peek | get | size | length => rfl

theorem size_perform (move : Move) : (move.perform stack).2.size = move.count stack.size := by
  cases move with
  | push datum => exact size_push datum
  | pop => exact size_pop
  | clear => rfl
  | peek | get | size | length => rfl

end Positions

/-! ## Moves one after the other -/

section Runs
variable {moves : List Move} {position : Int} {datum : Datum}

theorem performAll_append (moves more : List Move) (stack : Stack) :
    performAll (moves ++ more) stack =
      ((performAll moves stack).1 ++ (performAll more (performAll moves stack).2).1,
        (performAll more (performAll moves stack).2).2) := by
  induction moves generalizing stack with
  | nil => rfl
  | cons move rest ih => simp only [List.cons_append, performAll, ih]

@[simp] theorem after_concat (moves : List Move) (move : Move) :
    after (moves ++ [move]) = (move.perform (after moves)).2 := by
  rw [after, performAll_append]
  rfl

@[simp] theorem height_concat (moves : List Move) (move : Move) :
    height (moves ++ [move]) = move.count (height moves) := by
  rw [height, List.foldl_append]
  rfl

theorem getElem?_performAll (moves : List Move) (stack : Stack) (k : Nat) :
    (performAll moves stack).1[k]? =
      moves[k]?.map fun move => (move.perform (performAll (moves.take k) stack).2).1 := by
  induction moves generalizing stack k with
  | nil => rfl
  | cons move rest ih =>
    cases k with
    | zero => rfl
    | succ k => exact ih (move.perform stack).2 k

theorem size_after (moves : List Move) : (after moves).size = height moves := by
  induction moves using List.reverseRecOn with
  | nil => rfl
  | append_singleton moves move ih => rw [after_concat, size_perform, ih, height_concat]

/-! ## The latest push that reached a position -/

/-- A push behind the history that reaches the position is the latest one. -/
theorem raisedBy_concat_push (moves : List Move) (datum : Datum) :
    RaisedBy (moves ++ [.push datum]) (height moves + 1) datum := by
  refine ⟨moves, [], rfl, rfl, fun front' datum' back' hsplit hlater => ?_⟩
  have hlength := congrArg List.length hsplit
  simp only [List.length_append, List.length_cons, List.length_nil] at hlength
  omega

/-- A move that does not reach the position leaves its latest push. -/
theorem RaisedBy.concat (h : RaisedBy moves position datum) {move : Move}
    (hmove : ∀ datum', move = .push datum' → height moves + 1 ≠ position) :
    RaisedBy (moves ++ [move]) position datum := by
  obtain ⟨front, back, rfl, hposition, hlatest⟩ := h
  refine ⟨front, back ++ [move], by simp, hposition, fun front' datum' back' hsplit hlater => ?_⟩
  rcases List.eq_nil_or_concat back' with rfl | ⟨more, last, rfl⟩
  · obtain ⟨rfl, hlast⟩ := List.append_inj' hsplit rfl
    exact hmove datum' (List.cons.inj hlast).1
  · refine hlatest front' datum' more ?_ hlater
    rw [List.concat_eq_append, ← List.cons_append, ← List.append_assoc] at hsplit
    exact (List.append_inj' hsplit rfl).1

/-- There is one latest push that reached a position. -/
theorem RaisedBy.unique {datum' : Datum} (h : RaisedBy moves position datum)
    (h' : RaisedBy moves position datum') : datum = datum' := by
  obtain ⟨front, back, hsplit, hposition, hlatest⟩ := h
  obtain ⟨front', back', hsplit', hposition', hlatest'⟩ := h'
  rcases Nat.lt_trichotomy front.length front'.length with hlt | heq | hlt
  · exact absurd hposition' (hlatest _ _ _ hsplit' hlt)
  · obtain ⟨-, htail⟩ := List.append_inj (hsplit.symm.trans hsplit') heq
    exact Move.push.inj (List.cons.inj htail).1
  · exact absurd hposition (hlatest' _ _ _ hsplit hlt)

/-- The invariant of a history: each item was put in its place by the latest push that reached the
position. -/
theorem raisedBy_of_get? (h : (after moves).get? position = some datum) :
    RaisedBy moves position datum := by
  induction moves using List.reverseRecOn generalizing datum with
  | nil =>
    obtain ⟨hlow, hhigh⟩ := range_of_get? h
    have hnew : (after []).size = 0 := rfl
    omega
  | append_singleton moves move ih =>
    obtain ⟨hlow, hhigh⟩ := range_of_get? h
    rw [after_concat] at h hhigh
    by_cases hthere : position ≤ (after moves).size
    · rw [get?_perform move hthere hhigh] at h
      refine (ih h).concat fun datum' _ => ?_
      rw [← size_after]
      omega
    · -- only a push makes the stack larger
      cases move with
      | push pushed =>
        rw [Move.perform, size_push] at hhigh
        obtain rfl : position = (after moves).size + 1 := by omega
        rw [Move.perform, get?_push_top] at h
        obtain rfl := Option.some.inj h
        rw [size_after]
        exact raisedBy_concat_push moves pushed
      | pop =>
        rw [Move.perform, size_pop] at hhigh
        omega
      | clear =>
        rw [Move.perform, size_clear] at hhigh
        omega
      | peek | get | size | length => exact absurd hhigh hthere

theorem get?_after_iff {item : Option Datum} :
    (after moves).get? position = item ↔ Tells moves position item := by
  constructor
  · rintro rfl
    cases hitem : (after moves).get? position with
    | none =>
      have hrange := get?_eq_none_iff.mp hitem
      rw [size_after] at hrange
      exact .absent hrange
    | some datum =>
      obtain ⟨hlow, hhigh⟩ := range_of_get? hitem
      rw [size_after] at hhigh
      exact .item hlow hhigh (raisedBy_of_get? hitem)
  · rintro (⟨hlow, hhigh, hraised⟩ | hrange)
    · obtain ⟨found, hfound⟩ : ∃ found, (after moves).get? position = some found := by
        rw [← Option.ne_none_iff_exists', Ne, get?_eq_none_iff, size_after]
        exact not_not_intro ⟨hlow, hhigh⟩
      rw [hfound, (raisedBy_of_get? hfound).unique hraised]
    · rw [get?_eq_none_iff, size_after]
      exact hrange

/-- What a stack replies to a move is what its history says. -/
theorem reply_iff (moves : List Move) (move : Move) (reply : Reply) :
    (move.perform (after moves)).1 = reply ↔ Answers moves move reply := by
  have htop : (after moves).pop.1 = (after moves).get? (height moves) := by
    rw [← size_after]
    exact peek?_eq_get?
  constructor
  · rintro rfl
    cases move with
    | push datum => exact .push datum
    | pop => exact .pop (get?_after_iff.mp htop.symm)
    | peek => exact .peek (get?_after_iff.mp htop.symm)
    | get position => exact .get (get?_after_iff.mp rfl)
    | size => rw [Move.perform, size_after]; exact .size
    | length => rw [Move.perform, size_after]; exact .length
    | clear => exact .clear
  · rintro (_ | hitem | hitem | hitem | _ | _ | _)
    · rfl
    · exact congrArg Reply.item (htop.trans (get?_after_iff.mpr hitem))
    · exact congrArg Reply.item (htop.trans (get?_after_iff.mpr hitem))
    · exact congrArg Reply.item (get?_after_iff.mpr hitem)
    · exact congrArg Reply.number (size_after moves)
    · exact congrArg Reply.number (size_after moves)
    · rfl

/-- Moves that never take the size below a position leave its item. -/
theorem get?_after_append {more : List Move}
    (h : ∀ front, front <+: more → position ≤ (after (moves ++ front)).size) :
    (after (moves ++ more)).get? position = (after moves).get? position := by
  induction more using List.reverseRecOn with
  | nil => rw [List.append_nil]
  | append_singleton more move ih =>
    have hmore := h more (List.prefix_append more [move])
    have hlast := h (more ++ [move]) (List.prefix_refl _)
    rw [← List.append_assoc, after_concat] at hlast ⊢
    rw [get?_perform move hmore hlast]
    exact ih fun front hfront => h front (hfront.trans (List.prefix_append more [move]))

end Runs

/-- At every moment a stack is what its history tells. The reply to each move is the one that the
moves before it say, the size is counted move by move, and a position up to it has the item of the
latest push that raised the size to the position. The item on top is the one at the position of the
size; a pop takes that one alone, and nothing where there is none. Questions change nothing, and
what stands up to a size from which moves never come down is not touched. -/
theorem stack_is_told_by_history (moves : List Move) :
    let stack := after moves
    (∀ k reply, (performAll moves {}).1[k]? = some reply ↔
      ∃ move, moves[k]? = some move ∧ Answers (moves.take k) move reply) ∧
    (stack.size = height moves ∧
      ∀ position item, stack.get? position = item ↔ Tells moves position item) ∧
    (stack.peek? = stack.get? stack.size ∧
      (0 < stack.size → ∃ top rest, stack.pop = (some top, rest) ∧ stack.peek? = some top ∧
        rest.size + 1 = stack.size ∧
        ∀ position : Int, position < stack.size → rest.get? position = stack.get? position) ∧
      (stack.size = 0 → stack.peek? = none ∧ stack.pop = (none, stack))) ∧
    (∀ move : Move, move.asks = true → (move.perform stack).2 = stack) ∧
    ∀ more, (∀ front, front <+: more → stack.size ≤ (after (moves ++ front)).size) →
      ∀ position : Int, position ≤ stack.size →
        (after (moves ++ more)).get? position = stack.get? position := by
  intro stack
  refine ⟨fun k reply => ?_, ⟨size_after moves, fun position item => get?_after_iff⟩,
    ⟨peek?_eq_get?, pop_of_size_pos, fun hempty => ?_⟩, fun move hasks => ?_,
    fun more hmore position hposition => ?_⟩
  · rw [getElem?_performAll, Option.map_eq_some_iff]
    exact exists_congr fun move => and_congr_right fun _ => reply_iff (moves.take k) move reply
  · have hpop := pop_of_size_eq_zero hempty
    exact ⟨congrArg Prod.fst hpop, hpop⟩
  · cases move with
    | peek | get | size | length => rfl
    | push | pop | clear => cases hasks
  · exact get?_after_append fun front hfront =>
      Int.le_trans hposition (Int.ofNat_le.mpr (hmore front hfront))

/-- Two items behind a pop of the empty stack; a third one comes and goes above them. -/
theorem items_outlive_those_above :
    let moves : List Move := [.pop, .push (.int 1), .push (.int 2)]
    let more : List Move := [.push (.int 3), .peek, .pop]
    (∀ front, front <+: more → (after moves).size ≤ (after (moves ++ front)).size) ∧
      Tells moves 2 (some (.int 2)) ∧ (after (moves ++ more)).get? 2 = some (.int 2) := by
  intro moves more
  obtain ⟨-, ⟨-, htells⟩, -, -, hkeeps⟩ := stack_is_told_by_history moves
  have hmore : ∀ front, front <+: more → (after moves).size ≤ (after (moves ++ front)).size := by
    simp only [← List.mem_inits]
    decide
  exact ⟨hmore, (htells 2 _).mp rfl, hkeeps more hmore 2 (by decide)⟩

/-- A pop of an empty stack is no debt: the push behind it reaches the first position. -/
example : (performAll [.pop, .push (.int 1), .push (.int 2), .pop, .push (.int 3), .get 2, .get 0,
    .clear, .peek, .size] {}).1 = [.item none, .done, .done, .item (some (.int 2)), .done,
      .item (some (.int 3)), .item none, .done, .item none, .number 0] := rfl

end AsmKit.Stack
