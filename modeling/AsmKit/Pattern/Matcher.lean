import AsmKit.Pattern.Node

/-!
Matching by ordered backtracking. A node is run at a place of a text with a continuation, which says
whether the rest of the pattern goes on from a later place; the node offers its ways in order of
preference and answers with the first that the continuation takes. What groups have taken travels
with the place, so that a way given up leaves no trace.

A loop past its least number of repetitions does not start another one where the one before it took
nothing. So it makes at most one repetition more than there are characters left, which bounds its
calls.
-/

namespace AsmKit.Pattern

/-- A place in a text: the characters in front of it, the nearest first, those behind it and their
number, and what the groups have taken, the latest first. -/
structure Place where
  before : List Char
  after : List Char
  left : Nat
  taken : List (Nat × List Char) := []
  deriving DecidableEq, Repr

/-- What follows from a place on: the place at the end of it, or nothing. -/
abbrev Next := Place → Option Place

namespace Place

def between (before after : List Char) : Place := { before, after, left := after.length }

def advance (p : Place) (c : Char) (rest : List Char) : Place :=
  { p with before := c :: p.before, after := rest, left := p.left - 1 }

def group? (p : Place) (index : Nat) : Option (List Char) := p.taken.lookup index

def textTo (p later : Place) : List Char := p.after.take (p.left - later.left)

def close (p : Place) (index : Nat) (start : Place) : Place :=
  { p with taken := (index, start.textTo p) :: p.taken }

/-- The place `n` characters in front, if there are so many. -/
def back? (p : Place) (n : Nat) : Option Place :=
  let passed := p.before.take n
  if passed.length == n then
    some { p with
      before := p.before.drop n, after := passed.reverse ++ p.after, left := p.left + n }
  else none

/-- The place after a given text, compared letter by letter. -/
def skip? (folding : Folding) : List Char → Place → Option Place
  | [], p => some p
  | c :: rest, p =>
    match p.after with
    | [] => none
    | d :: after =>
      if folding.lower c.toNat == folding.lower d.toNat then
        skip? folding rest (p.advance d after)
      else none

end Place

/-- The bounds of a loop and the number of its repetitions so far; `last` is the number of
characters that were left at the start of the last one past the least number. -/
structure LoopCount where
  low : Nat
  high : Option Nat
  done : Nat := 0
  last : Option Nat := none

namespace LoopCount

def mustGoOn (n : LoopCount) : Bool := n.done < n.low

def mayGoOn (n : LoopCount) (p : Place) : Bool :=
  (match n.high with
    | some high => n.done < high
    | none => true) && n.last != some p.left

def forced (n : LoopCount) : LoopCount := { n with done := n.done + 1 }

/-- The count after a repetition past the least number, started at a place. -/
def chosen (n : LoopCount) (p : Place) : LoopCount :=
  { n with done := n.done + 1, last := some p.left }

/-- A bound on the repetitions from a place on. -/
def fuel (n : LoopCount) (p : Place) : Nat := n.low + p.left + 2

end LoopCount

def greedyLoop (body : Next → Next) (next : Next) : Nat → LoopCount → Next
  | 0, _, p => next p
  | fuel + 1, n, p =>
    if n.mustGoOn then body (greedyLoop body next fuel n.forced) p
    else if n.mayGoOn p then
      match body (greedyLoop body next fuel (n.chosen p)) p with
      | some stop => some stop
      | none => next p
    else next p

def lazyLoop (body : Next → Next) (next : Next) : Nat → LoopCount → Next
  | 0, _, p => next p
  | fuel + 1, n, p =>
    if n.mustGoOn then body (lazyLoop body next fuel n.forced) p
    else match next p with
      | some stop => some stop
      | none =>
        if n.mayGoOn p then body (lazyLoop body next fuel (n.chosen p)) p else none

/-- As many repetitions of a body as there are, each taken in its preferred way for good. -/
def possessiveLoop (body : Next → Next) : Nat → LoopCount → Next
  | 0, _, p => some p
  | fuel + 1, n, p =>
    if n.mustGoOn then
      match body some p with
      | some stop => possessiveLoop body fuel n.forced stop
      | none => none
    else if n.mayGoOn p then
      match body some p with
      | some stop => possessiveLoop body fuel (n.chosen p) stop
      | none => some p
    else some p

/-- Runs a node at a place. The answer is the place at which the continuation ended. -/
def Node.run : Node → Next → Next
  | .empty, next, p => next p
  | .single test, next, p =>
    match p.after with
    | [] => none
    | c :: rest =>
      if test.holds c then next (p.advance c rest) else none
  | .anchor test, next, p => if test.holds p.before p.after then next p else none
  | .seq first second, next, p => first.run (second.run next) p
  | .either first second, next, p =>
    match first.run next p with
    | some stop => some stop
    | none => second.run next p
  | .loop greed low high body, next, p =>
    let n : LoopCount := { low, high }
    match greed with
    | .greedy => greedyLoop body.run next (n.fuel p) n p
    | .lazy => lazyLoop body.run next (n.fuel p) n p
    | .possessive =>
      match possessiveLoop body.run (n.fuel p) n p with
      | some stop => next stop
      | none => none
  | .group none body, next, p => body.run next p
  | .group (some index) body, next, p => body.run (fun stop => next (stop.close index p)) p
  | .sameAs folding index, next, p =>
    match p.group? index with
    | none => none
    | some text =>
      match Place.skip? folding text p with
      | some stop => next stop
      | none => none
  | .look direction negated body, next, p =>
    let start? := match direction with
      | .ahead => some p
      | .behind width => p.back? width.low
    match start? with
    | none => if negated then next p else none
    | some start =>
      match body.run some start with
      | some stop => if negated then none else next { p with taken := stop.taken }
      | none => if negated then next p else none
  | .atomic body, next, p =>
    match body.run some p with
    | some stop => next stop
    | none => none
  | .ifGroup index present absent, next, p =>
    if (p.group? index).isSome then present.run next p else absent.run next p

end AsmKit.Pattern
