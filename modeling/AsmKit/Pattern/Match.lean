import AsmKit.Pattern.Matcher
import AsmKit.Pattern.Reader

/-!
Where a pattern matches in a text: at the start, at the first place where it does, or at all places
that do not overlap. A place where an empty match ended may start a longer match, but not another
empty one, so each place starts at most two matches and their number is bounded.
-/

namespace AsmKit.Pattern

/-- A match: the text that was skipped to get to it, what it took as a whole, and where it ended. -/
structure Match where
  skipped : List Char
  text : List Char
  stop : Place
  deriving DecidableEq, Repr

def Match.group? (m : Match) (index : Nat) : Option (List Char) := m.stop.group? index

/-- The match at one place, which takes something if it must. -/
def matchAt (node : Node) (mustTake : Bool) (start : Place) : Option Match :=
  let finish : Next := fun p => if mustTake && p.left == start.left then none else some p
  (node.run finish start).map fun stop => ⟨[], start.textTo stop, stop⟩

/-- The first match from the place between `before` and `after` on; `left` is the number of
characters in `after`. Only at that place itself the match takes something if it must. -/
def firstMatch (node : Node) (mustTake : Bool) (before : List Char) :
    (after : List Char) → (left : Nat) → Option Match
  | [], left => matchAt node mustTake { before, after := [], left }
  | c :: rest, left =>
    match matchAt node mustTake { before, after := c :: rest, left } with
    | some m => some m
    | none =>
      (firstMatch node false (c :: before) rest (left - 1)).map fun m =>
        { m with skipped := c :: m.skipped }

/-- All matches from a place on, and the text behind the last one. -/
def matchesFrom (node : Node) : Nat → Bool → Place → List Match × List Char
  | 0, _, p => ([], p.after)
  | fuel + 1, mustTake, p =>
    match firstMatch node mustTake p.before p.after p.left with
    | none => ([], p.after)
    | some m =>
      let more := matchesFrom node fuel m.text.isEmpty m.stop
      (m :: more.1, more.2)

def matchesIn (node : Node) (text : List Char) : List Match × List Char :=
  let start := Place.between [] text
  matchesFrom node (2 * start.left + 3) false start

def findAtStart? (pattern : Pattern) (text : List Char) : Option Match :=
  matchAt pattern.body false (.between [] text)

def find? (pattern : Pattern) (text : List Char) : Option Match :=
  firstMatch pattern.body false [] text text.length

def findAll (pattern : Pattern) (text : List Char) : List (List Char) :=
  (matchesIn pattern.body text).1.map (·.text)

def removeAll (pattern : Pattern) (text : List Char) : List Char :=
  let (found, rest) := matchesIn pattern.body text
  found.flatMap (·.skipped) ++ rest

end AsmKit.Pattern
