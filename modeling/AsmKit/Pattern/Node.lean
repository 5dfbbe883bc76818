import AsmKit.Text.Blank
import AsmKit.Text.Case
import AsmKit.Text.Word

/-!
The parts of a pattern. A node stands for a set of ways to go on from a place in a text, in order of
preference; the modes of the pattern are already worked into it.
-/

namespace AsmKit.Pattern

/-- How letters that differ in case are compared: not at all, as the letters `A` to `Z`, or as all
letters. -/
inductive Folding where
  | exact
  | ascii
  | full
  deriving DecidableEq, Repr

def Folding.alikes : Folding → Nat → List Nat
  | .exact, n => [n]
  | .ascii, n => Text.asciiAlikes n
  | .full, n => Text.alikes n

/-- The lower case of a code point, as a repeated group is compared. -/
def Folding.lower : Folding → Nat → Nat
  | .exact, n => n
  | .ascii, n => Text.asciiLower n
  | .full, n => Text.lower n

/-- A kind of characters that has a letter of its own in patterns. -/
inductive CharKind where
  | digit
  | blank
  | word
  deriving DecidableEq, Repr

/-- The characters of a kind; with `ascii`, only those below U+0080. -/
def CharKind.holds (kind : CharKind) (ascii : Bool) (c : Char) : Bool :=
  match kind with
  | .digit => if ascii then c.isDigit else Text.isDecimal c
  | .blank => if ascii then c == ' ' || ('\t' ≤ c && c ≤ '\r') else Text.isBlank c
  | .word => if ascii then c.isAlphanum || c == '_' else Text.isWord c

inductive SetItem where
  | point (code : Nat)
  | range (low high : Nat)
  | ofKind (kind : CharKind) (ascii negated : Bool)
  deriving DecidableEq, Repr

def SetItem.holds (folding : Folding) (c : Char) : SetItem → Bool
  | .point code => (folding.alikes c.toNat).contains code
  | .range low high => (folding.alikes c.toNat).any fun n => low ≤ n && n ≤ high
  | .ofKind kind ascii negated => kind.holds ascii c != negated

/-- A test of one character. -/
inductive Single where
  | any
  | notLineFeed
  | oneOf (folding : Folding) (negated : Bool) (items : List SetItem)
  deriving DecidableEq, Repr

def Single.holds (c : Char) : Single → Bool
  | .any => true
  | .notLineFeed => c != '\n'
  | .oneOf folding negated items => items.any (·.holds folding c) != negated

/-- A test of a place in a text. -/
inductive Anchor where
  | textStart
  | lineStart
  | textEnd
  | lastLineEnd
  | lineEnd
  | wordEdge (ascii : Bool)
  | noWordEdge (ascii : Bool)
  deriving DecidableEq, Repr

def startsWithWord (ascii : Bool) : List Char → Bool
  | [] => false
  | c :: _ => CharKind.word.holds ascii c

/-- Whether a place between the reversed text `before` and the text `after` passes a test. An empty
text has neither a word edge nor a place without one. -/
def Anchor.holds (before after : List Char) : Anchor → Bool
  | .textStart => before.isEmpty
  | .lineStart => before.isEmpty || before.head? == some '\n'
  | .textEnd => after.isEmpty
  | .lastLineEnd => after.isEmpty || after == ['\n']
  | .lineEnd => after.isEmpty || after.head? == some '\n'
  | .wordEdge ascii => startsWithWord ascii before != startsWithWord ascii after
  | .noWordEdge ascii =>
    !(before.isEmpty && after.isEmpty) && startsWithWord ascii before == startsWithWord ascii after

/-- Which number of repetitions a loop prefers: many, few, or as many as there are without going
back on them. -/
inductive Greed where
  | greedy
  | lazy
  | possessive
  deriving DecidableEq, Repr

/-- The least and the greatest number of characters that a node can take. -/
structure Width where
  low : Nat
  high : Nat
  deriving DecidableEq, Repr

/-- The width that stands for no bound. -/
def Width.unbounded : Nat := 0x10000000000000000

/-- A width with both ends cut at the one that stands for no bound. -/
def Width.cut (low high : Nat) : Width := ⟨min low unbounded, min high unbounded⟩

/-- Where the body of a look-around is tried: from the place on, or so far in front of it as the
width of the body says. -/
inductive Direction where
  | ahead
  | behind (width : Width)
  deriving DecidableEq, Repr

/-- A part of a pattern. A group has a number when what it takes can be asked for later. -/
inductive Node where
  | empty
  | single (test : Single)
  | anchor (test : Anchor)
  | seq (first second : Node)
  | either (first second : Node)
  | loop (greed : Greed) (low : Nat) (high : Option Nat) (body : Node)
  | group (index : Option Nat) (body : Node)
  | sameAs (folding : Folding) (index : Nat)
  | look (direction : Direction) (negated : Bool) (body : Node)
  | atomic (body : Node)
  | ifGroup (index : Nat) (present absent : Node)
  deriving DecidableEq, Repr

namespace Node

def ofSequence : List Node → Node
  | [] => .empty
  | [node] => node
  | node :: rest => .seq node (ofSequence rest)

def ofBranches : List Node → Node
  | [] => .empty
  | [node] => node
  | node :: rest => .either node (ofBranches rest)

/-- The width of a node, given the widths of the groups that it may refer to. -/
def width (groupWidth : Nat → Width) : Node → Width
  | .empty | .anchor _ | .look _ _ _ => ⟨0, 0⟩
  | .single _ => ⟨1, 1⟩
  | .seq first second =>
    let a := first.width groupWidth
    let b := second.width groupWidth
    .cut (a.low + b.low) (a.high + b.high)
  | .either first second =>
    let a := first.width groupWidth
    let b := second.width groupWidth
    ⟨min a.low b.low, max a.high b.high⟩
  | .loop _ low high body =>
    let a := body.width groupWidth
    match high with
    | some high => .cut (a.low * low) (a.high * high)
    | none => .cut (a.low * low) (if a.high == 0 then 0 else Width.unbounded)
  | .group _ body | .atomic body => body.width groupWidth
  | .sameAs _ index => groupWidth index
  | .ifGroup _ present absent =>
    let a := present.width groupWidth
    let b := absent.width groupWidth
    ⟨min a.low b.low, max a.high b.high⟩

end Node
end AsmKit.Pattern
