import AsmKit.Settings.Overrides

/-! # The standard settings

What the default rules come to when they are read. Everything that is said of
texts under the default rules is said of these settings. -/
namespace AsmKit.Settings
open AsmKit.Pattern (Node SetItem)

def oneOf (items : List SetItem) : Node := .single (.oneOf .exact false items)

def noneOf (items : List SetItem) : Node := .single (.oneOf .exact true items)

/-- As many repetitions as there are, and at least `low`. -/
def many (low : Nat) (body : Node) : Node := .loop .greedy low none body

def blank : SetItem := .ofKind .blank false false

def wordChar : SetItem := .ofKind .word false false

/-- The first character of a name: an ASCII letter or an underscore. -/
def nameStart : Node := oneOf [.range 65 90, .range 97 122, .point 95]

/-- What a rule matches that must take a whole token, up to one line feed at its end. -/
def wholeToken (nodes : List Node) : Node :=
  .ofSequence (.anchor .textStart :: nodes ++ [.anchor .lastLineEnd])

/-! ## The default patterns -/

def separatorPattern : Pattern :=
  ⟨standardSeparator, {}, 0, many 1 (noneOf [.point 44, blank])⟩

/-- A label in front of the rest of a line. -/
def labelPattern : Pattern :=
  ⟨standardLabel, {}, 2, wholeToken
    [.group (some 1) (.seq nameStart (many 0 (oneOf [wordChar, .point 46]))), oneOf [.point 58],
      many 0 (oneOf [blank]), .group (some 2) (many 0 (.single .notLineFeed))]⟩

def commentPattern : Pattern :=
  ⟨standardComment, {}, 0, .ofSequence
    [many 0 (oneOf [blank]), oneOf [.point 59, .point 35], many 0 (.single .notLineFeed),
      .anchor .lastLineEnd]⟩

def numberPattern : Pattern :=
  ⟨"^-?(?:0[xX][0-9A-Fa-f]+|\\d+)$", {}, 0, wholeToken
    [.loop .greedy 0 (some 1) (oneOf [.point 45]),
      .group none (.either
        (.ofSequence [oneOf [.point 48], oneOf [.point 120, .point 88],
          many 1 (oneOf [.range 48 57, .range 65 70, .range 97 102])])
        (many 1 (oneOf [.ofKind .digit false false])))]⟩

def registerPattern : Pattern :=
  ⟨"^[A-Za-z_]\\w*$", {}, 0, wholeToken [nameStart, many 0 (oneOf [wordChar])]⟩

/-- A label as an operand. -/
def labelOperandPattern : Pattern :=
  ⟨"^[A-Za-z_][\\w.]*$", {}, 0, wholeToken [nameStart, many 0 (oneOf [wordChar, .point 46])]⟩

def standard : Settings where
  separator := separatorPattern
  label := some labelPattern
  comment := commentPattern
  operandRules := [("imm", numberPattern), ("reg", registerPattern), ("label", labelOperandPattern)]

theorem eq_ok_of_toOption {outcome : Except Fault Settings} {settings : Settings}
    (h : outcome.toOption = some settings) : outcome = .ok settings := by
  cases outcome with
  | error fault => cases h
  | ok other => exact congrArg Except.ok (Option.some.inj h)

end AsmKit.Settings
