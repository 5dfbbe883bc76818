/-! The modes of a pattern: how it compares letters, where its anchors hold and how it is read. -/

namespace AsmKit.Pattern

/-- The modes that are on. `ascii` and `unicode` say which characters count as letters, digits and
blanks; with neither, all of them do. `repeatless` forbids repetition. -/
structure Modes where
  ignoreCase : Bool := false
  multiline : Bool := false
  dotAll : Bool := false
  spaced : Bool := false
  ascii : Bool := false
  unicode : Bool := false
  repeatless : Bool := false
  deriving DecidableEq, Repr, Inhabited

/-- A mode as its letter names it. The locale has a letter but no use. -/
inductive Mode where
  | ignoreCase
  | locale
  | multiline
  | dotAll
  | spaced
  | ascii
  | repeatless
  | unicode
  deriving DecidableEq, Repr

def Mode.ofLetter? (c : Char) : Option Mode :=
  [('i', Mode.ignoreCase), ('L', .locale), ('m', .multiline), ('s', .dotAll), ('x', .spaced),
    ('a', .ascii), ('t', .repeatless), ('u', .unicode)].lookup c

/-- Whether a mode chooses among the classes of characters, so that only one such may be named. -/
def Mode.choosesClass : Mode → Bool
  | .ascii | .unicode | .locale => true
  | _ => false

def Mode.isGlobal : Mode → Bool
  | .repeatless => true
  | _ => false

namespace Modes

def turnOn (modes : Modes) : Mode → Modes
  | .ignoreCase => { modes with ignoreCase := true }
  | .multiline => { modes with multiline := true }
  | .dotAll => { modes with dotAll := true }
  | .spaced => { modes with spaced := true }
  | .ascii => { modes with ascii := true }
  | .unicode => { modes with unicode := true }
  | .repeatless => { modes with repeatless := true }
  | .locale => modes

def turnOff (modes : Modes) : Mode → Modes
  | .ignoreCase => { modes with ignoreCase := false }
  | .multiline => { modes with multiline := false }
  | .dotAll => { modes with dotAll := false }
  | .spaced => { modes with spaced := false }
  | .ascii => { modes with ascii := false }
  | .unicode => { modes with unicode := false }
  | .repeatless => { modes with repeatless := false }
  | .locale => modes

/-- The modes inside a group that turns some on and some off. Naming a class of characters drops the
class in force outside. -/
def within (modes : Modes) (on off : List Mode) : Modes :=
  let outer :=
    if on.any Mode.choosesClass then { modes with ascii := false, unicode := false } else modes
  off.foldl turnOff (on.foldl turnOn outer)

/-- The letters of the modes that a user may set from outside, in alphabetical order. -/
def letters (modes : Modes) : String :=
  String.join [if modes.ascii then "a" else "", if modes.ignoreCase then "i" else "",
    if modes.multiline then "m" else "", if modes.dotAll then "s" else "",
    if modes.spaced then "x" else ""]

end Modes
end AsmKit.Pattern
