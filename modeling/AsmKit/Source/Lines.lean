import AsmKit.FaultKind
import AsmKit.Source.Text

/-!
Sources of lines in general: a text, lines given by a caller, which are handed out as they are, or a
source that was never filled in.
-/

namespace AsmKit

/-- Something that hands out lines. -/
inductive LineSource where
  | text (source : TextSource)
  | given (lines : List String) (lineNumber : Nat)
  | undefined
  deriving Repr

inductive LineFault where
  | exhausted
  | notImplemented
  deriving DecidableEq, Repr

namespace LineFault

def message : LineFault → String
  | .exhausted => "No more lines in source."
  | .notImplemented => ""

def kind : LineFault → FaultKind
  | .exhausted => .exhausted
  | .notImplemented => .notImplemented

end LineFault

namespace LineSource

def lineNumber : LineSource → Nat
  | .text source => source.lineNumber
  | .given _ lineNumber => lineNumber
  | .undefined => 0

/-- The number of characters handed out, line ends and comments among them, for a text. -/
def cursor? : LineSource → Option Nat
  | .text source => some source.cursor
  | _ => none

def hasNext : LineSource → Except LineFault Bool
  | .text source => .ok source.hasNext
  | .given lines _ => .ok !lines.isEmpty
  | .undefined => .error .notImplemented

def next : LineSource → Except LineFault (String × LineSource)
  | .text source =>
    match source.next? with
    | some (line, source) => .ok (line, .text source)
    | none => .error .exhausted
  | .given (line :: rest) lineNumber => .ok (line, .given rest (lineNumber + 1))
  | .given [] _ => .error .exhausted
  | .undefined => .error .notImplemented

def drain : LineSource → Except LineFault (List String × LineSource)
  | .text source =>
    let (lines, source) := source.drain
    .ok (lines, .text source)
  | .given lines lineNumber => .ok (lines, .given [] (lineNumber + lines.length))
  | .undefined => .error .notImplemented

/-- The source behind the next `n` lines, or behind all where fewer are left. -/
def skip : Nat → LineSource → LineSource
  | 0, source => source
  | n + 1, source =>
    match source.next with
    | .ok (_, source) => skip n source
    | .error _ => source

end LineSource
end AsmKit
