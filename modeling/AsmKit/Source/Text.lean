import AsmKit.Settings.Overrides

/-!
A text as a source of lines. A line ends at a carriage return, a line feed or both in this order,
and the last one also at the end of the text. Lines are handed out one by one, without comments and
without blanks at their ends.
-/

namespace AsmKit

/-- A text that is being read: the comment rule, the rest of the text, the number of characters in
front of it and the number of lines handed out. -/
structure TextSource where
  comment : Pattern
  rest : List Char
  cursor : Nat := 0
  lineNumber : Nat := 0
  deriving Repr

namespace TextSource

def cutLine : List Char → List Char × List Char
  | [] => ([], [])
  | '\r' :: '\n' :: rest => ([], rest)
  | '\r' :: rest => ([], rest)
  | '\n' :: rest => ([], rest)
  | c :: rest =>
    let cut := cutLine rest
    (c :: cut.1, cut.2)

/-- A line without comments and without blanks at its ends. -/
def clean (comment : Pattern) (raw : List Char) : List Char :=
  Text.trim (comment.removeAll raw)

def ofText (settings : Settings) (text : List Char) : TextSource :=
  { comment := settings.comment, rest := text }

def hasNext (source : TextSource) : Bool := !source.rest.isEmpty

def next? (source : TextSource) : Option (String × TextSource) :=
  match source.rest with
  | [] => none
  | text =>
    let cut := cutLine text
    some (String.ofList (clean source.comment cut.1),
      { source with
        rest := cut.2
        cursor := source.cursor + (text.length - cut.2.length)
        lineNumber := source.lineNumber + 1 })

/-- All lines that are left, at most `n`, and the source behind them. -/
def takeLines : Nat → TextSource → List String × TextSource
  | 0, source => ([], source)
  | n + 1, source =>
    match source.next? with
    | none => ([], source)
    | some (line, source) =>
      let (lines, source) := takeLines n source
      (line :: lines, source)

/-- All lines that are left, and the source behind them. A line takes at least one character. -/
def drain (source : TextSource) : List String × TextSource :=
  source.takeLines source.rest.length

end TextSource
end AsmKit
