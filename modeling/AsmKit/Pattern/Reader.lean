import AsmKit.Number.Integer
import AsmKit.Pattern.Scanner
import AsmKit.Text.Hex

/-!
Reading a pattern into nodes. The text is read from the left; the first fault ends the reading. Each
call of the functions below that read branches, sequences and groups takes a symbol or is followed
by one that does, so four times the length of the text bounds the depth of the calls.
-/

namespace AsmKit.Pattern

def Modes.folding (modes : Modes) : Folding :=
  if modes.ignoreCase then (if modes.ascii then .ascii else .full) else .exact

def literal (modes : Modes) (code : Nat) : Node :=
  .single (.oneOf modes.folding false [.point code])

def isOctal (c : Char) : Bool := '0' ≤ c && c ≤ '7'

def octalNumber (cs : List Char) : Nat := cs.foldl (fun n c => n * 8 + (c.toNat - 48)) 0

def decimalNumber (cs : List Char) : Nat := cs.foldl (fun n c => n * 10 + (c.toNat - 48)) 0

def isAsciiLetter (c : Char) : Bool := ('a' ≤ c && c ≤ 'z') || ('A' ≤ c && c ≤ 'Z')

def controlEscape? (c : Char) : Option Nat :=
  [('a', 7), ('b', 8), ('f', 12), ('n', 10), ('r', 13), ('t', 9), ('v', 11), ('\\', 92)].lookup c

def kindEscape? (ascii : Bool) (c : Char) : Option SetItem :=
  [('d', SetItem.ofKind .digit ascii false), ('D', .ofKind .digit ascii true),
    ('s', .ofKind .blank ascii false), ('S', .ofKind .blank ascii true),
    ('w', .ofKind .word ascii false), ('W', .ofKind .word ascii true)].lookup c

def anchorEscape? (ascii : Bool) (c : Char) : Option Anchor :=
  [('A', Anchor.textStart), ('b', .wordEdge ascii), ('B', .noWordEdge ascii),
    ('Z', .textEnd)].lookup c

/-- Complains about an escape that starts right in front of what was last taken. -/
def complainEscape {α : Type} (complaint : String → Complaint) (escape : List Char) : ReadM α := do
  complain (complaint (String.ofList escape)) ((← here) - escape.length)

/-- The code point after the escape letter `c`, which wants `size` hexadecimal digits. -/
def hexEscape (c : Char) (size : Nat) : ReadM Nat := do
  let digits ← takeUpTo Text.isHex size
  let escape := '\\' :: c :: digits
  if digits.length < size then complainEscape .incompleteEscape escape
  else
    let code := Text.hexNumber digits
    if 0x10FFFF < code then complainEscape .badEscape escape else return code

def namedEscape : ReadM Nat := do
  if ← accept '\x7b' then
    let name ← takeName '\x7d' "character name"
    match (← get).characters.code? name with
    | some code => return code
    | none => complain (.unknownCharacterName name) ((← here) - (name.length + 4))
  else complain (.missing "\x7b") (← here)

def octalEscape (escape : List Char) : ReadM Nat := do
  let code := octalNumber (escape.drop 1)
  if 0xFF < code then complainEscape .octalTooLarge escape else return code

/-- The code point that the escape letter `c` stands for where it has one both inside sets and
outside, apart from digits. -/
def pointEscape (c : Char) : ReadM Nat := do
  if c == 'x' then hexEscape c 2
  else if c == 'u' then hexEscape c 4
  else if c == 'U' then hexEscape c 8
  else if c == 'N' then namedEscape
  else if isAsciiLetter c || c.isDigit then complainEscape .badEscape ['\\', c]
  else return c.toNat

def setEscape (modes : Modes) (c : Char) : ReadM SetItem := do
  match controlEscape? c with
  | some code => return .point code
  | none =>
    match kindEscape? modes.ascii c with
    | some item => return item
    | none =>
      if isOctal c then return .point (← octalEscape ('\\' :: c :: (← takeUpTo isOctal 2)))
      else return .point (← pointEscape c)

/-- The width of the group with the given number, if it is closed. -/
def Progress.closedWidth? (p : Progress) (index : Nat) : Option Width :=
  if index == 0 then none else (p.groups[index - 1]?).join

/-- Refuses, inside a look-behind, a reference to a group that is open or stands inside it too. -/
def checkLookBehind (index : Nat) : ReadM Unit := do
  let p ← get
  match p.lookBehindFrom with
  | none => return
  | some first =>
    if (p.closedWidth? index).isNone then complain .openGroup p.position
    else if first ≤ index then complain .groupInsideLookBehind p.position

/-- A reference to a group by number. The escape started with the digit `c`. -/
def groupEscape (modes : Modes) (escape : List Char) : ReadM Node := do
  let p ← get
  let index := decimalNumber (escape.drop 1)
  if index ≤ p.groups.length then
    if (p.closedWidth? index).isNone then complain .openGroup (p.position - escape.length)
    checkLookBehind index
    return .sameAs modes.folding index
  else complain (.noSuchGroup index) (p.position - (escape.length - 1))

/-- What the digit `c` behind a backslash stands for: an octal code, after a zero or with three
octal digits, or a reference to a group. -/
def digitEscape (modes : Modes) (c : Char) : ReadM Node := do
  if c == '0' then
    return literal modes (octalNumber (c :: (← takeUpTo isOctal 2)))
  match ← takeUpTo Char.isDigit 1 with
  | [d] =>
    let third ← if isOctal c && isOctal d then takeUpTo isOctal 1 else pure []
    let escape := '\\' :: c :: d :: third
    if third.isEmpty then groupEscape modes escape
    else return literal modes (← octalEscape escape)
  | _ => groupEscape modes ['\\', c]

def nodeEscape (modes : Modes) (c : Char) : ReadM Node := do
  match anchorEscape? modes.ascii c with
  | some anchor => return .anchor anchor
  | none =>
    match kindEscape? modes.ascii c with
    | some item => return .single (.oneOf modes.folding false [item])
    | none =>
      match controlEscape? c with
      | some code => return literal modes code
      | none =>
        if c.isDigit then digitEscape modes c
        else return literal modes (← pointEscape c)

def setMember (modes : Modes) : Symbol → ReadM SetItem
  | .plain c => return .point c.toNat
  | .escaped c => setEscape modes c

/-- Reads the members of a set whose bracket stands at `start`, behind the members `done` in
reverse order. A bracket that closes the set may stand first as a member. -/
def readSet (modes : Modes) (start : Nat) : Nat → List SetItem → ReadM (List SetItem)
  | 0, _ => complain .unterminatedSet start
  | fuel + 1, done => do
    match ← take with
    | none => complain .unterminatedSet start
    | some symbol =>
      if symbol == .plain ']' && !done.isEmpty then return done.reverse
      else
        let low ← setMember modes symbol
        if ← accept '-' then
          match ← take with
          | none => complain .unterminatedSet start
          | some last =>
            if last == .plain ']' then return (SetItem.point 45 :: low :: done).reverse
            else
              let high ← setMember modes last
              let bad : Complaint := .badRange symbol.toText last.toText
              let place := (← here) - (symbol.text.length + 1 + last.text.length)
              match low, high with
              | .point a, .point b =>
                if b < a then complain bad place
                else readSet modes start fuel (.range a b :: done)
              | _, _ => complain bad place
        else readSet modes start fuel (low :: done)

def readSetNode (modes : Modes) : ReadM Node := do
  let start := (← here) - 1
  let negated ← accept '^'
  let items ← readSet modes start ((← get).rest.length + 1) []
  return .single (.oneOf modes.folding negated items)

/-- The least and the greatest number of repetitions; no greatest one means any number. -/
structure Bounds where
  low : Nat
  high : Option Nat

/-- The number of repetitions that is too large to ask for. -/
def tooManyRepetitions : Nat := 4294967295

/-- A number of repetitions, if its digits are there. -/
def repetitions? (digits : List Char) : ReadM (Option Nat) := do
  if digits.isEmpty then return none
  else if Integer.digitLimit < digits.length then throw (.numberTooLong digits.length)
  else
    let n := decimalNumber digits
    if tooManyRepetitions ≤ n then throw .repetitionTooLarge else return some n

/-- Reads the bounds in braces behind the opening one. Without an answer the brace is an ordinary
character, and nothing more is taken. -/
def readBraces : ReadM (Option Bounds) := do
  let saved ← get
  if (← peek) == some (.plain '\x7d') then return none
  let first ← takeWhile Char.isDigit
  let second ← if ← accept ',' then takeWhile Char.isDigit else pure first
  if ← accept '\x7d' then
    let low := (← repetitions? first).getD 0
    let high ← repetitions? second
    match high with
    | some most =>
      if most < low then complain .leastAboveMost saved.position
      return some ⟨low, high⟩
    | none => return some ⟨low, none⟩
  else
    set saved
    return none

/-- The bounds that the symbol `c` asks for, or none where it is an ordinary brace. -/
def readBounds (c : Char) : ReadM (Option Bounds) := do
  if c == '?' then return some ⟨0, some 1⟩
  else if c == '*' then return some ⟨0, none⟩
  else if c == '+' then return some ⟨1, none⟩
  else readBraces

def readGreed : ReadM Greed := do
  if ← accept '?' then return .lazy
  else if ← accept '+' then return .possessive
  else return .greedy

/-- Puts a loop around the last of the nodes `done`, which stand in reverse order. `start` is the
place of the bounds. -/
def repeatLast (bounds : Bounds) (start : Nat) : List Node → ReadM (List Node)
  | [] => complain .nothingToRepeat start
  | .anchor _ :: _ => complain .nothingToRepeat start
  | .loop _ _ _ _ :: _ => complain .repeatedRepeat start
  | node :: rest => do return .loop (← readGreed) bounds.low bounds.high node :: rest

/-- Whether a symbol is a letter, of any script. -/
def Symbol.isLetter : Symbol → Bool
  | .plain c => Text.isLetter c
  | .escaped _ => false

def Symbol.mode? : Symbol → Option Mode
  | .plain c => Mode.ofLetter? c
  | .escaped _ => none

def complainMode {α : Type} (symbol : Symbol) (otherwise : String) : ReadM α := do
  complain (if symbol.isLetter then .unknownMode else .missing otherwise)
    ((← here) - symbol.text.length)

/-- Reads the letters of modes to turn on, of which `mode` is the next. The answer holds the
character behind them: `)`, `:` or `-`. -/
def readModesOn : Nat → Mode → List Mode → ReadM (List Mode × Char)
  | 0, _, done => return (done, ':')
  | fuel + 1, mode, done => do
    if mode == .locale then complain .localeMode (← here)
    let done := done ++ [mode]
    if mode.choosesClass && done.any (fun other => other.choosesClass && other != mode) then
      complain .clashingModes (← here)
    match ← take with
    | none => complain (.missing "-, : or )") (← here)
    | some symbol =>
      match symbol.mode? with
      | some next => readModesOn fuel next done
      | none =>
        match symbol with
        | .plain ')' => return (done, ')')
        | .plain ':' => return (done, ':')
        | .plain '-' => return (done, '-')
        | _ => complainMode symbol "-, : or )"

/-- Reads the letters of modes to turn off, of which `mode` is the next, and the colon behind. -/
def readModesOff : Nat → Mode → List Mode → ReadM (List Mode)
  | 0, _, done => return done
  | fuel + 1, mode, done => do
    if mode.choosesClass then complain .classModeOff (← here)
    let done := done ++ [mode]
    match ← take with
    | none => complain (.missing ":") (← here)
    | some symbol =>
      if symbol == .plain ':' then return done
      else match symbol.mode? with
        | some next => readModesOff fuel next done
        | none => complainMode symbol ":"

/-- What letters of modes ask for: a change of the whole pattern or of one group. -/
inductive ModeChange where
  | whole (on : List Mode)
  | group (on off : List Mode)

/-- Reads a change of modes whose first symbol, a letter or a minus sign, has been taken. -/
def readModeChange (first : Option Mode) : ReadM ModeChange := do
  let fuel := (← get).rest.length + 1
  let (on, closing) ← match first with
    | some mode => readModesOn fuel mode []
    | none => pure ([], '-')
  if closing == ')' then return .whole on
  if on.any Mode.isGlobal then complain .globalModeOn ((← here) - 1)
  let off ←
    if closing == '-' then
      match ← take with
      | none => complain (.missing "flag") (← here)
      | some symbol =>
        match symbol.mode? with
        | some mode => readModesOff fuel mode []
        | none => complainMode symbol "flag"
    else pure []
  if off.any Mode.isGlobal then complain .globalModeOff ((← here) - 1)
  if on.any off.contains then complain .modeOnAndOff ((← here) - 1)
  return .group on off

def takeGroupName (closing : Char) : ReadM String := do
  let name ← takeName closing "group name"
  if Text.isIdentifier name.toList then return name
  else complain (.badNameCharacter name) ((← here) - (name.length + 1))

def readNameReference (modes : Modes) : ReadM Node := do
  let name ← takeGroupName ')'
  let p ← get
  match p.names.lookup name with
  | none => complain (.unknownName name) (p.position - (name.length + 1))
  | some index =>
    if (p.closedWidth? index).isNone then complain .openGroup (p.position - (name.length + 1))
    checkLookBehind index
    return .sameAs modes.folding index

/-- The first number that no group of a pattern can have. -/
def groupNumberLimit : Nat := 1073741823

/-- Reads the group that a condition asks for, behind its opening parenthesis. -/
def readCondition : ReadM Nat := do
  let name ← takeName ')' "group name"
  let p ← get
  let start := p.position - (name.length + 1)
  let index ←
    if Text.isIdentifier name.toList then
      match p.names.lookup name with
      | none => complain (.unknownName name) start
      | some index => pure index
    else
      match Integer.read .ten name with
      | .error _ => complain (.badNameCharacter name) start
      | .ok number =>
        if number < 0 then complain (.badNameCharacter name) start
        else if number == 0 then complain .badGroupNumber start
        else if groupNumberLimit ≤ number.toNat then complain (.noSuchGroup number.toNat) start
        else
          let index := number.toNat
          if (p.asked.lookup index).isNone then
            set { p with asked := p.asked ++ [(index, start)] }
          pure index
  checkLookBehind index
  return index

def openGroup (name : Option String) : ReadM Nat := do
  let p ← get
  let index := p.groups.length + 1
  match name with
  | none => set { p with groups := p.groups ++ [none] }
  | some name =>
    match p.names.lookup name with
    | some first =>
      complain (.reusedName name index first) (p.position - (name.length + 1))
    | none =>
      set { p with groups := p.groups ++ [none], names := p.names ++ [(name, index)] }
  return index

def Progress.width (p : Progress) (node : Node) : Width :=
  node.width fun index => (p.closedWidth? index).getD ⟨0, 0⟩

def closeGroup (index : Nat) (body : Node) : ReadM Unit := do
  modify fun p => { p with groups := p.groups.set (index - 1) (some (p.width body)) }

/-- Takes the parenthesis that closes a group opened at `start`. -/
def closeParenthesis (start : Nat) : ReadM Unit := do
  if !(← accept ')') then complain .unterminatedGroup start

/-- The start of a group, as the symbols behind its opening parenthesis say. -/
inductive Opening where
  | plain (name : Option String) (numbered : Bool)
  | atomic
  | look (behind negated : Bool)
  | condition
  | modes (on off : List Mode)
  | wholeModes (on : List Mode)
  | nameReference
  | comment

/-- Reads the symbols behind a question mark that start a group opened at `start`. -/
def readExtension (start : Nat) : ReadM Opening := do
  match ← take with
  | none => complain .unexpectedEnd (← here)
  | some (.plain 'P') =>
    if ← accept '<' then return .plain (some (← takeGroupName '>')) true
    else if ← accept '=' then return .nameReference
    else match ← take with
      | none => complain .unexpectedEnd (← here)
      | some symbol =>
        complain (.unknownExtension ("?P" ++ symbol.toText)) ((← here) - (symbol.text.length + 2))
  | some (.plain ':') => return .plain none false
  | some (.plain '#') =>
    let (_, closed) ← takeThrough ')'
    if closed then return .comment else complain .unterminatedComment start
  | some (.plain '=') => return .look false false
  | some (.plain '!') => return .look false true
  | some (.plain '<') =>
    match ← take with
    | none => complain .unexpectedEnd (← here)
    | some (.plain '=') => return .look true false
    | some (.plain '!') => return .look true true
    | some symbol =>
      complain (.unknownExtension ("?<" ++ symbol.toText)) ((← here) - (symbol.text.length + 2))
  | some (.plain '(') => return .condition
  | some (.plain '>') => return .atomic
  | some symbol =>
    if symbol == .plain '-' || symbol.mode?.isSome then
      match ← readModeChange symbol.mode? with
      | .whole on => return .wholeModes on
      | .group on off => return .modes on off
    else
      complain (.unknownExtension ("?" ++ symbol.toText)) ((← here) - (symbol.text.length + 1))

def readOpening (start : Nat) : ReadM Opening := do
  if ← accept '?' then readExtension start else return .plain none true

/-- Whether a symbol is skipped where a pattern is spaced out. -/
def Symbol.isSpace : Symbol → Bool
  | .plain c => c == ' ' || ('\t' ≤ c && c ≤ '\r')
  | .escaped _ => false

def Symbol.endsSequence : Symbol → Bool
  | .plain c => c == '|' || c == ')'
  | .escaped _ => false

def startAnchor (modes : Modes) : Anchor := if modes.multiline then .lineStart else .textStart

def endAnchor (modes : Modes) : Anchor := if modes.multiline then .lineEnd else .lastLineEnd

def dot (modes : Modes) : Node := .single (if modes.dotAll then .any else .notLineFeed)

mutual

/-- Reads branches up to a closing parenthesis or the end. At the top, `top`, the modes are those
of the whole pattern. -/
def readBranches : Nat → Bool → Modes → ReadM Node
  | 0, _, _ => do complain .unexpectedEnd (← here)
  | fuel + 1, top, modes => do
    let first ← readSequence fuel top modes []
    let rest ← readMoreBranches fuel top modes
    return .ofBranches (first :: rest)

def readMoreBranches : Nat → Bool → Modes → ReadM (List Node)
  | 0, _, _ => do complain .unexpectedEnd (← here)
  | fuel + 1, top, modes => do
    if ← accept '|' then
      let p ← get
      let modes := if top then p.modes else modes
      let next ← readSequence fuel false modes []
      let rest ← readMoreBranches fuel top modes
      return next :: rest
    else return []

/-- Reads nodes one after the other, behind the nodes `done` in reverse order. The modes of the
whole pattern may be set at its very start, `first`. -/
def readSequence : Nat → Bool → Modes → List Node → ReadM Node
  | 0, _, _, _ => do complain .unexpectedEnd (← here)
  | fuel + 1, first, modes, done => do
    match ← peek with
    | none => return .ofSequence done.reverse
    | some symbol =>
      if symbol.endsSequence then return .ofSequence done.reverse
      let start ← here
      let _ ← take
      if modes.spaced && symbol.isSpace then readSequence fuel first modes done
      else if modes.spaced && symbol == .plain '#' then
        let _ ← takeThrough '\n'
        readSequence fuel first modes done
      else match symbol with
        | .escaped c => readSequence fuel first modes ((← nodeEscape modes c) :: done)
        | .plain '[' => readSequence fuel first modes ((← readSetNode modes) :: done)
        | .plain '.' => readSequence fuel first modes (dot modes :: done)
        | .plain '^' => readSequence fuel first modes (.anchor (startAnchor modes) :: done)
        | .plain '$' => readSequence fuel first modes (.anchor (endAnchor modes) :: done)
        | .plain '(' =>
          match ← readOpening start with
          | .comment => readSequence fuel first modes done
          | .wholeModes on =>
            if !first || !done.isEmpty then complain .lateModes start
            modify fun p => { p with modes := on.foldl Modes.turnOn p.modes }
            readSequence fuel first (← get).modes done
          | .nameReference =>
            readSequence fuel first modes ((← readNameReference modes) :: done)
          | opening =>
            readSequence fuel first modes ((← readGroup fuel start modes opening) :: done)
        | .plain c =>
          if c == '*' || c == '+' || c == '?' || c == '\x7b' then
            match ← readBounds c with
            | some bounds =>
              readSequence fuel first modes (← repeatLast bounds start done)
            | none => readSequence fuel first modes (literal modes c.toNat :: done)
          else readSequence fuel first modes (literal modes c.toNat :: done)

/-- Reads the group opened at `start` behind its opening. -/
def readGroup : Nat → Nat → Modes → Opening → ReadM Node
  | 0, _, _, _ => do complain .unexpectedEnd (← here)
  | fuel + 1, start, modes, opening => do
    match opening with
    | .plain name true =>
      let index ← openGroup name
      let body ← readBranches fuel false modes
      closeParenthesis start
      closeGroup index body
      return .group (some index) body
    | .atomic =>
      let body ← readBranches fuel false modes
      closeParenthesis start
      return .atomic body
    | .look behind negated =>
      let outer := (← get).lookBehindFrom
      if behind && outer.isNone then
        modify fun p => { p with lookBehindFrom := some (p.groups.length + 1) }
      let body ← readBranches fuel false modes
      if behind then modify fun p => { p with lookBehindFrom := outer }
      closeParenthesis start
      let p ← get
      return .look (if behind then .behind (p.width body) else .ahead) negated body
    | .condition =>
      let index ← readCondition
      let present ← readSequence fuel false modes []
      let absent ←
        if ← accept '|' then
          let absent ← readSequence fuel false modes []
          if (← peek) == some (.plain '|') then complain .extraBranch (← here)
          pure absent
        else pure .empty
      closeParenthesis start
      return .ifGroup index present absent
    | .modes on off =>
      let body ← readBranches fuel false (modes.within on off)
      closeParenthesis start
      return .group none body
    | _ =>
      let body ← readBranches fuel false modes
      closeParenthesis start
      return .group none body

end

def Greed.word : Greed → String
  | .greedy => "MAX_REPEAT"
  | .lazy => "MIN_REPEAT"
  | .possessive => "POSSESSIVE_REPEAT"

/-- The complaint about a loop under modes that forbid repetition, or about a look-behind whose
body has no fixed width. -/
def Node.complaint? (repeatless : Bool) : Node → Option Complaint
  | .empty | .single _ | .anchor _ | .sameAs _ _ => none
  | .seq first second =>
    (first.complaint? repeatless).or (second.complaint? repeatless)
  | .either first second =>
    (first.complaint? repeatless).or (second.complaint? repeatless)
  | .loop greed _ _ body =>
    if repeatless then some (.repeatForbidden greed.word) else body.complaint? repeatless
  | .group _ body | .atomic body => body.complaint? repeatless
  | .look direction _ body =>
    match direction with
    | .ahead => body.complaint? repeatless
    | .behind width =>
      if tooManyRepetitions < width.low then some .longLookBehind
      else if width.low != width.high then some .wideLookBehind
      else body.complaint? repeatless
  | .ifGroup _ present absent =>
    (present.complaint? repeatless).or (absent.complaint? repeatless)

def readPattern : ReadM Node := do
  checkEnd
  let p ← get
  let node ← readBranches (4 * p.rest.length + 8) true p.modes
  let p ← get
  if p.modes.ascii && p.modes.unicode then throw .modeClash
  if !p.rest.isEmpty then complain .unbalancedParenthesis p.position
  match p.asked.find? fun asked => p.groups.length < asked.1 with
  | some (index, position) => complain (.noSuchGroup index) position
  | none =>
    match node.complaint? p.modes.repeatless with
    | some complaint => throw (.malformed complaint none)
    | none => return node

end AsmKit.Pattern

namespace AsmKit

/-- A pattern: the text it was written as, the modes in force, the number of its groups and what it
takes. -/
structure Pattern where
  source : String
  modes : Pattern.Modes
  groups : Nat
  body : Pattern.Node
  deriving DecidableEq, Repr

/-- The pattern with the given source, or why it is none. The modes add to those that the source
sets itself. -/
def Pattern.compile [characters : Text.CharacterNames] (source : String)
    (modes : Pattern.Modes := {}) : Except Pattern.Fault Pattern :=
  match Pattern.readPattern.run { characters, rest := source.toList, modes } with
  | .ok (body, p) => .ok ⟨source, p.modes, p.groups.length, body⟩
  | .error fault => .error fault

end AsmKit
