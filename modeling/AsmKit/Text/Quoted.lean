import AsmKit.Text.Hex
import AsmKit.Text.Printable

/-!
Quoted texts, as messages show them. A text stands between single quotes, or between double quotes
where it holds a single quote and no double one; the backslash, the quote in use, line and tab
characters and all that is not printable are escaped.
-/

namespace AsmKit.Text

def escapeChar (quote c : Char) : List Char :=
  if c == quote || c == '\\' then ['\\', c]
  else if c == '\n' then ['\\', 'n']
  else if c == '\r' then ['\\', 'r']
  else if c == '\t' then ['\\', 't']
  else if c == ' ' || isPrintable c then [c]
  else if c.toNat < 0x100 then '\\' :: 'x' :: hexDigits 2 c.toNat
  else if c.toNat < 0x10000 then '\\' :: 'u' :: hexDigits 4 c.toNat
  else '\\' :: 'U' :: hexDigits 8 c.toNat

def quoteFor (cs : List Char) : Char :=
  if cs.contains '\'' && !cs.contains '"' then '"' else '\''

/-- A text between quotes, with escapes. -/
def quoted (s : String) : String :=
  let cs := s.toList
  let quote := quoteFor cs
  String.ofList (quote :: (cs.flatMap (escapeChar quote) ++ [quote]))

end AsmKit.Text
