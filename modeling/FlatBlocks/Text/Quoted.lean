import FlatBlocks.Text.Digits
import FlatBlocks.Text.Printable

/-! A text between quotes, on one line and with its unprintable code points
spelled out. Single quotes enclose it, unless it has some of those and no
double quote. -/

namespace FlatBlocks.Text

def quoteFor (s : Text) : CodePoint :=
  if s.contains '\'' && !s.contains '"' then '"' else '\''

/-- The number of a code point, in the shortest of the forms with two, four and
eight digits. -/
def numberEscape (c : CodePoint) : Text :=
  if c.toNat < 0x100 then "\\x" ++ hex 2 c.toNat
  else if c.toNat < 0x10000 then "\\u" ++ hex 4 c.toNat
  else "\\U" ++ hex 8 c.toNat

/-- A code point that cannot be shown is written by its number. -/
def escapeQuoted (quote c : CodePoint) : Text :=
  if c = '\\' || c = quote then ['\\', c]
  else if c = '\n' then "\\n"
  else if c = '\x0d' then "\\r"
  else if c = '\t' then "\\t"
  else if isPrintable c then [c]
  else numberEscape c

def quoted (s : Text) : Text :=
  let quote := quoteFor s
  quote :: (s.flatMap (escapeQuoted quote) ++ [quote])

end FlatBlocks.Text
