/-
# Quoted texts

The form in which messages show a text that came from outside: between quotes, with every
character that could not be read off the page written as an escape.  The quotes are single ones
unless the text itself holds single quotes and no double ones.
-/
import CrateSync.Text.Basic
import CrateSync.Text.Printable

namespace CrateSync.Text

/-- A character inside quotes: backslash, the quote in use and the usual breaks have short escapes,
and other characters that cannot be shown are written by number, in two, four or eight digits. -/
def quoteChar (quote c : Char) : Text :=
  if c = '\\' ∨ c = quote then ['\\', c]
  else if c = '\n' then ['\\', 'n']
  else if c = '\r' then ['\\', 'r']
  else if c = '\t' then ['\\', 't']
  else if isPrintable c then [c]
  else if c.toNat < 0x100 then '\\' :: 'x' :: ofNatHex 2 c.toNat
  else if c.toNat < 0x10000 then '\\' :: 'u' :: ofNatHex 4 c.toNat
  else '\\' :: 'U' :: ofNatHex 8 c.toNat

/-- The quote that a text is put between. -/
def quoteFor (t : Text) : Char :=
  if t.contains '\'' && !t.contains '"' then '"' else '\''

/-- A text between quotes. -/
def quoted (t : Text) : Text :=
  let quote := quoteFor t
  quote :: t.flatMap (quoteChar quote) ++ [quote]

/-- Several texts as a list in parentheses; a single one is followed by a comma. -/
def quotedTuple : List Text → Text
  | [t] => "(" ++ quoted t ++ ",)"
  | ts => "(" ++ joinWith ", " (ts.map quoted) ++ ")"

end CrateSync.Text
