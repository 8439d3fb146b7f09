/-
# Blank characters

The characters that count as white space when a value is trimmed, when a line is recognised and
when spaces inside a value are removed.  The set is the Unicode one with the four information
separators added; zero-width characters do not belong to it.
-/
import CrateSync.Text.Basic

namespace CrateSync.Text

/-- Whether a character is white space. -/
def isBlank (c : Char) : Bool :=
  let n := c.toNat
  (0x09 ≤ n && n ≤ 0x0D) || (0x1C ≤ n && n ≤ 0x20) || n == 0x85 || n == 0xA0 || n == 0x1680
    || (0x2000 ≤ n && n ≤ 0x200A) || n == 0x2028 || n == 0x2029 || n == 0x202F || n == 0x205F
    || n == 0x3000

/-- The text from its first character that is not blank. -/
def dropBlanks (t : Text) : Text :=
  t.dropWhile isBlank

/-- The text without the blanks at its two ends. -/
def trim (t : Text) : Text :=
  dropRightWhile isBlank (dropBlanks t)

/-- The text without any blank, inside or at the ends. -/
def deleteBlanks (t : Text) : Text :=
  t.filter fun c => !isBlank c

/-- Whether every character of the text is blank; the empty text is. -/
def allBlank (t : Text) : Bool :=
  t.all isBlank

end CrateSync.Text
