/-
# Lines

Cutting a text into lines that keep their endings.  A line ends after a line feed, a carriage
return, the pair of the two, or one of the other characters that Unicode reads as the end of a
line or paragraph.  The lines put back together are the text.
-/
import CrateSync.Text.Basic

namespace CrateSync.Text

/-- Whether a line ends after this character. -/
def isLineBreak (c : Char) : Bool :=
  let n := c.toNat
  (0x0A ≤ n && n ≤ 0x0D) || (0x1C ≤ n && n ≤ 0x1E) || n == 0x85 || n == 0x2028 || n == 0x2029

/-- The lines of a text, each with its ending; a text that ends in a line break has no empty
last line. -/
def lines : Text → List Text
  | [] => []
  | '\r' :: '\n' :: rest => ['\r', '\n'] :: lines rest
  | c :: rest => if isLineBreak c then [c] :: lines rest else consFirst c (lines rest)

@[simp] theorem flatten_consFirst (c : Char) (pieces : List Text) :
    (consFirst c pieces).flatten = c :: pieces.flatten := by
  cases pieces <;> simp [consFirst]

/-- **The lines put back together are the text.** -/
theorem flatten_lines (t : Text) : (lines t).flatten = t := by
  fun_induction lines t with
  | case1 => rfl
  | case2 rest ih => simp [ih]
  | case3 c rest _ _ ih => simp [ih]
  | case4 c rest _ _ ih => simp [ih]

/-- Whether the text ends in a line feed. -/
def endsLine (t : Text) : Bool :=
  t.getLast? == some '\n'

/-- The line break that a text uses: the pair of carriage return and line feed if it occurs
anywhere, else the line feed. -/
def lineBreakOf (t : Text) : Text :=
  if includes ['\r', '\n'] t then ['\r', '\n'] else ['\n']

/-- The text with each pair of carriage return and line feed made a line feed. -/
def joinPairs : Text → Text
  | [] => []
  | '\r' :: '\n' :: rest => '\n' :: joinPairs rest
  | c :: rest => c :: joinPairs rest

/-- The text with each pair of carriage return and line feed, and each carriage return that stands
alone, made a line feed. -/
def unifyBreaks : Text → Text
  | [] => []
  | '\r' :: '\n' :: rest => '\n' :: unifyBreaks rest
  | '\r' :: rest => '\n' :: unifyBreaks rest
  | c :: rest => c :: unifyBreaks rest

end CrateSync.Text
