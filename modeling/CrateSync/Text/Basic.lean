/-
# Texts

A text is a list of characters, so that every function on texts is plain recursion on a list and
can be evaluated inside a proof.  This file holds the few general operations that the other
modules share: searching, splitting at a character, joining, padding, and decimal numerals; and the
forms in which parts of a text and kinds of characters are kept.
-/

namespace CrateSync

/-- A text, character by character. -/
abbrev Text := List Char

/-- A string literal stands for the text of its characters. -/
instance : Coe String Text := ⟨String.toList⟩

namespace Text

/-! ## Searching -/

/-- Whether `part` stands somewhere in the text as consecutive characters. -/
def includes (part : Text) : Text → Bool
  | [] => part.isEmpty
  | c :: rest => part.isPrefixOf (c :: rest) || includes part rest

/-- What follows `start`, if the text begins with it. -/
def after? (start whole : Text) : Option Text :=
  start.isPrefixOf? whole

/-- The text before the first occurrence of `mark` and the text from that occurrence on. -/
def cutAt? (mark : Text) : Text → Option (Text × Text)
  | [] => if mark.isEmpty then some ([], []) else none
  | c :: rest =>
    if mark.isPrefixOf (c :: rest) then some ([], c :: rest)
    else (cutAt? mark rest).map fun (before, found) => (c :: before, found)

/-! ## Splitting and joining -/

/-- Puts a character in front of the first piece. -/
def consFirst (c : Char) : List Text → List Text
  | [] => [[c]]
  | piece :: pieces => (c :: piece) :: pieces

/-- The pieces between the occurrences of a separator; a text without one is a single piece. -/
def splitOn (sep : Char) : Text → List Text
  | [] => [[]]
  | c :: rest => if c = sep then [] :: splitOn sep rest else consFirst c (splitOn sep rest)

/-- The pieces in order with `sep` between neighbours. -/
def joinWith (sep : Text) : List Text → Text
  | [] => []
  | [piece] => piece
  | piece :: next :: pieces => piece ++ sep ++ joinWith sep (next :: pieces)

/-- Drops the longest end of the text all of whose characters satisfy `p`. -/
def dropRightWhile (p : Char → Bool) (t : Text) : Text :=
  (t.reverse.dropWhile p).reverse

/-! ## Numerals -/

/-- The decimal numeral of a natural number. -/
def ofNat (n : Nat) : Text :=
  Nat.toDigits 10 n

/-- The decimal numeral of an integer, with a minus sign in front of a negative one. -/
def ofInt : Int → Text
  | .ofNat n => ofNat n
  | .negSucc n => '-' :: ofNat (n + 1)

/-- The numeral of `n` in hexadecimal lower case, filled up with zeros to `width` digits. -/
def ofNatHex (width n : Nat) : Text :=
  let digits := Nat.toDigits 16 n
  List.replicate (width - digits.length) '0' ++ digits

/-- Whether a character is a hexadecimal digit, in either case. -/
def isHexDigit (c : Char) : Bool :=
  c.isDigit || ('a' ≤ c && c ≤ 'f') || ('A' ≤ c && c ≤ 'F')

/-- The value of a digit in any base up to sixteen, either case; other characters count as zero. -/
def digitValue (c : Char) : Nat :=
  if '0' ≤ c ∧ c ≤ '9' then c.toNat - '0'.toNat
  else if 'a' ≤ c ∧ c ≤ 'f' then c.toNat - 'a'.toNat + 10
  else if 'A' ≤ c ∧ c ≤ 'F' then c.toNat - 'A'.toNat + 10
  else 0

/-- The number that a list of digits writes in a base, most significant digit first. -/
def digitsValue (base : Nat) (digits : Text) : Nat :=
  digits.foldl (fun value c => value * base + digitValue c) 0

end Text

/-! ## Parts of a text -/

/-- The positions from a start up to a stop, without the stop itself. -/
structure Extent where
  start : Nat
  stop : Nat
  deriving DecidableEq, Repr

namespace Extent

/-- The positions that two extents share. -/
def meet (e f : Extent) : Extent :=
  ⟨max e.start f.start, min e.stop f.stop⟩

/-- Whether an extent holds no position. -/
def isEmpty (e : Extent) : Bool :=
  e.stop ≤ e.start

end Extent

/-! ## Kinds of characters -/

/-- A set of code points as closed ranges in ascending order and without overlap, the form in which the
tables of character properties are kept. -/
abbrev CodeRanges := List (Nat × Nat)

namespace CodeRanges

/-- Whether a code point lies in one of the ranges; the search stops at the first range that
begins beyond it. -/
def holds : CodeRanges → Nat → Bool
  | [], _ => false
  | (low, high) :: rest, n => if n < low then false else n ≤ high || holds rest n

end CodeRanges

end CrateSync
