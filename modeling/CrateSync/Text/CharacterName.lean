/-
# The names of characters

Whether a text is the name of a character.  Most names stand in a table, in capital letters; a text
may have small letters in their place.  The names of ideographs and of syllables made of several
letters follow rules, and these want capital letters.
-/
import CrateSync.Text.Basic
import CrateSync.Text.CharacterName.Table

namespace CrateSync.Text

/-! ## Names in the table -/

/-- A number below `fingerprintModulus` that stands for a text. -/
def fingerprint (t : Text) : Nat :=
  t.foldl (fun sum c => (sum + c.toNat) * 271828183 % fingerprintModulus) 0

/-- The value of a digit in base 62. -/
def wideDigitValue (c : Char) : Nat :=
  if c.isDigit then c.toNat - '0'.toNat
  else if c.isUpper then c.toNat - 'A'.toNat + 10
  else c.toNat - 'a'.toNat + 36

/-- Whether a fingerprint is reached by going on from `start` by the distances that a text writes; if
not, where they lead to. -/
def reach (goal : Nat) : Nat → Text → Option Nat
  | start, a :: b :: c :: rest =>
    let next := start + ((wideDigitValue a * 62 + wideDigitValue b) * 62 + wideDigitValue c)
    if next = goal then none else reach goal next rest
  | start, _ => some start

/-- Whether a fingerprint is reached by the distances in several lines. -/
def reaches (goal : Nat) : Nat → List String → Bool
  | _, [] => false
  | start, line :: rest =>
    match reach goal start line.toList with
    | none => true
    | some next => reaches goal next rest

/-! ## Names by rule -/

/-- The ideographs that have a name by rule. -/
def unifiedIdeographs : CodeRanges :=
  [(0x3400, 0x4DBF), (0x4E00, 0x9FFF), (0x20000, 0x2A6DF), (0x2A700, 0x2B738), (0x2B740, 0x2B81D),
    (0x2B820, 0x2CEA1), (0x2CEB0, 0x2EBE0), (0x30000, 0x3134A)]

/-- Whether a text is the number of such an ideograph, in four or five digits. -/
def isIdeographNumber (t : Text) : Bool :=
  (t.length = 4 || t.length = 5) && t.all (fun c => isHexDigit c && !c.isLower)
    && unifiedIdeographs.holds (digitsValue 16 t)

/-- The names of the letters that a syllable may begin with. -/
def syllableStarts : List Text :=
  ["G", "GG", "N", "D", "DD", "R", "M", "B", "BB", "S", "SS", "", "J", "JJ", "C", "K", "T", "P",
    "H"].map String.toList

/-- The names of the vowels of syllables. -/
def syllableVowels : List Text :=
  ["A", "AE", "YA", "YAE", "EO", "E", "YEO", "YE", "O", "WA", "WAE", "OE", "YO", "U", "WEO", "WE",
    "WI", "YU", "EU", "YI", "I"].map String.toList

/-- The names of the letters that a syllable may end with. -/
def syllableEnds : List Text :=
  ["", "G", "GG", "GS", "N", "NJ", "NH", "D", "L", "LG", "LM", "LB", "LS", "LT", "LP", "LH", "M",
    "B", "BS", "S", "SS", "NG", "J", "C", "K", "T", "P", "H"].map String.toList

/-- What follows the longest of several names that a text begins with. -/
def afterLongest? (choices : List Text) (t : Text) : Option Text :=
  let longest := (choices.filter (·.isPrefixOf t)).map List.length
  longest.max?.map t.drop

/-- Whether a text is the name of a syllable. -/
def isSyllable (t : Text) : Bool :=
  ((afterLongest? syllableStarts t).bind (afterLongest? syllableVowels)).bind
    (afterLongest? syllableEnds) = some []

/-! ## All names -/

/-- Whether a text is the name of a character. -/
def isCharacterName (t : Text) : Bool :=
  match after? "HANGUL SYLLABLE " t, after? "CJK UNIFIED IDEOGRAPH-" t with
  | some syllable, _ => isSyllable syllable
  | none, some number => isIdeographNumber number
  | none, none => reaches (fingerprint (t.map Char.toUpper)) 0 fingerprintDistances

end CrateSync.Text
