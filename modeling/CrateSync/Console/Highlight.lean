/-
# Highlights

What the console picks out of a text by itself: tags in angle brackets, attributes, brackets,
addresses, numbers, paths, quotations and the like.
-/
import CrateSync.Text.Identifier
import CrateSync.Text.Pattern

namespace CrateSync.Highlight

open Pattern

/-! ## Characters and places -/

/-- A character of a word. -/
def wordPart : Pattern :=
  one Text.isWordPart

/-- A character of a word, or one of certain others. -/
def wordPartOr (others : Text) : Pattern :=
  one fun c => Text.isWordPart c || others.contains c

/-- An ASCII digit. -/
def digit : Pattern :=
  one Char.isDigit

/-- A decimal digit of any script. -/
def anyDigit : Pattern :=
  one fun c => (Text.decimalDigit? c).isSome

/-- A hexadecimal digit. -/
def hexDigit : Pattern :=
  one Text.isHexDigit

/-- Not behind a word. -/
def outsideWord : Pattern :=
  between fun before _ => !before.any Text.isWordPart

/-- Whether exactly one of two neighbours belongs to a word. -/
def isWordEdge (before behind : Option Char) : Bool :=
  before.any Text.isWordPart != behind.any Text.isWordPart

/-- Where a word begins or ends. -/
def wordEdge : Pattern :=
  between isWordEdge

/-- Where no word begins or ends. -/
def noWordEdge : Pattern :=
  between fun before behind => !isWordEdge before behind

/-- Not behind a backslash. -/
def unescaped : Pattern :=
  between fun before _ => before != some '\\'

/-! ## Brackets and attributes -/

/-- A tag in angle brackets, as far as there is a closing bracket. -/
def tag : Pattern :=
  sequence
    [marked (char '<'), marked (many (wordPartOr "-.:|")), marked (many (one fun _ => true)),
      marked (char '>')]

/-- A name and an equals sign, and the value behind it. -/
def attributePair : Pattern :=
  sequence
    [marked (upTo 49 wordPart), char '=',
      optional (marked (sequence [optional (char '"'), several wordPart, optional (char '"')]))]

/-- A bracket. -/
def bracket : Pattern :=
  marked (oneOf "[]\x7b\x7d()")

/-! ## Addresses -/

/-- A pattern several times, with a separator in between. -/
def separated (n : Nat) (separator : Char) (p : Pattern) : Pattern :=
  both (times n (both p (char separator))) p

/-- Four numbers with points in between. -/
def numericAddress : Pattern :=
  marked (separated 3 '.' (upTo 2 digit))

/-- Groups of hexadecimal digits with one or two colons in between. -/
def hexAddress : Pattern :=
  marked
    (both (upTo 6 (sequence [upTo 3 hexDigit, char ':', optional (char ':')])) (upTo 3 hexDigit))

/-- The number of a device, of `n + 1` pairs of hexadecimal digits or of half as many groups of
four. -/
def deviceNumber (n : Nat) : Pattern :=
  marked
    (choice
      [separated n '-' (upTo 1 hexDigit), separated n ':' (upTo 1 hexDigit),
        separated (n / 2) '.' (times 4 hexDigit)])

/-- An identifying number in five groups. -/
def identifyingNumber : Pattern :=
  marked
    (both
      (sequence (([8, 4, 4, 4] : List Nat).map fun n => both (times n hexDigit) (char '-')))
      (times 12 hexDigit))

/-- An address on a network, with its scheme. -/
def link : Pattern :=
  marked
    (sequence
      [choice [text "file", text "https", text "http", text "ws", text "wss"], text "://",
        many (either (one Char.isAlphanum) (oneOf "-$_+!\x60(),.?/;:&=%#~"))])

/-! ## Values -/

/-- What stands before an opening bracket. -/
def call : Pattern :=
  both (marked (repeated false 0 none (wordPartOr ['.']))) (char '(')

/-- A constant. -/
def constant : Pattern :=
  choice ((["True", "False", "None"] : List Text).map fun name =>
    sequence [wordEdge, marked (text name), wordEdge])

/-- Three points. -/
def ellipsis : Pattern :=
  marked (text "...")

/-- Digits, perhaps with a point and more digits. -/
def decimals : Pattern :=
  sequence [several digit, optional (char '.'), many digit]

/-- An exponent. -/
def exponent (digits : Pattern) : Pattern :=
  sequence [char 'e', optional (oneOf ['-', '+']), digits]

/-- The digits of an exponent, as few as possible. -/
def fewDigits : Pattern :=
  repeated false 1 none anyDigit

/-- A number with an imaginary part. -/
def imaginaryNumber : Pattern :=
  marked
    (sequence
      [outsideWord, optional (char '-'), decimals, optional (exponent fewDigits),
        optional
          (sequence [oneOf ['-', '+'], decimals, optional (exponent (several anyDigit))]),
        char 'j'])

/-- A number. -/
def number : Pattern :=
  marked
    (either
      (sequence
        [outsideWord, optional (char '-'), decimals, optional (exponent fewDigits), wordEdge])
      (both (text "0x") (many hexDigit)))

/-- A path from a slash on up to its last slash, and the name behind that. -/
def path : Pattern :=
  both
    (marked (sequence [noWordEdge, many (both (char '/') (several (wordPartOr "-._+"))), char '/']))
    (marked (many (wordPartOr "-._+")))

/-- A text between quotes on one line. -/
def quotation : Pattern :=
  let between (quote : Text) : Pattern :=
    sequence
      [optional (char 'b'), text quote, repeated false 0 none (one (· != '\n')), unescaped,
        text quote]
  both
    (Pattern.between fun before _ => !before.any fun c => Text.isWordPart c || c = '\\')
    (marked
      (choice
        [between ['\'', '\'', '\''], between ['\''], between ['"', '"', '"'], between ['"']]))

/-! ## Everything -/

/-- The patterns of what is picked out; each is looked for by itself. -/
def patterns : List Pattern :=
  [tag, attributePair, bracket,
    choice
      [numericAddress, hexAddress, deviceNumber 7, deviceNumber 5, identifyingNumber, call, constant,
        ellipsis, imaginaryNumber, number, path, quotation, link]]

/-- The extents of what is picked out of a text. -/
def extents (t : Text) : List Extent :=
  patterns.flatMap fun p => p.findAll t

end CrateSync.Highlight
