/-
# Quoted texts in the arguments of an action

A quoted text has letters in front that tell how to take it, and its content between one or three
quotes on each side.  `readQuotation` finds where it ends, and `escapeMistake?` looks for mistakes in
the escapes of a content.
-/
import CrateSync.Console.Action.Mistake
import CrateSync.Text.CharacterName

namespace CrateSync.Action

/-- A quoted text: what its letters in front say, and what stands between its quotes. -/
structure Quotation where
  octets : Bool
  raw : Bool
  formatted : Bool
  content : Text
  deriving DecidableEq, Repr

/-! ## Where a quoted text ends -/

/-- What stands in front of the closing quote, and what stands behind it if there is one.  A
character behind a backslash closes nothing; the end of the line is the end of the text. -/
def untilQuote (quote : Char) : Text → Text × Option Text
  | [] => ([], none)
  | ['\\'] => (['\\'], none)
  | '\\' :: c :: rest =>
    let (content, after) := untilQuote quote rest
    ('\\' :: c :: content, after)
  | c :: rest =>
    if c = quote then ([], some rest)
    else if c = '\n' then ([], none)
    else
      let (content, after) := untilQuote quote rest
      (c :: content, after)

/-- The same for a text between three quotes, which may have several lines. -/
def untilQuotes (quote : Char) : Text → Text × Option Text
  | [] => ([], none)
  | ['\\'] => (['\\'], none)
  | '\\' :: c :: rest =>
    let (content, after) := untilQuotes quote rest
    ('\\' :: c :: content, after)
  | c :: rest =>
    match Text.after? [quote, quote, quote] (c :: rest) with
    | some after => ([], some after)
    | none =>
      let (content, after) := untilQuotes quote rest
      (c :: content, after)

/-- The letters that may stand in front of a quoted text. -/
def isQuotationMark (letters : Text) : Bool :=
  [[], ['b'], ['r'], ['u'], ['f'], ['b', 'r'], ['r', 'b'], ['f', 'r'], ['r', 'f']].contains
    (letters.map Char.toLower)

/-- A quoted text from its first quote on, with what follows it; without its closing quotes, whether
there should have been three, and what it holds up to its end. -/
def readQuotation (letters : Text) (quote : Char) (t : Text) :
    Except (Bool × Text) (Quotation × Text) :=
  let has (c : Char) := (letters.map Char.toLower).contains c
  let triple := Text.after? [quote, quote, quote] t
  let (content, after) := match triple with
    | some inside => untilQuotes quote inside
    | none => untilQuote quote t.tail
  match after with
  | some rest => .ok (⟨has 'b', has 'r', has 'f', content⟩, rest)
  | none => .error (triple.isSome, content)

/-! ## Escapes -/

/-- The number of digits of the escape that a letter begins. -/
def escapeWidth? (letter : Char) : Option Nat :=
  if letter = 'x' then some 2
  else if letter = 'u' then some 4
  else if letter = 'U' then some 8
  else none

/-- A text with escapes in place of the characters beyond ASCII, and of a backslash that stands in
front of one of them or at the end. -/
def spellOut : Text → Text
  | [] => []
  | '\\' :: rest =>
    if rest.head?.all (128 ≤ ·.toNat) then "\\u005c" ++ spellOut rest
    else
      match rest with
      | [] => []
      | c :: rest => '\\' :: c :: spellOut rest
  | c :: rest =>
    if c.toNat < 128 then c :: spellOut rest
    else "\\U" ++ Text.ofNatHex 8 c.toNat ++ spellOut rest

/-- The mistake in an escape that names a character, from behind its letter `N`, and the number of
places up to its end. -/
def namingMistake? (rest : Text) : Option ((Nat → Nat → Mistake) × Nat) :=
  match rest with
  | '\x7b' :: inside =>
    let characterName := inside.takeWhile (· != '\x7d')
    if characterName.length = inside.length then some (.namelessEscape, 1 + inside.length)
    else if characterName.isEmpty then some (.namelessEscape, 1)
    else if Text.isCharacterName characterName then none
    else some (.unknownName, characterName.length + 2)
  | _ => some (.namelessEscape, 0)

/-- The first mistake in the escapes of a text in ASCII, of which the part behind `position` is
left. -/
def plainEscapeMistake? (octets : Bool) : Nat → Text → Option Mistake
  | _, [] => none
  | _, ['\\'] => none
  | position, '\\' :: letter :: rest =>
    let width := escapeWidth? letter
    match if octets && letter != 'x' then none else width with
    | none =>
      match if !octets && letter = 'N' then namingMistake? rest else none with
      | some (mistake, width) => some (mistake position (position + 1 + width))
      | none => plainEscapeMistake? octets (position + 2) rest
    | some width =>
      let digits := (rest.take width).takeWhile Text.isHexDigit
      if digits.length < width then
        some (if octets then .badOctetEscape position
          else .shortEscape letter position (position + 1 + digits.length))
      else if !octets && 0x10FFFF < Text.digitsValue 16 digits then
        some (.badEscape position (position + 1 + width))
      else plainEscapeMistake? octets (position + 2) rest
  | position, _ :: rest => plainEscapeMistake? octets (position + 1) rest

/-- The first mistake in the escapes of a text.  Places are counted after the characters beyond ASCII
have been spelled out. -/
def escapeMistake? (octets : Bool) (t : Text) : Option Mistake :=
  plainEscapeMistake? octets 0 (if octets then t else spellOut t)

/-- The mistake in a quoted text that is not formatted, if it has one. -/
def Quotation.mistake? (q : Quotation) : Option Mistake :=
  if q.octets && q.content.any (128 ≤ ·.toNat) then some .wideOctet
  else if q.raw || q.formatted then none
  else escapeMistake? q.octets q.content

end CrateSync.Action
