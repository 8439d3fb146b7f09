/-
# Mistakes in the arguments of an action

Why the arguments of an action cannot be read, and the wording of each case.  The first cases are
about the smallest parts, the others about how the parts stand together.
-/
import CrateSync.Text.Basic

namespace CrateSync.Action

/-- The notations of numbers. -/
inductive Notation where
  | decimal
  | hexadecimal
  | octal
  | binary
  /-- A decimal number that counts the imaginary unit. -/
  | imaginary
  deriving DecidableEq, Repr

/-- The name of a notation. -/
def Notation.name : Notation → Text
  | .decimal => "decimal"
  | .hexadecimal => "hexadecimal"
  | .octal => "octal"
  | .binary => "binary"
  | .imaginary => "imaginary"

/-- Why arguments cannot be read. -/
inductive Mistake where
  /-- A bracket that is never closed. -/
  | neverClosed (opening : Char)
  /-- A closing bracket where none is open. -/
  | neverOpened (closing : Char)
  /-- A closing bracket of another kind than the last open one, with the line of the open one if
  that is not the same. -/
  | crossed (closing opening : Char) (line : Option Nat)
  | tooDeep
  /-- A text without its closing quotes, of which there should have been one or three. -/
  | openText (triple : Bool) (line : Nat)
  | badNumber (form : Notation)
  | badDigit (digit : Char) (form : Notation)
  | leadingZeros
  | badCharacter (c : Char)
  | hiddenCharacter (c : Char)
  /-- Something behind a backslash that should have ended its line. -/
  | afterBackslash
  /-- Octets and characters side by side. -/
  | mixedTexts
  | wideOctet
  | badOctetEscape (position : Nat)
  /-- An escape without all its digits. -/
  | shortEscape (letter : Char) (start stop : Nat)
  | badEscape (start stop : Nat)
  /-- An escape that should name a character and does not. -/
  | namelessEscape (start stop : Nat)
  /-- An escape that names a character that does not exist. -/
  | unknownName (start stop : Nat)
  /-- A line that begins further to the right than the first one. -/
  | indented
  /-- Parts in an order that means nothing. -/
  | disorder
  | missingComma
  | missingElse
  | missingCall (name : Text)
  /-- A single equals sign, or one with a colon, behind a name. -/
  | oneEquals
  | assigned (kind : Text)
  | assignedHere (kind : Text)
  | assignedExpression
  | namedExpression (kind : Text)
  | starredAlone
  | doubleStarredAlone
  | starredElement
  | doubleStarredElement
  | bareElement
  | missingColon
  | missingValue
  | starredValue
  | unpackedLate
  /-- An argument without a name behind one with a name, or behind unpacked ones. -/
  | unnamedLate (unpacked : Bool)
  | bareGenerator
  /-- Parameters in parentheses. -/
  | wrappedParameters
  /-- A parameter without a default value behind one that has one. -/
  | plainLate
  | missingDefault
  | leadingSlash
  | secondSlash
  | slashBehindStar
  | slashBeforeStar
  | secondStar
  /-- A star without a name, and no parameter behind it. -/
  | starAlone
  | starDefault
  | doubleStarDefault
  /-- Something behind the last parameter that there can be. -/
  | parameterLate
  /-- A closing brace in a formatted text that closes nothing. -/
  | loneBrace
  /-- Braces in a formatted text that hold no term, in front of a mark or alone. -/
  | emptyField (mark : Option Char)
  | badConversion
  /-- Braces in a formatted text that are not closed. -/
  | openField
  | fieldCrossed (closing opening : Char)
  /-- A bracket inside of the braces of a formatted text that stands for itself. -/
  | fieldUnmatched (bracket : Char)
  | fieldComment
  | fieldBackslash
  | fieldOpenText
  | fieldsTooDeep
  | fieldBrackets
  /-- A mistake in a term inside of the braces of a formatted text. -/
  | embedded (m : Mistake)
  deriving DecidableEq, Repr

/-- The number of a character as it is usually written: at least four capital digits. -/
def codePoint (c : Char) : Text :=
  "U+" ++ (Text.ofNatHex 4 c.toNat).map Char.toUpper

/-- A character between quotes. -/
def quotedChar (c : Char) : Text :=
  ['\'', c, '\'']

/-- The places of a faulty escape, the last one included. -/
def escapePlace (start stop : Nat) : Text :=
  "(unicode error) 'unicodeescape' codec can't decode bytes in position " ++ Text.ofNat start ++ "-"
    ++ Text.ofNat stop ++ ": "

/-- The form of a numeric escape, with a letter for each digit. -/
def escapeForm (letter : Char) : Text :=
  '\\' :: letter :: List.replicate (if letter = 'x' then 2 else if letter = 'u' then 4 else 8) 'X'

/-- The wording of a mistake. -/
def Mistake.message : Mistake → Text
  | .neverClosed opening => quotedChar opening ++ " was never closed"
  | .neverOpened closing => "unmatched " ++ quotedChar closing
  | .crossed closing opening line =>
    "closing parenthesis " ++ quotedChar closing ++ " does not match opening parenthesis "
      ++ quotedChar opening ++ (line.map fun n => " on line " ++ Text.ofNat n).getD []
  | .tooDeep => "too many nested parentheses"
  | .openText triple line =>
    "unterminated " ++ (if triple then "triple-quoted " else "")
      ++ "string literal (detected at line " ++ Text.ofNat line ++ ")"
  | .badNumber form => "invalid " ++ form.name ++ " literal"
  | .badDigit digit form =>
    "invalid digit " ++ quotedChar digit ++ " in " ++ form.name ++ " literal"
  | .leadingZeros =>
    "leading zeros in decimal integer literals are not permitted; "
      ++ "use an 0o prefix for octal integers"
  | .badCharacter c => "invalid character " ++ quotedChar c ++ " (" ++ codePoint c ++ ")"
  | .hiddenCharacter c => "invalid non-printable character " ++ codePoint c
  | .afterBackslash => "unexpected character after line continuation character"
  | .mixedTexts => "cannot mix bytes and nonbytes literals"
  | .wideOctet => "bytes can only contain ASCII literal characters"
  | .badOctetEscape position =>
    "(value error) invalid \\x escape at position " ++ Text.ofNat position
  | .shortEscape letter start stop =>
    escapePlace start stop ++ "truncated " ++ escapeForm letter ++ " escape"
  | .badEscape start stop => escapePlace start stop ++ "illegal Unicode character"
  | .namelessEscape start stop => escapePlace start stop ++ "malformed \\N character escape"
  | .unknownName start stop => escapePlace start stop ++ "unknown Unicode character name"
  | .indented => "unexpected indent"
  | .disorder => "invalid syntax"
  | .missingComma => "invalid syntax. Perhaps you forgot a comma?"
  | .missingElse => "expected 'else' after 'if' expression"
  | .missingCall name =>
    "Missing parentheses in call to '" ++ name ++ "'. Did you mean " ++ name ++ "(...)?"
  | .oneEquals => "invalid syntax. Maybe you meant '==' or ':=' instead of '='?"
  | .assigned kind => "cannot assign to " ++ kind
  | .assignedHere kind =>
    "cannot assign to " ++ kind ++ " here. Maybe you meant '==' instead of '='?"
  | .assignedExpression => "expression cannot contain assignment, perhaps you meant \"==\"?"
  | .namedExpression kind => "cannot use assignment expressions with " ++ kind
  | .starredAlone => "cannot use starred expression here"
  | .doubleStarredAlone => "cannot use double starred expression here"
  | .starredElement => "iterable unpacking cannot be used in comprehension"
  | .doubleStarredElement => "dict unpacking cannot be used in dict comprehension"
  | .bareElement => "did you forget parentheses around the comprehension target?"
  | .missingColon => "':' expected after dictionary key"
  | .missingValue => "expression expected after dictionary key and ':'"
  | .starredValue => "cannot use a starred expression in a dictionary value"
  | .unpackedLate => "iterable argument unpacking follows keyword argument unpacking"
  | .unnamedLate unpacked =>
    "positional argument follows keyword argument" ++ if unpacked then " unpacking" else ""
  | .bareGenerator => "Generator expression must be parenthesized"
  | .wrappedParameters => "Lambda expression parameters cannot be parenthesized"
  | .plainLate => "non-default argument follows default argument"
  | .missingDefault => "expected default value expression"
  | .leadingSlash => "at least one argument must precede /"
  | .secondSlash => "/ may appear only once"
  | .slashBehindStar => "/ must be ahead of *"
  | .slashBeforeStar => "expected comma between / and *"
  | .secondStar => "* argument may appear only once"
  | .starAlone => "named arguments must follow bare *"
  | .starDefault => "var-positional argument cannot have default value"
  | .doubleStarDefault => "var-keyword argument cannot have default value"
  | .parameterLate => "arguments cannot follow var-keyword argument"
  | .loneBrace => "f-string: single '\x7d' is not allowed"
  | .emptyField none => "f-string: empty expression not allowed"
  | .emptyField (some mark) => "f-string: expression required before " ++ quotedChar mark
  | .badConversion => "f-string: invalid conversion character: expected 's', 'r', or 'a'"
  | .openField => "f-string: expecting '\x7d'"
  | .fieldCrossed closing opening =>
    "f-string: closing parenthesis " ++ quotedChar closing ++ " does not match opening parenthesis "
      ++ quotedChar opening
  | .fieldUnmatched bracket => "f-string: unmatched " ++ quotedChar bracket
  | .fieldComment => "f-string expression part cannot include '#'"
  | .fieldBackslash => "f-string expression part cannot include a backslash"
  | .fieldOpenText => "f-string: unterminated string"
  | .fieldsTooDeep => "f-string: expressions nested too deeply"
  | .fieldBrackets => "f-string: too many nested parenthesis"
  | .embedded m => "f-string: " ++ m.message

/-- Why a reading stops before its end. -/
inductive Halt where
  /-- A mistake in how parts stand together; around a term inside of a formatted text it is shown
  as one of the formatted text. -/
  | plain (m : Mistake)
  /-- A mistake that is shown in the same words wherever it stands. -/
  | final (m : Mistake)
  /-- The parts are nested too deeply. -/
  | exhausted
  deriving DecidableEq, Repr

end CrateSync.Action
