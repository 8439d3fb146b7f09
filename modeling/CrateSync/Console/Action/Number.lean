/-
# Numbers in the arguments of an action

How far a number goes: decimal ones with a fraction, an exponent and a unit, and those in another
base.  `readNumber` tells whether the number counts the imaginary unit, and what follows it.
-/
import CrateSync.Console.Action.Mistake

namespace CrateSync.Action

/-- What follows decimal digits, among which low lines may stand one at a time; behind a low line
there has to be a digit. -/
def afterDigits : Text → Except Mistake Text
  | [] => .ok []
  | ['_'] => .error (.badNumber .decimal)
  | '_' :: c :: rest => if c.isDigit then afterDigits rest else .error (.badNumber .decimal)
  | c :: rest => if c.isDigit then afterDigits rest else .ok (c :: rest)

/-- Whether a character may stand in a name at first sight: in ASCII letters, digits and low lines, and
beyond ASCII any character. -/
def isWide (c : Char) : Bool :=
  c.isAlphanum || c = '_' || 128 ≤ c.toNat

/-- The reserved words that may follow a number without a space, if they end there. -/
def wordsBehindNumbers : List Text :=
  ["and", "else", "for", "or", "not"].map String.toList

/-- The reserved words that may follow a number without a space, whatever follows them. -/
def startsBehindNumbers : List Text :=
  ["if", "in", "is"].map String.toList

/-- A number that has been read, with what follows it: at first sight that has to be something else
than a name. -/
def endNumber (form : Notation) (rest : Text) : Except Mistake (Bool × Text) :=
  if rest.head?.any isWide && !(wordsBehindNumbers.contains (rest.takeWhile isWide))
      && !(startsBehindNumbers.any (·.isPrefixOf rest)) then
    .error (.badNumber form)
  else .ok (form = .imaginary, rest)

/-- A decimal number from behind its digits and its fraction and exponent. -/
def readUnit : Text → Except Mistake (Bool × Text)
  | 'j' :: rest => endNumber .imaginary rest
  | 'J' :: rest => endNumber .imaginary rest
  | rest => endNumber .decimal rest

/-- A decimal number from behind the letter of its exponent; without digits there the number ends
in front of the letter. -/
def readExponent (letter : Char) (rest : Text) : Except Mistake (Bool × Text) :=
  match rest with
  | [] => endNumber .decimal (letter :: rest)
  | c :: digits =>
    if c = '+' ∨ c = '-' then
      if digits.head?.any Char.isDigit then do readUnit (← afterDigits digits)
      else .error (.badNumber .decimal)
    else if c.isDigit then do readUnit (← afterDigits rest)
    else endNumber .decimal (letter :: rest)

/-- A decimal number from behind its digits and its fraction. -/
def readScale : Text → Except Mistake (Bool × Text)
  | 'e' :: rest => readExponent 'e' rest
  | 'E' :: rest => readExponent 'E' rest
  | rest => readUnit rest

/-- A decimal number from behind its point. -/
def readFraction (rest : Text) : Except Mistake (Bool × Text) :=
  if rest.head?.any Char.isDigit then do readScale (← afterDigits rest) else readScale rest

/-- Reads the digits of a number in another base than ten, behind the character `last`. -/
def readRadix (form : Notation) (isDigit : Char → Bool) :
    Option Char → Text → Except Mistake (Bool × Text)
  | last, '_' :: rest =>
    if last = some '_' then .error (.badNumber form) else readRadix form isDigit (some '_') rest
  | last, c :: rest =>
    if isDigit c then readRadix form isDigit (some c) rest
    else if c.isDigit then .error (.badDigit c form)
    else if last.any (· != '_') then endNumber form (c :: rest)
    else .error (.badNumber form)
  | last, [] => if last.any (· != '_') then endNumber form [] else .error (.badNumber form)

/-- A number from behind its first zero: a zero in front of other digits is allowed only where a
fraction, an exponent or a unit follows. -/
def readZero (rest : Text) : Except Mistake (Bool × Text) := do
  let after ← afterDigits rest
  let run := rest.take (rest.length - after.length)
  match after with
  | '.' :: fraction => readFraction fraction
  | c :: _ =>
    if c = 'e' ∨ c = 'E' ∨ c = 'j' ∨ c = 'J' then readScale after
    else if run.any fun d => d != '0' && d != '_' then .error .leadingZeros
    else endNumber .decimal after
  | [] =>
    if run.any fun d => d != '0' && d != '_' then .error .leadingZeros else endNumber .decimal after

/-- A number, which begins with a digit or with a point. -/
def readNumber : Text → Except Mistake (Bool × Text)
  | '.' :: rest => readFraction rest
  | '0' :: letter :: rest =>
    if letter = 'x' ∨ letter = 'X' then
      readRadix .hexadecimal Text.isHexDigit none rest
    else if letter = 'o' ∨ letter = 'O' then
      readRadix .octal (fun c => '0' ≤ c && c ≤ '7') none rest
    else if letter = 'b' ∨ letter = 'B' then
      readRadix .binary (fun c => c = '0' || c = '1') none rest
    else readZero (letter :: rest)
  | ['0'] => readZero []
  | t => do
    match ← afterDigits t with
    | '.' :: rest => readFraction rest
    | rest => readScale rest

end CrateSync.Action
