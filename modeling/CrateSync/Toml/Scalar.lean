/-
# Numbers, dates and truth values

The values of a document that are neither strings nor containers.  Each reader takes the longest
beginning of the text that has its form and leaves what follows to whoever reads on.
-/
import CrateSync.Toml.Lexeme

namespace CrateSync.Toml

/-! ## Runs of digits -/

/-- The digits from here on, with at most one underscore before each. -/
def moreDigits (isDigit : Char → Bool) : Text → Text × Text
  | '_' :: d :: rest =>
    if isDigit d then
      let (digits, after) := moreDigits isDigit rest
      (d :: digits, after)
    else ([], '_' :: d :: rest)
  | d :: rest =>
    if isDigit d then
      let (digits, after) := moreDigits isDigit rest
      (d :: digits, after)
    else ([], d :: rest)
  | [] => ([], [])

/-- A digit and those after it, with single underscores in between. -/
def digits? (isDigit : Char → Bool) : Text → Option (Text × Text)
  | [] => none
  | d :: rest =>
    if isDigit d then
      let (digits, after) := moreDigits isDigit rest
      some (d :: digits, after)
    else none

/-! ## Dates and times -/

/-- A decimal number of exactly `width` digits between two bounds. -/
def fixed? (width low high : Nat) (t : Text) : Option (Nat × Text) :=
  let digits := t.take width
  let n := Text.digitsValue 10 digits
  if digits.length = width && digits.all Char.isDigit && low ≤ n && n ≤ high then
    some (n, t.drop width)
  else none

/-- What follows a given character. -/
def char? (c : Char) (t : Text) : Option Text :=
  match t with
  | d :: rest => if d = c then some rest else none
  | [] => none

/-- Four digits of the year, two of the month and two of the day; whether the date exists is not
asked here. -/
def date? (t : Text) : Option (Date × Text) := do
  let (year, t) ← fixed? 4 0 9999 t
  let t ← char? '-' t
  let (month, t) ← fixed? 2 1 12 t
  let t ← char? '-' t
  let (day, t) ← fixed? 2 1 31 t
  some (⟨year, month, day⟩, t)

/-- A point and digits, of which the first six count. -/
def microseconds (t : Text) : Nat × Text :=
  match t with
  | '.' :: rest =>
    match rest.takeWhile Char.isDigit with
    | [] => (0, t)
    | digits =>
      (Text.digitsValue 10 ((digits ++ List.replicate 6 '0').take 6), rest.dropWhile Char.isDigit)
  | _ => (0, t)

/-- Hours, minutes and seconds, with a fraction or without. -/
def time? (t : Text) : Option (Time × Text) := do
  let (hour, t) ← fixed? 2 0 23 t
  let t ← char? ':' t
  let (minute, t) ← fixed? 2 0 59 t
  let t ← char? ':' t
  let (second, t) ← fixed? 2 0 59 t
  let (fraction, t) := microseconds t
  some (⟨hour, minute, second, fraction⟩, t)

/-- The distance from universal time in minutes. -/
def offset? : Text → Option (Int × Text)
  | 'Z' :: rest => some (0, rest)
  | 'z' :: rest => some (0, rest)
  | sign :: rest =>
    if sign = '+' ∨ sign = '-' then do
      let (hours, t) ← fixed? 2 0 23 rest
      let t ← char? ':' t
      let (minutes, t) ← fixed? 2 0 59 t
      let distance : Int := hours * 60 + minutes
      some (if sign = '-' then -distance else distance, t)
    else none
  | [] => none

/-- A date, and the time and offset that follow it after a `T` or a space. -/
def readDate? (t : Text) : Option (Result (Value × Text)) := do
  let (date, rest) ← date? t
  let (value, rest) : Value × Text :=
    match rest with
    | separator :: timeText =>
      if separator = 'T' ∨ separator = 't' ∨ separator = ' ' then
        match time? timeText with
        | some (time, rest) =>
          match offset? rest with
          | some (offset, rest) => (.dateTime ⟨date, time, some offset⟩, rest)
          | none => (.dateTime ⟨date, time, none⟩, rest)
        | none => (.date date, rest)
      else (.date date, rest)
    | [] => (.date date, rest)
  some (if date.exists then .ok (value, rest) else stop .badDate t)

/-! ## Numbers -/

/-- An integer in base two, eight or sixteen, after a zero and the letter of its base. -/
def prefixed? : Text → Option (Int × Text)
  | '0' :: base :: rest => do
    let (radix, isDigit) ←
      if base = 'x' then some (16, Text.isHexDigit)
      else if base = 'o' then some (8, fun c => '0' ≤ c && c ≤ '7')
      else if base = 'b' then some (2, fun c => c = '0' || c = '1')
      else none
    let (digits, rest) ← digits? isDigit rest
    some (Text.digitsValue radix digits, rest)
  | _ => none

/-- A sign in front of a number: whether it is a minus, and what follows. -/
def sign : Text → Bool × Text
  | '+' :: rest => (false, rest)
  | '-' :: rest => (true, rest)
  | t => (false, t)

/-- The digits before the point: a zero alone, or a run that begins with another digit. -/
def wholePart? : Text → Option (Text × Text)
  | '0' :: rest => some (['0'], rest)
  | t => digits? Char.isDigit t

/-- The digits behind a point. -/
def fraction? : Text → Option (Text × Text)
  | '.' :: rest => digits? Char.isDigit rest
  | _ => none

/-- The exponent of ten. -/
def exponent? : Text → Option (Int × Text)
  | e :: rest => do
    guard (e = 'e' ∨ e = 'E')
    let (negative, rest) := sign rest
    let (digits, rest) ← digits? Char.isDigit rest
    let n : Int := Text.digitsValue 10 digits
    some (if negative then -n else n, rest)
  | [] => none

/-- A decimal integer, or a decimal if a fraction or an exponent follows. -/
def decimal? (t : Text) : Option (Result (Value × Text)) := do
  let (negative, rest) := sign t
  let (whole, rest) ← wholePart? rest
  let fraction := fraction? rest
  let rest := (fraction.map Prod.snd).getD rest
  let exponent := exponent? rest
  let rest := (exponent.map Prod.snd).getD rest
  if fraction.isNone && exponent.isNone then
    if whole.length ≤ maxIntegerDigits then
      let n : Int := Text.digitsValue 10 whole
      some (.ok (.integer (if negative then -n else n), rest))
    else some (.error (.excess (.digits whole.length)))
  else
    let places := (fraction.map Prod.fst).getD []
    let power := (exponent.map Prod.fst).getD 0
    some (.ok (.float (.decimal
      ⟨negative, Text.digitsValue 10 (whole ++ places), power - places.length⟩), rest))

/-- Infinity, or what is not a number, by name. -/
def named? (t : Text) : Option (Value × Text) :=
  let (negative, rest) := sign t
  match Text.after? "inf" rest with
  | some rest => some (.float (.infinite negative), rest)
  | none => (Text.after? "nan" rest).map fun rest => (.float .notANumber, rest)

/-- A truth value by name. -/
def boolean? (t : Text) : Option (Value × Text) :=
  match Text.after? "true" t with
  | some rest => some (.boolean true, rest)
  | none => (Text.after? "false" t).map fun rest => (.boolean false, rest)

/-- Reads a value that is neither a string nor a container. -/
def readScalar (t : Text) : Result (Value × Text) :=
  let attempt : Option (Result (Value × Text)) :=
    (boolean? t).map .ok
      <|> readDate? t
      <|> (time? t).map (fun (time, rest) => .ok (.time time, rest))
      <|> (prefixed? t).map (fun (n, rest) => .ok (.integer n, rest))
      <|> decimal? t
      <|> (named? t).map .ok
  attempt.getD (stop .badValue t)

end CrateSync.Toml
