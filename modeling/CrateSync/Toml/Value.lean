/-
# TOML values

The values of a TOML document.  A table keeps its entries in the order in which they were made,
and a decimal is kept exactly as written, so that no digit is lost before someone asks what the
number rounds to.
-/
import CrateSync.Text.Basic

namespace CrateSync.Toml

/-! ## Numbers and times -/

/-- A number with a fraction or an exponent: a sign, the digits without the point as a number, and
the power of ten that belongs to the last of them. -/
structure Decimal where
  negative : Bool
  digits : Nat
  exponent : Int
  deriving DecidableEq, Repr

/-- Whether a decimal rounds to zero in binary floating point of 64 bits.  The smallest positive
such number is `2 ^ -1074`, and half of it still rounds to zero.  The number of digits decides
unless the decimal lies between `10 ^ -324` and `10 ^ -323`. -/
def Decimal.roundsToZero (d : Decimal) : Bool :=
  if d.digits = 0 then true
  else
    let size := (Nat.toDigits 10 d.digits).length
    let magnitude := d.exponent + size
    if magnitude < -323 then true
    else if -323 < magnitude then false
    else d.digits * Nat.pow 2 1075 ≤ Nat.pow 10 (size + 323)

/-- A number written with a fraction, with an exponent or by name. -/
inductive Float where
  | decimal (d : Decimal)
  | infinite (negative : Bool)
  | notANumber
  deriving DecidableEq, Repr

/-- A day of the calendar. -/
structure Date where
  year : Nat
  month : Nat
  day : Nat
  deriving DecidableEq, Repr

/-- Whether a year has a 29th of February. -/
def isLeapYear (year : Nat) : Bool :=
  year % 4 = 0 && (year % 100 != 0 || year % 400 = 0)

/-- The number of days of a month. -/
def daysInMonth (year month : Nat) : Nat :=
  if month = 2 then (if isLeapYear year then 29 else 28)
  else if month = 4 ∨ month = 6 ∨ month = 9 ∨ month = 11 then 30
  else 31

/-- Whether a date exists; the year zero does not. -/
def Date.exists (d : Date) : Bool :=
  1 ≤ d.year && 1 ≤ d.month && d.month ≤ 12 && 1 ≤ d.day && d.day ≤ daysInMonth d.year d.month

/-- A time of day, to the microsecond. -/
structure Time where
  hour : Nat
  minute : Nat
  second : Nat
  microsecond : Nat
  deriving DecidableEq, Repr

/-- A date with a time; `offset` is the distance from universal time in minutes and is absent
for a local date and time. -/
structure DateTime where
  date : Date
  time : Time
  offset : Option Int
  deriving DecidableEq, Repr

/-! ## Values and tables -/

/-- A value of a document. -/
inductive Value where
  | string (t : Text)
  | integer (n : Int)
  | float (x : Float)
  | boolean (b : Bool)
  | date (d : Date)
  | time (t : Time)
  | dateTime (dt : DateTime)
  | array (items : List Value)
  | table (entries : List (Text × Value))
  deriving Repr

/-- The entries of a table in the order in which they were made. -/
abbrev Table := List (Text × Value)

/-- A dotted key, part by part. -/
abbrev Key := List Text

namespace Table

/-- The value that a table holds under a name. -/
def get? : Table → Text → Option Value
  | [], _ => none
  | (k, v) :: rest, name => if k = name then some v else get? rest name

/-- The table with the value under a name replaced, or added at the end if there is none. -/
def put : Table → Text → Value → Table
  | [], name, value => [(name, value)]
  | (k, v) :: rest, name, value =>
    if k = name then (k, value) :: rest else (k, v) :: put rest name value

theorem get?_put_self (t : Table) (name : Text) (v : Value) :
    (t.put name v).get? name = some v := by
  induction t with
  | nil => simp [put, get?]
  | cons e t ih =>
    obtain ⟨k, w⟩ := e
    by_cases h : k = name <;> simp [put, get?, h, ih]

theorem get?_put_ne (t : Table) {name other : Text} (v : Value) (h : other ≠ name) :
    (t.put name v).get? other = t.get? other := by
  induction t with
  | nil => simp [put, get?, Ne.symm h]
  | cons e t ih =>
    obtain ⟨k, w⟩ := e
    by_cases hk : k = name
    · subst hk
      simp [put, get?, Ne.symm h]
    · by_cases ho : k = other
      · subst ho
        simp [put, get?, h]
      · simp [put, get?, hk, ho, ih]

end Table

/-- Whether a value equals the truth value false: as a boolean, or as a number that is zero. -/
def Value.isFalse : Value → Bool
  | .boolean b => !b
  | .integer n => n == 0
  | .float (.decimal d) => d.roundsToZero
  | _ => false

/-- Whether a value is the given string. -/
def Value.isString (expected : Text) : Value → Bool
  | .string t => t == expected
  | _ => false

/-- Whether a value holds other values. -/
def Value.isContainer : Value → Bool
  | .array _ => true
  | .table _ => true
  | _ => false

end CrateSync.Toml
