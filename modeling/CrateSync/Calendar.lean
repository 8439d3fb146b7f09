/-
# The calendar

The year of a moment that is given in seconds since the beginning of 1970, in universal time.
-/

namespace CrateSync.Calendar

/-- The days from the first of March of the year zero to the first of January 1970. -/
def daysToEpoch : Int := 719468

/-- The days of a cycle of four hundred years. -/
def daysOfCycle : Int := 146097

/-- The year to which a day belongs, counted from the beginning of 1970.  Years are taken to begin
in March, so that a leap day comes last, and the cycle of four hundred years is cut into years by
the leap days that it has had so far. -/
def yearOfDay (day : Int) : Int :=
  let z := day + daysToEpoch
  let cycle := z.fdiv daysOfCycle
  let dayOfCycle := z.fmod daysOfCycle
  let yearOfCycle :=
    (dayOfCycle - dayOfCycle / 1460 + dayOfCycle / 36524 - dayOfCycle / 146096) / 365
  let dayOfYear := dayOfCycle - (365 * yearOfCycle + yearOfCycle / 4 - yearOfCycle / 100)
  let afterNewYear : Int := if 306 ≤ dayOfYear then 1 else 0
  cycle * 400 + yearOfCycle + afterNewYear

/-- The year of a moment. -/
def yearOfSecond (second : Int) : Int :=
  yearOfDay (second.fdiv 86400)

end CrateSync.Calendar
