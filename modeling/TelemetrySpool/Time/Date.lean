/-!
# Calendar dates

Days are counted from 1 January 1970 in the Gregorian calendar extended to all years. A year is
taken to begin in March, so that the leap day is its last day: centuries, four-year spans, years
and days are then the digits of a day count in mixed radix, and dates are ordered as their counts.
-/

namespace TelemetrySpool

/-- A day of the Gregorian calendar. -/
structure Date where
  /-- The year; year 0 precedes year 1. -/
  year : Int
  /-- The month, 1 to 12. -/
  month : Nat
  /-- The day of the month, from 1. -/
  day : Nat
  deriving DecidableEq, Repr

namespace Date

/-- Days from 1 March of year 0 to 1 January 1970. -/
def epochOffset : Int := 719468

/-- Days in four hundred years. -/
def daysPerEra : Nat := 146097

/-- The year within its era of four hundred, and the day of that year, for a day of the era. -/
def yearAndDay (dayOfEra : Nat) : Nat × Nat :=
  let century := min (dayOfEra / 36524) 3
  let dayOfCentury := dayOfEra - 36524 * century
  let span := dayOfCentury / 1461
  let dayOfSpan := dayOfCentury - 1461 * span
  let year := min (dayOfSpan / 365) 3
  (100 * century + 4 * span + year, dayOfSpan - 365 * year)

/-- The month counted from March, and the day counted from 0, for a day of the year. -/
def monthAndDay (dayOfYear : Nat) : Nat × Nat :=
  let month := (5 * dayOfYear + 2) / 153
  (month, dayOfYear - (153 * month + 2) / 5)

/-- The date that lies `days` days after 1 January 1970. -/
def ofDays (days : Int) : Date :=
  let shifted := days + epochOffset
  let era := shifted / (daysPerEra : Int)
  let (yearOfEra, dayOfYear) := yearAndDay (shifted % (daysPerEra : Int)).toNat
  let (month, day) := monthAndDay dayOfYear
  let marchYear := (yearOfEra : Int) + 400 * era
  if month < 10 then ⟨marchYear, month + 3, day + 1⟩ else ⟨marchYear + 1, month - 9, day + 1⟩

end Date

end TelemetrySpool
