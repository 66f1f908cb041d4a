import FleetLifecycle.Calendar.Weekday

/-!
# Dates — the Gregorian calendar as a count of days

Dates are proleptic: the calendar's rules hold for every year, the year 0 and negative years
included.

1. `Date`, `isLeapYear`, `daysInMonth` and `Date.isValid`;
2. `Date.dayNumber`, days since 1970-01-01, and `Date.ofDayNumber`;
3. `weekdayOf`, the day of the week of a day number;
4. `firstYear`, `lastYear`, `firstDay` and `lastDay`, the span of days that instants have.

A cycle of 400 years has 146097 days.  Counting years from March puts the leap day last, so the
months before a day of the year follow from one division.
-/

namespace FleetLifecycle

/-- A leap year: divisible by four, but by a hundred only if by four hundred. -/
def isLeapYear (year : Int) : Bool :=
  year % 4 = 0 && (year % 100 ≠ 0 || year % 400 = 0)

def daysInMonth (year : Int) (month : Nat) : Nat :=
  if month = 2 then (if isLeapYear year then 29 else 28)
  else if month = 4 || month = 6 || month = 9 || month = 11 then 30
  else 31

structure Date where
  year : Int
  month : Nat
  day : Nat
  deriving DecidableEq, Repr

namespace Date

def isValid (d : Date) : Bool :=
  1 ≤ d.month && d.month ≤ 12 && 1 ≤ d.day && d.day ≤ daysInMonth d.year d.month

/-- Days since 1970-01-01. -/
def dayNumber (d : Date) : Int :=
  -- January and February count to the year before
  let year := if d.month ≤ 2 then d.year - 1 else d.year
  let era := year / 400
  let yearOfEra := year % 400
  let monthFromMarch : Int := ((d.month + 9) % 12 : Nat)
  let dayOfYear := (153 * monthFromMarch + 2) / 5 + d.day - 1
  let dayOfEra := yearOfEra * 365 + yearOfEra / 4 - yearOfEra / 100 + dayOfYear
  -- 719468 days lie between 0000-03-01 and 1970-01-01
  era * 146097 + dayOfEra - 719468

def ofDayNumber (n : Int) : Date :=
  let shifted := n + 719468
  let era := shifted / 146097
  let dayOfEra := shifted % 146097
  -- without the leap days before it, a day of an era has a year of 365 days
  let yearOfEra := (dayOfEra - dayOfEra / 1460 + dayOfEra / 36524 - dayOfEra / 146096) / 365
  let dayOfYear := dayOfEra - (365 * yearOfEra + yearOfEra / 4 - yearOfEra / 100)
  let monthFromMarch := (5 * dayOfYear + 2) / 153
  let day := dayOfYear - (153 * monthFromMarch + 2) / 5 + 1
  let month := if monthFromMarch < 10 then monthFromMarch + 3 else monthFromMarch - 9
  let year := yearOfEra + era * 400
  ⟨if month ≤ 2 then year + 1 else year, month.toNat, day.toNat⟩

end Date

/-- The day of the week of a day number; 1970-01-01 was a Thursday. -/
def weekdayOf (n : Int) : Weekday :=
  (Weekday.ofIndex? ((n + 4) % 7).toNat).getD .sunday

def firstYear : Int := -262143

def lastYear : Int := 262142

def firstDay : Int := Date.dayNumber ⟨firstYear, 1, 1⟩

def lastDay : Int := Date.dayNumber ⟨lastYear, 12, 31⟩

end FleetLifecycle
