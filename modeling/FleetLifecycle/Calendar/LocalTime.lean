import FleetLifecycle.Calendar.Instant

/-!
# Local times — what a calendar and a clock on the wall show

1. `LocalTime`, date, hour, minute, second (60 in a leap second) and nanoseconds;
2. `LocalTime.ofSeconds`, what is shown that many seconds after midnight of 1970-01-01;
3. `LocalTime.seconds`, the way back;
4. the written forms: `full`, `minuteStamp`, and `Instant.rfc3339`.
-/

namespace FleetLifecycle

/-- What a calendar and a clock show. -/
structure LocalTime where
  date : Date
  hour : Nat
  minute : Nat
  /-- The second of the minute, 60 within a leap second. -/
  second : Nat
  nanos : Nat
  deriving DecidableEq, Repr

namespace LocalTime

/-- What is shown `seconds` after the midnight that began 1970-01-01 on the same wall. -/
def ofSeconds (seconds : Int) (nanos : Nat) : LocalTime :=
  let ofDay := (seconds % daySeconds).toNat
  let leap := secondNanos ≤ nanos
  { date := Date.ofDayNumber (seconds / daySeconds)
    hour := ofDay / 3600
    minute := ofDay / 60 % 60
    second := ofDay % 60 + (if leap then 1 else 0)
    nanos := if leap then nanos - secondNanos else nanos }

/-- Seconds and nanoseconds since the midnight that began 1970-01-01 on the same wall; a second 60
is the second 59 with its nanoseconds running on. -/
def seconds (t : LocalTime) : Int × Nat :=
  let leap := t.second = 60
  let second : Nat := if leap then 59 else t.second
  (t.date.dayNumber * daySeconds + (t.hour * 3600 + t.minute * 60 + second : Nat),
    if leap then t.nanos + secondNanos else t.nanos)

def weekday (t : LocalTime) : Weekday := weekdayOf t.date.dayNumber

/-! ## Written forms -/

/-- A year in at least four digits, with a sign outside 0 to 9999. -/
def yearDigits (year : Int) : List Char :=
  if year < 0 then '-' :: Text.padded 4 year.natAbs
  else if 9999 < year then '+' :: Text.padded 4 year.natAbs
  else Text.padded 4 year.natAbs

def dateDigits (t : LocalTime) : List Char :=
  yearDigits t.date.year ++ '-' :: Text.padded 2 t.date.month ++ '-' :: Text.padded 2 t.date.day

/-- The time of day to the second, its parts joined by colons. -/
def clockDigits (t : LocalTime) : List Char :=
  Text.padded 2 t.hour ++ ':' :: Text.padded 2 t.minute ++ ':' :: Text.padded 2 t.second

def full (t : LocalTime) : String :=
  String.ofList (t.dateDigits ++ ' ' :: t.clockDigits)

/-- Date, hour and minute, joined by hyphens. -/
def minuteStamp (t : LocalTime) : String :=
  String.ofList
    (t.dateDigits ++ '-' :: Text.padded 2 t.hour ++ '-' :: Text.padded 2 t.minute)

/-- Nanoseconds as a fraction of 0, 3, 6 or 9 digits, the fewest that are exact. -/
def fractionDigits (nanos : Nat) : List Char :=
  if nanos = 0 then []
  else if nanos % 1000000 = 0 then '.' :: Text.padded 3 (nanos / 1000000)
  else if nanos % 1000 = 0 then '.' :: Text.padded 6 (nanos / 1000)
  else '.' :: Text.padded 9 nanos

end LocalTime

namespace Instant

def utc (t : Instant) : LocalTime := LocalTime.ofSeconds t.seconds t.nanos

def rfc3339 (t : Instant) : String :=
  let shown := t.utc
  String.ofList
    (shown.dateDigits ++ 'T' :: shown.clockDigits ++ LocalTime.fractionDigits shown.nanos ++ ['Z'])

end Instant
end FleetLifecycle
