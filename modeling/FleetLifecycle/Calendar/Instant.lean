import FleetLifecycle.Calendar.Date

/-!
# Instants — points in time with leap seconds, and the time between them

An instant is a count of seconds of days of 86400 seconds, and nanoseconds.  During an inserted
leap second the count stands still and the nanoseconds run on past a second.  They may do so in any
second: clocks on which a leap second ends a minute need not be whole minutes from UTC.

1. `Instant`, in the span of years that dates have, and `Instant.of?`;
2. `Instant.elapsed`, seconds and nanoseconds from an instant to a later one: a leap second within
   a day is counted when it lies between the two times of day;
3. `Elapsed`, a length of time that is not negative, and `Instant.since`.
-/

namespace FleetLifecycle

def daySeconds : Int := 86400

def secondNanos : Nat := 1000000000

/-- Seconds and nanoseconds that an instant may have: a day in the span of dates, and less than two
seconds. -/
def Instant.Fits (seconds : Int) (nanos : Nat) : Prop :=
  firstDay * daySeconds ≤ seconds ∧ seconds < (lastDay + 1) * daySeconds ∧
    nanos < 2 * secondNanos

instance (seconds : Int) (nanos : Nat) : Decidable (Instant.Fits seconds nanos) := by
  unfold Instant.Fits; infer_instance

structure Instant where
  /-- Seconds since 1970-01-01T00:00:00Z, leap seconds not counted. -/
  seconds : Int
  /-- Nanoseconds into the second, a second or more within a leap second. -/
  nanos : Nat
  fits : Instant.Fits seconds nanos
  deriving DecidableEq

namespace Instant

/-- The instant of the given seconds and nanoseconds, if there is one. -/
def of? (seconds : Int) (nanos : Nat) : Option Instant :=
  if h : Fits seconds nanos then some ⟨seconds, nanos, h⟩ else none

/-- The number of the day an instant lies on, at longitude zero. -/
def dayNumber (t : Instant) : Int := t.seconds / daySeconds

def secondOfDay (t : Instant) : Int := t.seconds % daySeconds

def le (t u : Instant) : Prop :=
  t.seconds < u.seconds ∨ (t.seconds = u.seconds ∧ t.nanos ≤ u.nanos)

instance : LE Instant := ⟨le⟩

/-- Nanoseconds from `start` to `t`, negative if `t` is earlier. -/
def elapsed (t start : Instant) : Int :=
  let days := t.dayNumber - start.dayNumber
  let seconds := t.secondOfDay - start.secondOfDay
  -- a leap second counts once the later time of day has passed it
  let leap : Int :=
    if start.secondOfDay < t.secondOfDay ∧ secondNanos ≤ start.nanos then 1
    else if t.secondOfDay < start.secondOfDay ∧ secondNanos ≤ t.nanos then -1
    else 0
  (days * daySeconds + seconds + leap) * secondNanos + ((t.nanos : Int) - (start.nanos : Int))

end Instant

/-- A length of time that is not negative. -/
structure Elapsed where
  secs : UInt64
  /-- Nanoseconds beyond the seconds. -/
  nanos : UInt32
  nanos_lt : nanos.toNat < secondNanos
  deriving DecidableEq, Repr

namespace Elapsed

def zero : Elapsed := ⟨0, 0, by decide⟩

def ofNanos (nanos : Nat) : Elapsed where
  secs := UInt64.ofNat (nanos / secondNanos)
  nanos := UInt32.ofNat (nanos % secondNanos)
  nanos_lt := by
    rw [UInt32.toNat_ofNat']
    exact Nat.lt_of_le_of_lt (Nat.mod_le _ _) (Nat.mod_lt _ (by decide))

def millis (d : Elapsed) : Nat :=
  d.secs.toNat * 1000 + d.nanos.toNat / 1000000

end Elapsed

/-- The time from `start` to `t`; none has passed if `start` lies ahead. -/
def Instant.since (t start : Instant) : Elapsed :=
  let nanos := t.elapsed start
  if nanos < 0 then Elapsed.zero else Elapsed.ofNanos nanos.toNat

end FleetLifecycle
