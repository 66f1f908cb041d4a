import FleetLifecycle.Calendar.LocalTime

/-!
# Time zones — offsets from UTC and how they change

A zone is an offset and the changes after which another offset holds.

1. `Zone` and `Zone.offsetAt`, the offset at an instant;
2. `Zone.localTime`, what a wall clock in the zone shows at an instant;
3. `Zone.periods`, the stretches of time with one offset each, and `Zone.instantsOf`, every count
   of seconds at which the wall clock shows a given local time, in ascending order: none in a gap,
   two in a fold.
-/

namespace FleetLifecycle

/-- From the second `time` on, the offset is `offset` seconds east of UTC. -/
structure Change where
  time : Int
  offset : Int
  deriving DecidableEq, Repr

/-- A time zone: its name, the offset before the first change, and the changes in order. -/
structure Zone where
  name : String
  first : Int
  changes : List Change
  deriving DecidableEq, Repr

/-- A stretch of time with one offset; it has no start or no end if that bound is missing. -/
structure Period where
  start : Option Int
  stop : Option Int
  offset : Int
  deriving DecidableEq, Repr

namespace Period

def contains (p : Period) (second : Int) : Bool :=
  p.start.all (· ≤ second) && p.stop.all (second < ·)

end Period

namespace Zone

/-- The offset at a second, given the one before the remaining changes. -/
def offsetFrom (offset : Int) (changes : List Change) (second : Int) : Int :=
  match changes with
  | [] => offset
  | c :: rest => if c.time ≤ second then offsetFrom c.offset rest second else offset

def offsetAt (z : Zone) (second : Int) : Int :=
  offsetFrom z.first z.changes second

def localTime (z : Zone) (t : Instant) : LocalTime :=
  LocalTime.ofSeconds (t.seconds + z.offsetAt t.seconds) t.nanos

def periodsFrom (start : Option Int) (offset : Int) : List Change → List Period
  | [] => [⟨start, none, offset⟩]
  | c :: rest => ⟨start, some c.time, offset⟩ :: periodsFrom (some c.time) c.offset rest

def periods (z : Zone) : List Period :=
  periodsFrom none z.first z.changes

/-- The seconds at which the wall clock has run `seconds` since its midnight of 1970-01-01, in
ascending order. -/
def instantsOf (z : Zone) (seconds : Int) : List Int :=
  z.periods.filterMap fun p =>
    let second := seconds - p.offset
    if p.contains second then some second else none

end Zone
end FleetLifecycle
