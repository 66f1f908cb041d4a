import FleetLifecycle.Calendar.LocalTime
import FleetLifecycle.Zone.Basic

/-!
# Zone libraries — the zones that are known, and the way back from local times

A local time belongs to one instant, to none where clocks are put forward, or to several where they
are set back.  Which offsets it may have is asked of a library.

1. `LocalOffset`, what a library says of a local time;
2. `ZoneLibrary`, and `ZoneLibrary.earliest?`, the instant that is taken for a local time;
3. `Zone.localOffset`, an answer found by looking at all periods of a zone.
-/

namespace FleetLifecycle

/-- The offset from UTC that clocks have when they show a local time. -/
inductive LocalOffset where
  | none
  | single (offset : Int)
  | ambiguous (earliest latest : Int)
  deriving DecidableEq, Repr

/-- The zones of a program, and the way back from local times. -/
structure ZoneLibrary where
  zones : List Zone
  /-- What is known of clocks in a zone that have run for some seconds since their midnight of
  1970-01-01. -/
  localOffset : Zone → Int → LocalOffset

namespace ZoneLibrary

/-- The earliest instant at which clocks in a zone show a local time. -/
def earliest? (library : ZoneLibrary) (z : Zone) (shown : LocalTime) : Option Instant :=
  let (seconds, nanos) := shown.seconds
  match library.localOffset z seconds with
  | .none => none
  | .single offset => Instant.of? (seconds - offset) nanos
  | .ambiguous earliest latest =>
    -- the earliest does not count unless the latest is an instant as well
    match Instant.of? (seconds - earliest) nanos, Instant.of? (seconds - latest) nanos with
    | some t, some _ => some t
    | _, _ => none

end ZoneLibrary

/-- The offsets of the first and the last second at which clocks show a local time. -/
def Zone.localOffset (z : Zone) (seconds : Int) : LocalOffset :=
  match z.instantsOf seconds with
  | [] => .none
  | [second] => .single (seconds - second)
  | second :: later => .ambiguous (seconds - second) (seconds - later.getLastD second)

end FleetLifecycle
