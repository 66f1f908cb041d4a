import FleetLifecycle.Calendar.Reading
import FleetLifecycle.Zone.Library

/-!
# Wall-clock times — the instant that a clock in a zone names

A text `YYYY-MM-DD HH:MM:SS` names the earliest instant at which clocks in a zone show it.  Where
clocks are put forward, some times are never shown.

1. `WallClockError`, with its wording;
2. `ZoneLibrary.readWallClock`.
-/

namespace FleetLifecycle

inductive WallClockError where
  /-- The text is no date and time. -/
  | malformed (text : String) (reason : TimeTextError)
  /-- Clocks in the zone never show the time. -/
  | neverShown (text : String)
  deriving DecidableEq, Repr

namespace WallClockError

def message : WallClockError → String
  | .malformed text reason =>
    "Invalid time: '" ++ text ++ "' does not match %Y-%m-%d %H:%M:%S: " ++ reason.message
  | .neverShown text =>
    "Invalid time: '" ++ text ++ "' does not exist in the configured timezone"

end WallClockError

/-- The earliest instant at which clocks in a zone show the time in a text. -/
def ZoneLibrary.readWallClock (library : ZoneLibrary) (z : Zone) (text : String) :
    Except WallClockError Instant :=
  match LocalTime.read text with
  | .error reason => .error (.malformed text reason)
  | .ok shown =>
    match library.earliest? z shown with
    | some t => .ok t
    | none => .error (.neverShown text)

end FleetLifecycle
