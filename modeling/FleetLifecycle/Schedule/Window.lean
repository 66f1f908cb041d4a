import FleetLifecycle.Calendar.Weekday

/-!
# Schedule windows — the hours of the week a resource is wanted

A schedule names an hour to switch on and an hour to switch off.  When the first is later than the
second the window runs past midnight, and its hours after midnight belong to the day it opened on.

1. `LocalHour`, an hour of the day and a day of the week;
2. `Window`, the two hours, and `Window.containsHour`, membership without regard to days;
3. `Schedule`, the days a window opens on, and `Schedule.isOpen`, membership in the week.

Hours are compared as numbers, so the definitions also hold for hours beyond 23.
-/

namespace FleetLifecycle

structure LocalHour where
  hour : UInt8
  day : Weekday
  deriving DecidableEq, Repr

/-- The local hour, if the hour is one of a clock. -/
def LocalHour.of? (hour : UInt8) (day : Weekday) : Option LocalHour :=
  if hour < 24 then some ⟨hour, day⟩ else none

/-- The hour from which a resource is wanted and the hour from which it no longer is. -/
structure Window where
  onHour : UInt8
  offHour : UInt8
  deriving DecidableEq, Repr

namespace Window

/-- The window runs past midnight. -/
def wraps (w : Window) : Bool :=
  w.offHour < w.onHour

/-- The window opens and closes at one hour, so it is never open. -/
def isEmpty (w : Window) : Bool :=
  w.onHour = w.offHour

def containsHour (w : Window) (hour : UInt8) : Bool :=
  if w.isEmpty then false
  else if w.wraps then !(decide (w.offHour ≤ hour) && decide (hour < w.onHour))
  else decide (w.onHour ≤ hour) && decide (hour < w.offHour)

end Window

/-- The days on which a schedule's window opens. -/
inductive Schedule where
  | daily
  /-- Monday to Friday. -/
  | workdays
  | weekly
  deriving DecidableEq, Repr

namespace Schedule

/-- Whether the window of a schedule is open.  `target` is the day of a weekly schedule, which is
never open without one. -/
def isOpen (s : Schedule) (w : Window) (target : Option Weekday) (now : LocalHour) : Bool :=
  if w.isEmpty then false
  else if w.wraps then
    match s with
    | .daily => w.containsHour now.hour
    | .workdays =>
      match now.day with
      -- the window of Sunday night does not open
      | .monday => w.onHour ≤ now.hour
      | .tuesday | .wednesday | .thursday | .friday => w.containsHour now.hour
      -- the last hours of Friday night
      | .saturday => now.hour < w.offHour
      | .sunday => false
    | .weekly =>
      match target with
      | some d =>
        (decide (now.day = d) && decide (w.onHour ≤ now.hour)) ||
          (decide (now.day = d.next) && decide (now.hour < w.offHour))
      | none => false
  else
    match s with
    | .daily => w.containsHour now.hour
    | .workdays => w.containsHour now.hour && now.day.isWorkday
    | .weekly => w.containsHour now.hour && decide (target = some now.day)

end Schedule
end FleetLifecycle
