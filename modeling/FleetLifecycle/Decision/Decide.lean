import FleetLifecycle.Decision.Basic
import FleetLifecycle.Fleet.Resource
import FleetLifecycle.Policy.Basic

/-!
# Deciding — from a policy and an observation to a decision

Deciding never fails: a malformed parameter, an unknown kind and a policy that the class does not
accept all become the action `error`.

1. `Observation`, what a decision depends on, and `Resource.observe`;
2. `isBeyondLimit`, more than a number of hours, exact to the millisecond;
3. `wantRunning` and `wantStopped`, the two wishes of pins and schedules;
4. `Policy.decide`.
-/

namespace FleetLifecycle

/-- What is known about a resource when its policy is applied. -/
structure Observation where
  runState : RunState
  /-- How long it has been running; nothing if it does not run. -/
  runningFor : Option Elapsed
  resourceClass : ResourceClass
  capabilities : Capabilities
  deriving DecidableEq, Repr

namespace Observation

def isRunning (o : Observation) : Bool :=
  o.runState.isRunning

def isStartable (o : Observation) : Bool :=
  !o.isRunning && o.runState.isStartable

end Observation

def Resource.observe (r : Resource) (now : Instant) : Observation where
  runState := r.runState
  runningFor := r.runningFor now
  resourceClass := r.resourceClass
  capabilities := r.capabilities

def hourMillis : Nat := 3600000

/-- More than `hours` hours, in whole milliseconds; a resource that does not run is never beyond a
limit. -/
def isBeyondLimit (runningFor : Option Elapsed) (hours : UInt32) : Bool :=
  match runningFor with
  | some elapsed => hours.toNat * hourMillis < elapsed.millis
  | none => false

namespace Decision

/-- The resource is wanted: start it if it stands still. -/
def wantRunning (o : Observation) (startReason : Reason) : Decision :=
  if o.isRunning then .none .alreadyRunning
  else if o.isStartable then ⟨.start, startReason⟩
  else .none (.notStartable o.runState.text)

/-- The resource is not wanted: stop it if it runs. -/
def wantStopped (o : Observation) (stopReason : Reason) : Decision :=
  if o.isRunning then ⟨.stop, stopReason⟩ else .none (.alreadyStopped o.runState.text)

def unsupported (p : Policy) (o : Observation) : Decision :=
  .error (.unsupportedForClass p.kind.token o.resourceClass)

/-- Takes an action once the resource has been running for more than `hours` hours. -/
def pastLimit (o : Observation) (hours : UInt32) (action : Action) : Decision :=
  if isBeyondLimit o.runningFor hours then
    ⟨action, .limitExceeded ((o.runningFor.map (·.secs)).getD 0) hours⟩
  else .none (.withinLimit hours)

/-- What a policy that stops or terminates after some hours asks for. -/
def ofLimit (action : Action) (p : Policy) (o : Observation) : Except ParameterError Decision :=
  if o.capabilities.runtimeLimits then do
    let hours ← p.number 0 "hour limit"
    return pastLimit o hours action
  else .ok (unsupported p o)

/-- What a policy that notifies somebody after some hours asks for. -/
def ofNotification (p : Policy) (o : Observation) : Except ParameterError Decision :=
  if o.capabilities.notification then do
    let hours ← p.number 0 "hour limit"
    let recipient ← p.text 1 "notify address"
    return pastLimit o hours (.email recipient)
  else .ok (unsupported p o)

def ofWindow (s : Schedule) (w : Window) (target : Option Weekday) (o : Observation)
    (now : LocalHour) : Decision :=
  if w.isEmpty then
    if o.isRunning then ⟨.stop, .emptyWindow now.hour⟩ else .none (.emptyWindow now.hour)
  else if s.isOpen w target now then wantRunning o (.windowOpen now.hour)
  else wantStopped o (.windowClosed now.hour)

/-- The day that a schedule names; only a weekly one does. -/
def targetOf (s : Schedule) (p : Policy) : Except ParameterError (Option Weekday) :=
  match s with
  | .weekly => (p.weekday 2 "target day").map some
  | .daily | .workdays => .ok Option.none

def ofSchedule (s : Schedule) (p : Policy) (o : Observation) (now : LocalHour) :
    Except ParameterError Decision := do
  let onHour ← p.hour 0 "on hour"
  let offHour ← p.hour 1 "off hour"
  let target ← targetOf s p
  return ofWindow s ⟨onHour, offHour⟩ target o now

/-- What a policy asks for, or the first parameter that keeps it from asking. -/
def ofPolicy (p : Policy) (o : Observation) (now : LocalHour) : Except ParameterError Decision :=
  match p.kind with
  | .none => .ok (.none .noPolicy)
  | .limitStop => ofLimit .stop p o
  | .limitTerminate => ofLimit .terminate p o
  | .limitEmail => ofNotification p o
  | .scheduled s => ofSchedule s p o now
  | .alwaysOn => .ok (wantRunning o .pinnedOn)
  | .alwaysOff => .ok (wantStopped o .pinnedOff)
  | .unknown token => .ok (.error (.unknownKind token))

end Decision

def Policy.decide (p : Policy) (o : Observation) (now : LocalHour) : Decision :=
  match Decision.ofPolicy p o now with
  | .ok d => d
  | .error e => .error (.invalidPolicy e.message)

end FleetLifecycle
