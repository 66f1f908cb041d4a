import FleetLifecycle.Decision.Decide
import FleetLifecycle.Request.Notification
import FleetLifecycle.Settings.Basic

/-!
# Evaluation cycles — from a fleet to requests

A cycle looks at every resource as of one instant.  A resource without a policy tag is passed
over; every other one gives one request.

1. `Cycle`, an instant and what clocks in the configured zone show then;
2. `Settings.decide`, the decision about a resource, past the gate;
3. `Settings.evaluate`, the request for one resource;
4. `Report` and `Settings.evaluateFleet`.
-/

namespace FleetLifecycle

structure Cycle where
  id : CycleId
  instant : Instant
  /-- What clocks in the configured zone show. -/
  shown : LocalTime
  deriving DecidableEq

namespace Cycle

def now (c : Cycle) : LocalHour :=
  ⟨UInt8.ofNat c.shown.hour, c.shown.weekday⟩

end Cycle

/-- The name of the snapshot of a resource that stops while clocks show the given time. -/
def snapshotName (resourceId : String) (shown : LocalTime) : String :=
  resourceId ++ "-lifecycle-" ++ shown.minuteStamp

/-- How many requests ask for each action, by the word for the action. -/
abbrev ActionCounts : Type := List (String × Nat)

structure Report where
  cycleId : CycleId
  evaluatedAt : Instant
  requests : List ActionRequest
  untagged : Nat
  deriving DecidableEq

namespace Report

/-- The counts with one more under a name; names ascend. -/
def countOne (counts : ActionCounts) (name : String) : ActionCounts :=
  Entries.insert name ((Entries.find? name counts).getD 0 + 1) counts

/-- How many requests ask for each action that is asked for, names ascending. -/
def actionCounts (r : Report) : ActionCounts :=
  (r.requests.map (·.action.name)).foldl countOne []

/-- The requests that have to be carried out. -/
def sideEffects (r : Report) : List ActionRequest :=
  r.requests.filter (·.action.hasSideEffect)

end Report

namespace Settings

def beginCycle (s : Settings) (id : CycleId) (t : Instant) : Cycle where
  id := id
  instant := t
  shown := s.zone.localTime t

/-- The decision about a resource with a policy, once the gate has seen it. -/
def decide (s : Settings) (r : Resource) (p : Policy) (c : Cycle) : Decision :=
  s.gate.apply r.tags (p.decide (r.observe c.instant) c.now)

/-- The name of the snapshot that goes with an action: only a stop has one, if snapshots are
enabled and the resource can be saved. -/
def snapshotFor (s : Settings) (r : Resource) (c : Cycle) (a : Action) : Option String :=
  match a with
  | .stop =>
    if s.snapshotOnStop && r.capabilities.snapshotOnStop then some (snapshotName r.id c.shown)
    else none
  | _ => none

def emailFor (s : Settings) (r : Resource) (p : Policy) (a : Action) : Option EmailMessage :=
  match a with
  | .email recipient => some (EmailMessage.compose s.sender recipient r p)
  | _ => none

def request (s : Settings) (r : Resource) (p : Policy) (c : Cycle) : ActionRequest :=
  -- snapshot and notification go with the action past the gate
  let d := s.decide r p c
  { cycleId := c.id
    resourceId := r.id
    resourceName := r.displayName
    resourceClass := r.resourceClass
    policy := p.raw
    action := d.action
    reason := d.reason
    snapshotId := s.snapshotFor r c d.action
    email := s.emailFor r p d.action
    evaluatedAt := c.instant }

/-- The request for a resource; one without a policy tag gives none. -/
def evaluate (s : Settings) (r : Resource) (c : Cycle) : Option ActionRequest :=
  (r.tags.get? s.policyTag).map (fun tag => s.request r (Policy.parse tag) c)

def evaluateFleet (s : Settings) (id : CycleId) (fleet : List Resource) (t : Instant) : Report :=
  let c := s.beginCycle id t
  { cycleId := id
    evaluatedAt := t
    requests := fleet.filterMap (fun r => s.evaluate r c)
    untagged := fleet.countP (fun r => (r.tags.get? s.policyTag).isNone) }

end Settings
end FleetLifecycle
