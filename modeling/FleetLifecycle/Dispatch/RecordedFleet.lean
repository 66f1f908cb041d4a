import FleetLifecycle.Cycle.Evaluate
import FleetLifecycle.Dispatch.Basic

/-!
# Recorded fleets — a fleet that keeps a log of what it is asked

A recorded fleet lists fixed resources and writes down each call.  Listing, and all calls, can be
made to fail; a call that fails is not written down.

1. `FleetCall` and `RecordedFleet`;
2. `RecordedFleet.list` and `RecordedFleet.executor`;
3. `FleetStep`, `FleetAnswer` and `RecordedFleet.step`, one thing that is done with the fleet;
4. `RecordedFleet.run`, several of them.
-/

namespace FleetLifecycle

/-- A call that was answered. -/
inductive FleetCall where
  | start (id : String)
  | stop (id : String) (snapshotId : Option String)
  | terminate (id : String)
  | notify (id : String) (recipient : String)
  deriving DecidableEq, Repr

structure RecordedFleet where
  resources : List Resource
  calls : List FleetCall
  failListing : Bool
  failActions : Bool
  deriving DecidableEq

namespace RecordedFleet

/-- A fleet that has not been asked anything. -/
def ofList (resources : List Resource) : RecordedFleet := ⟨resources, [], false, false⟩

/-- Why a fleet fails that was made to. -/
def failure : String := "mock failure"

def list (fleet : RecordedFleet) : Except HostError (List Resource) :=
  if fleet.failListing then .error (.listFailed failure) else .ok fleet.resources

/-- Writes a call down, unless calls fail. -/
def record (call : FleetCall) : Call RecordedFleet := fun fleet =>
  if fleet.failActions then (.error (.internal failure), fleet)
  else (.ok (), { fleet with calls := fleet.calls ++ [call] })

/-- Carries out requests by writing them down. -/
def executor : Executor RecordedFleet where
  start r := record (.start r.resourceId)
  stop r := record (.stop r.resourceId r.snapshotId)
  terminate r := record (.terminate r.resourceId)
  notify r m := record (.notify r.resourceId m.recipient)

end RecordedFleet

inductive FleetStep where
  | failListing (value : Bool)
  | failActions (value : Bool)
  | list
  /-- A whole cycle: list, evaluate, dispatch. -/
  | cycle (id : CycleId) (t : Instant)
  | dispatch (r : ActionRequest)

inductive FleetAnswer where
  | done
  | listed (answer : Except HostError (List Resource))
  /-- The report of a cycle, and the outcome of each of its requests. -/
  | cycled (answer : Except HostError (Report × List Outcome))
  | dispatched (outcome : Outcome)

namespace RecordedFleet

/-- Lists the fleet, evaluates it and dispatches each request in order. -/
def cycle (s : Settings) (id : CycleId) (t : Instant) (fleet : RecordedFleet) :
    Except HostError (Report × List Outcome) × RecordedFleet :=
  match fleet.list with
  | .error e => (.error e, fleet)
  | .ok resources =>
    let report := s.evaluateFleet id resources t
    let (outcomes, fleet) := executor.dispatchList report.requests fleet
    (.ok (report, outcomes), fleet)

def step (s : Settings) (fleet : RecordedFleet) : FleetStep → FleetAnswer × RecordedFleet
  | .failListing value => (.done, { fleet with failListing := value })
  | .failActions value => (.done, { fleet with failActions := value })
  | .list => (.listed fleet.list, fleet)
  | .cycle id t =>
    let (answer, fleet) := fleet.cycle s id t
    (.cycled answer, fleet)
  | .dispatch r =>
    let (outcome, fleet) := executor.dispatch r fleet
    (.dispatched outcome, fleet)

def run (s : Settings) (fleet : RecordedFleet) : List FleetStep → List FleetAnswer × RecordedFleet
  | [] => ([], fleet)
  | x :: xs =>
    let (answer, fleet) := fleet.step s x
    let (answers, fleet) := fleet.run s xs
    (answer :: answers, fleet)

end RecordedFleet
end FleetLifecycle
