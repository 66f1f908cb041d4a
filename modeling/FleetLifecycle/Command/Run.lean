import FleetLifecycle.Command.Arguments
import FleetLifecycle.Command.LogFilter
import FleetLifecycle.Command.Surroundings
import FleetLifecycle.Cycle.Evaluate
import FleetLifecycle.Dispatch.Journal
import FleetLifecycle.Inventory.Reading
import FleetLifecycle.Zone.WallClock

/-!
# The command — one evaluation cycle from arguments to exit code

1. `Machine`, all that the command sees of the machine it runs on;
2. `Failure`, what ends it before anything is written;
3. `Machine.settingsFor`, `Machine.instantFor` and `Machine.fleetFor`, its three inputs;
4. `Machine.carryOut`, a cycle with these inputs;
5. `Machine.run` and its `Ending`.
-/

namespace FleetLifecycle

/-- The surroundings of a run, with what may be different in the next one. -/
structure Machine extends Surroundings where
  clock : Instant
  /-- An id that no other cycle has. -/
  cycleId : CycleId
  /-- How many bytes standard output takes, if there is a bound. -/
  room : Option Nat
  /-- The order in which requests are carried out. -/
  schedule : List ActionRequest → List ActionRequest
  schedule_perm : ∀ requests, (schedule requests).Perm requests

/-- What ends the command before anything is written. -/
inductive Failure where
  | settings (path : String) (reason : SettingsError)
  | wallClock (text : String) (reason : WallClockError)
  | listing (path : String) (reason : InventoryError)
  deriving DecidableEq, Repr

namespace Failure

def message : Failure → String
  | .settings path _ => "Failed to load config from " ++ Text.quote path
  | .wallClock text _ => "Invalid --at value " ++ Text.quote text
  | .listing path _ => "Failed to list resources from " ++ Text.quote path

def cause : Failure → String
  | .settings _ reason => reason.message
  | .wallClock _ reason => reason.message
  | .listing path reason => (reason.toHostError path).message

end Failure

def commandName : String := "automanage"

structure CycleSummary where
  untagged : Nat
  actions : ActionCounts
  outcomes : Summary
  dryRun : Bool
  deriving DecidableEq, Repr

namespace CycleSummary

/-- The counts between braces, each after its quoted name. -/
def actionsShown (counts : ActionCounts) : String :=
  "\x7b" ++
    String.intercalate ", "
      (counts.map (fun c => Text.quote c.1 ++ ": " ++ String.ofList (Text.decimal c.2))) ++
    "\x7d"

def toJson (s : CycleSummary) : Json :=
  .object [("message", .string "Cycle complete"), ("untagged", .integer s.untagged),
    ("actions", .string (actionsShown s.actions)), ("executed", .integer s.outcomes.executed),
    ("skipped", .integer s.outcomes.skipped), ("failed", .integer s.outcomes.failed),
    ("dry_run", .bool s.dryRun)]

def logMessage : LogMessage :=
  ⟨commandName, .info,
    ["message", "cycle_id", "untagged", "actions", "executed", "skipped", "failed", "dry_run"]⟩

end CycleSummary

/-- What the command leaves behind. -/
structure Ending where
  exit : UInt8
  failure : Option Failure
  summary : Option CycleSummary
  /-- The log format, if the summary is shown. -/
  log : Option LogFormat
  output : List UInt8
  deriving DecidableEq, Repr

namespace Machine

/-- The settings: from the file that the arguments name, or from the usual file if there is one. -/
def settingsFor (m : Machine) (args : Arguments) : Except Failure Settings :=
  let load (path : String) : Except Failure Settings :=
    (m.loadSettings path).mapError (.settings path)
  match args.settings with
  | some path => load path
  | none =>
    -- the usual file may be missing, a file that was named may not
    if m.stands m.usualPath then load m.usualPath else .ok Settings.default

def instantFor (m : Machine) (args : Arguments) (s : Settings) : Except Failure Instant :=
  match args.wallClock with
  | some text => (m.library.readWallClock s.zone text).mapError (.wallClock text)
  | none => .ok m.clock

def fleetFor (m : Machine) (args : Arguments) : Except Failure (List Resource) :=
  (Inventory.load m.files args.inventory).mapError (.listing args.inventory)

def withDryRun (args : Arguments) (s : Settings) : Settings :=
  { s with dryRun := args.dryRun || s.dryRun }

/-- Evaluates the fleet and carries the requests out in the order that the machine chooses. -/
def carryOut (m : Machine) (s : Settings) (t : Instant) (fleet : List Resource) :
    CycleSummary × Journal :=
  let report := s.evaluateFleet m.cycleId fleet t
  let (outcomes, journal) :=
    (Journal.executor s.dryRun).dispatchList (m.schedule report.requests) (Journal.empty m.room)
  (⟨report.untagged, report.actionCounts, summarize outcomes, s.dryRun⟩, journal)

/-- One cycle, or what keeps it from being carried out. -/
def cycle (m : Machine) (args : Arguments) : Except Failure (CycleSummary × Journal) := do
  let s ← m.settingsFor args
  let s := withDryRun args s
  let t ← m.instantFor args s
  let fleet ← m.fleetFor args
  return m.carryOut s t fleet

def logFor (m : Machine) (args : Arguments) : Option LogFormat :=
  let filter := LogFilter.choose (m.env Arguments.filterVariable) args.logLevel
  if filter.shows CycleSummary.logMessage then some args.logFormat else none

/-- Runs the command: 0 for success, 1 for a failure or a request that failed, 2 for arguments
that are not understood. -/
def run (m : Machine) (args : List String) : Ending :=
  match Arguments.read m.env args with
  | .error .help => ⟨0, none, none, none, []⟩
  | .error .usage => ⟨2, none, none, none, []⟩
  | .ok args =>
    match m.cycle args with
    | .error f => ⟨1, some f, none, m.logFor args, []⟩
    | .ok (summary, journal) =>
      ⟨if 0 < summary.outcomes.failed then 1 else 0, none, some summary, m.logFor args,
        journal.bytes⟩

end Machine
end FleetLifecycle
