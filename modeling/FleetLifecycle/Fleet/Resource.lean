import FleetLifecycle.Calendar.Instant
import FleetLifecycle.Fleet.Class
import FleetLifecycle.Fleet.Tags

/-!
# Resources — the members of a fleet as their provider lists them

1. `ComputeInstance` and `DatabaseInstance`, the two classes in their own words, and `Resource`;
2. what a policy looks at, whatever the class: `id`, `displayName`, `runState`, `launchedAt`,
   `tags` and `capabilities`;
3. `Resource.runningFor`, how long a resource has been running.
-/

namespace FleetLifecycle

structure ComputeInstance where
  id : String
  state : String
  launchTime : Option Instant
  tags : Tags
  deriving DecidableEq

structure DatabaseInstance where
  identifier : String
  dbName : Option String
  status : String
  startedAt : Option Instant
  tags : Tags
  deriving DecidableEq

inductive Resource where
  | compute (machine : ComputeInstance)
  | database (db : DatabaseInstance)
  deriving DecidableEq

namespace Resource

/-- The tag that holds the name of a machine. -/
def nameTag : String := "Name"

def id : Resource → String
  | .compute m => m.id
  | .database d => d.identifier

def resourceClass : Resource → ResourceClass
  | .compute _ => .compute
  | .database _ => .database

def tags : Resource → Tags
  | .compute m => m.tags
  | .database d => d.tags

/-- A name that is given and not empty, or else the id. -/
def nameOr (id : String) : Option String → String
  | none => id
  | some name => if name = "" then id else name

/-- The name by which people know a resource. -/
def displayName : Resource → String
  | .compute m => nameOr m.id (m.tags.get? nameTag)
  | .database d => nameOr d.identifier d.dbName

/-- The text by which the provider says that a resource of a class runs. -/
def runningText : ResourceClass → String
  | .compute => "running"
  | .database => "available"

def stoppedText : String := "stopped"

/-- The run state that a provider's text stands for. -/
def readState (c : ResourceClass) (text : String) : RunState :=
  if text = runningText c then .running
  else if text = stoppedText then .stopped
  else .transitional text

def stateText : Resource → String
  | .compute m => m.state
  | .database d => d.status

def runState (r : Resource) : RunState :=
  readState r.resourceClass r.stateText

/-- When a resource last began to run, if that is known. -/
def launchedAt : Resource → Option Instant
  | .compute m => m.launchTime
  | .database d => d.startedAt

def capabilities (r : Resource) : Capabilities :=
  Capabilities.ofClass r.resourceClass

/-- How long a resource has been running; a start that lies ahead counts as now. -/
def runningFor (r : Resource) (now : Instant) : Option Elapsed :=
  if r.runState.isRunning then r.launchedAt.map now.since else none

end Resource
end FleetLifecycle
