/-!
# Resource classes — what kinds of resource there are and what they can do

1. `ResourceClass`, compute instances and databases;
2. `Capabilities`, which policies a resource accepts and whether it is saved when it stops;
3. `RunState`, whether a resource runs, stands still, or is on its way.
-/

namespace FleetLifecycle

/-- The class of a resource, which decides on the policies it accepts. -/
inductive ResourceClass where
  | compute
  | database
  deriving DecidableEq, Repr

namespace ResourceClass

def token : ResourceClass → String
  | .compute => "instance"
  | .database => "database"

end ResourceClass

structure Capabilities where
  /-- It accepts policies that stop or terminate it after some hours. -/
  runtimeLimits : Bool
  /-- It accepts policies that notify somebody after some hours. -/
  notification : Bool
  /-- A snapshot is taken when it stops. -/
  snapshotOnStop : Bool
  deriving DecidableEq, Repr

namespace Capabilities

/-- A machine has limits and notifications, a database has snapshots. -/
def ofClass : ResourceClass → Capabilities
  | .compute => ⟨true, true, false⟩
  | .database => ⟨false, false, true⟩

end Capabilities

/-- The state of a resource, whatever its class calls it. -/
inductive RunState where
  | running
  | stopped
  | transitional (state : String)
  deriving DecidableEq, Repr

namespace RunState

def text : RunState → String
  | .running => "running"
  | .stopped => "stopped"
  | .transitional state => state

def isRunning : RunState → Bool
  | .running => true
  | _ => false

/-- The resource can be started: only one that has come to a stop can. -/
def isStartable : RunState → Bool
  | .stopped => true
  | _ => false

end RunState
end FleetLifecycle
