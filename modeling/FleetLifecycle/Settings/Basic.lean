import FleetLifecycle.Decision.Gate
import FleetLifecycle.Zone.Named

/-!
# Settings — what a cycle depends on besides the fleet

1. `Settings` and the settings of one who has given none, `Settings.default`.
-/

namespace FleetLifecycle

/-- What a cycle depends on besides the fleet. -/
structure Settings where
  /-- The zone in which hours and days are reckoned. -/
  zone : Zone
  /-- Actions are reported, but not carried out. -/
  dryRun : Bool
  /-- Resources that can be saved are saved when they stop. -/
  snapshotOnStop : Bool
  sender : String
  policyTag : String
  gate : GateTags
  deriving DecidableEq, Repr

namespace Settings

def defaultMarker : String := "fleet-group"

def defaultIdentifier : String := "fleet-member-id"

/-- The settings of one who has given none. -/
def default : Settings where
  zone := Zone.utc
  dryRun := false
  snapshotOnStop := true
  sender := "automanage@localhost"
  policyTag := "lifecycle-policy"
  gate := ⟨defaultMarker, defaultIdentifier⟩

instance : Inhabited Settings := ⟨default⟩

end Settings
end FleetLifecycle
