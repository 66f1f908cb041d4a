import FleetLifecycle.Settings.Basic
import FleetLifecycle.Text.Digits
import FleetLifecycle.Text.Quoted
import FleetLifecycle.Text.Split

/-!
# Given settings — what a settings text says, and what is wrong with it

Every setting may be left out.  Given settings are checked all together: each broken rule is
reported once, in a fixed order.

1. `GivenSettings`, with the version of its layout;
2. `SettingsFault`, the broken rules, with their wording and the form in which lists show them;
3. `GivenSettings.faultsIn`, the rules broken if the zones of a table are known;
4. `GivenSettings.toSettingsIn`, in which defaults stand for what is left out.
-/

namespace FleetLifecycle

structure GivenEvaluation where
  timezone : Option String
  dryRun : Option Bool
  snapshotOnStop : Option Bool
  sender : Option String
  policyTag : Option String
  deriving DecidableEq, Repr

structure GivenGate where
  marker : Option String
  identifier : Option String
  deriving DecidableEq, Repr

structure GivenSettings where
  version : UInt32
  evaluation : GivenEvaluation
  gate : GivenGate
  deriving DecidableEq, Repr

namespace GivenEvaluation

def empty : GivenEvaluation := ⟨none, none, none, none, none⟩

end GivenEvaluation

namespace GivenGate

def empty : GivenGate := ⟨none, none⟩

end GivenGate

/-- A rule that given settings break. -/
inductive SettingsFault where
  | unknownZone (name : String)
  /-- A sender needs one at sign with something on either side. -/
  | badSender (address : String)
  | blankTagName (field : String)
  | sameGateTags (name : String)
  deriving DecidableEq, Repr

namespace SettingsFault

def message : SettingsFault → String
  | .unknownZone name => "Unknown timezone '" ++ name ++ "'"
  | .badSender address => "Invalid sender address '" ++ address ++ "'"
  | .blankTagName field => "Tag name for '" ++ field ++ "' cannot be empty"
  | .sameGateTags name => "Gate marker and identifier tags must differ (both '" ++ name ++ "')"

/-- A fault as a list of faults shows it. -/
def shown : SettingsFault → String
  | .unknownZone name => "InvalidTimezone(" ++ Text.quote name ++ ")"
  | .badSender address => "InvalidEmailAddress(" ++ Text.quote address ++ ")"
  | .blankTagName field => "EmptyTagName \x7b field: " ++ Text.quote field ++ " \x7d"
  | .sameGateTags name => "GateTagsCollide(" ++ Text.quote name ++ ")"

end SettingsFault

/-- An address with one at sign and something on either side of it. -/
def isPlausibleAddress (address : String) : Bool :=
  match Text.splitFirst '@' address.toList with
  | (name, some domain) => !name.isEmpty && !domain.isEmpty && !domain.contains '@'
  | (_, none) => false

/-- The fault of a text that is given and does not do. -/
def faultOf (given : Option String) (bad : String → Bool) (fault : String → SettingsFault) :
    List SettingsFault :=
  match given with
  | some text => if bad text then [fault text] else []
  | none => []

def blankName (field : String) (name : Option String) : List SettingsFault :=
  faultOf name Text.isBlankText (fun _ => .blankTagName field)

namespace GivenGate

def toGateTags (g : GivenGate) : GateTags where
  marker := g.marker.getD Settings.defaultMarker
  identifier := g.identifier.getD Settings.defaultIdentifier

/-- The fault of tags with one name.  The names in force are compared, whether given or not. -/
def tagFaults (g : GivenGate) : List SettingsFault :=
  if g.toGateTags.marker = g.toGateTags.identifier then [.sameGateTags g.toGateTags.marker] else []

def faults (g : GivenGate) : List SettingsFault :=
  blankName "gate.marker_tag" g.marker ++ blankName "gate.identifier_tag" g.identifier ++
    g.tagFaults

end GivenGate

namespace GivenEvaluation

def zoneFaults (zones : List Zone) (e : GivenEvaluation) : List SettingsFault :=
  faultOf e.timezone (fun name => (Zone.readIn? zones name).isNone) .unknownZone

def senderFaults (e : GivenEvaluation) : List SettingsFault :=
  faultOf e.sender (fun address => !isPlausibleAddress address) .badSender

def faults (zones : List Zone) (e : GivenEvaluation) : List SettingsFault :=
  e.zoneFaults zones ++ e.senderFaults ++ blankName "automanage.policy_tag" e.policyTag

end GivenEvaluation

namespace GivenSettings

/-- The rules that given settings break, in order. -/
def faultsIn (zones : List Zone) (g : GivenSettings) : List SettingsFault :=
  g.evaluation.faults zones ++ g.gate.faults

/-- The settings, with defaults for what is not given; an unknown zone counts as not given. -/
def toSettingsIn (zones : List Zone) (g : GivenSettings) : Settings where
  zone := (g.evaluation.timezone.bind (Zone.readIn? zones)).getD Settings.default.zone
  dryRun := g.evaluation.dryRun.getD Settings.default.dryRun
  snapshotOnStop := g.evaluation.snapshotOnStop.getD Settings.default.snapshotOnStop
  sender := g.evaluation.sender.getD Settings.default.sender
  policyTag := g.evaluation.policyTag.getD Settings.default.policyTag
  gate := g.gate.toGateTags

end GivenSettings
end FleetLifecycle
