import FleetLifecycle.Files
import FleetLifecycle.Form.Settings
import FleetLifecycle.Toml.Document

/-!
# Reading settings — from a text or a file

1. `SettingsError`, why a text gives no settings, with its wording;
2. `GivenSettings.ofText`, what a text says;
3. `GivenSettings.acceptIn`, which looks at the version first and at the rules next;
4. `Settings.ofTextIn` and `Settings.load`, with the zones of a table.
-/

namespace FleetLifecycle

/-- Why there are no settings. -/
inductive SettingsError where
  | unreadable (reason : FileError)
  /-- The text is no settings text at all. -/
  | malformed
  /-- The text says something that does not fit. -/
  | unfit (reason : ReadError)
  | invalid (faults : List SettingsFault)
  | unsupportedVersion (version : UInt32)
  deriving DecidableEq, Repr

/-- The version of the layout that is understood. -/
def settingsVersion : UInt32 := 1

namespace SettingsError

def message : SettingsError → String
  | .unreadable reason => "Failed to read config file: " ++ reason.message
  | .malformed => "Failed to parse TOML"
  | .unfit reason => "Failed to parse TOML: " ++ reason.message
  | .invalid faults =>
    "Validation failed: [" ++ String.intercalate ", " (faults.map (·.shown)) ++ "]"
  | .unsupportedVersion version =>
    "Unsupported config version: " ++ String.ofList (Text.decimal version.toNat)

end SettingsError

namespace GivenSettings

def ofText (text : String) : Except SettingsError GivenSettings :=
  match Toml.document? text with
  | none => .error .malformed
  | some v => (GivenSettings.reader .settings v).mapError .unfit

/-- The settings, if the version is understood and no rule is broken. -/
def acceptIn (zones : List Zone) (g : GivenSettings) : Except SettingsError Settings :=
  if g.version ≠ settingsVersion then .error (.unsupportedVersion g.version)
  else if g.faultsIn zones = [] then .ok (g.toSettingsIn zones)
  else .error (.invalid (g.faultsIn zones))

end GivenSettings

namespace Settings

def ofTextIn (zones : List Zone) (text : String) : Except SettingsError Settings := do
  let given ← GivenSettings.ofText text
  given.acceptIn zones

def load (zones : List Zone) (files : FileSystem) (path : String) :
    Except SettingsError Settings :=
  match files.text path with
  | .ok text => ofTextIn zones text
  | .error e => .error (.unreadable e)

end Settings
end FleetLifecycle
