import FleetLifecycle.Command.Surroundings

/-!
# Checking a settings file — a command of its own

The command reads the settings file that its first argument names, and reports what the settings
are or what is wrong with them.

1. `CheckReport`, exit code and what goes to standard output and standard error;
2. `SettingsError.details` and `Settings.summary`, the lines that are reported;
3. `checkSettings`.
-/

namespace FleetLifecycle

structure CheckReport where
  exit : UInt8
  output : String
  errors : String
  deriving DecidableEq, Repr

def linesText (lines : List String) : String :=
  String.join (lines.map (· ++ "\n"))

def checkUsage (path : String) : List String :=
  ["Usage: validate-config [config-file]",
    "",
    "Validates an automanage configuration file.",
    "",
    "If no path is provided, uses: " ++ path,
    "",
    "Example:",
    "  validate-config " ++ path,
    "  validate-config automanage.toml"]

/-- What is wrong with settings, in lines. -/
def SettingsError.details : SettingsError → List String
  | .unreadable reason => ["Failed to read file: " ++ reason.message]
  | .malformed => ["TOML parse error:"]
  | .unfit reason => ["TOML parse error:", "  " ++ reason.message]
  | .invalid faults =>
    ("Validation errors (" ++ String.ofList (Text.decimal faults.length) ++ "):") ::
      faults.map (fun f => "  - " ++ f.message)
  | .unsupportedVersion version =>
    ["Unsupported config version: " ++ String.ofList (Text.decimal version.toNat) ++
      " (expected " ++ String.ofList (Text.decimal settingsVersion.toNat) ++ ")"]

def Settings.summary (s : Settings) : List String :=
  let shown (b : Bool) : String := if b then "true" else "false"
  ["✓ Configuration is valid",
    "",
    "Summary:",
    "  Config version:   " ++ String.ofList (Text.decimal settingsVersion.toNat),
    "  Timezone:         " ++ s.zone.name,
    "  Dry run:          " ++ shown s.dryRun,
    "  Snapshot on stop: " ++ shown s.snapshotOnStop,
    "  Email sender:     " ++ s.sender,
    "  Policy tag:       " ++ s.policyTag,
    "  Gate tags:        " ++ s.gate.marker ++ " / " ++ s.gate.identifier]

/-- Checks the settings file that the first argument names; without one, says how the command is
used. -/
def checkSettings (here : Surroundings) (args : List String) : CheckReport :=
  match args with
  | [] => ⟨2, "", linesText (checkUsage here.usualPath)⟩
  | path :: _ =>
    if here.stands path then
      match here.loadSettings path with
      | .ok s => ⟨0, linesText s.summary, ""⟩
      | .error e => ⟨1, "", linesText ("✗ Configuration validation failed" :: "" :: e.details)⟩
    else ⟨1, "", linesText ["Error: Configuration file not found: " ++ path]⟩

end FleetLifecycle
