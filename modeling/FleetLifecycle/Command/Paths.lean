/-!
# Paths — where settings are looked for

1. `Variables`, the environment variables that are set;
2. `joinPath`, a path below another;
3. `defaultSettingsPath`.
-/

namespace FleetLifecycle

abbrev Variables : Type := String → Option String

/-- A path below another; nothing comes between them if the first ends with a slash. -/
def joinPath (base part : String) : String :=
  match base.toList.getLast? with
  | none => part
  | some c => if c = '/' then base ++ part else base ++ "/" ++ part

def nonEmptyVariable (env : Variables) (name : String) : Option String :=
  match env name with
  | some s => if s = "" then none else some s
  | none => none

/-- The directory in which programs keep their settings: below the home directory, if there is one,
unless a variable names another. -/
def settingsDirectory (env : Variables) (home : Option String) : String :=
  match nonEmptyVariable env "XDG_CONFIG_HOME" with
  | some dir => dir
  | none =>
    match home with
    | some home => joinPath home ".config"
    | none => "."

/-- The file in which settings are looked for unless another is named. -/
def defaultSettingsPath (env : Variables) (home : Option String) : String :=
  joinPath (joinPath (settingsDirectory env home) "automanage") "config.toml"

end FleetLifecycle
