import FleetLifecycle.Command.Check
import FleetLifecycle.Command.Run
import FleetLifecycle.Zone.Bundled
import Std.Time.DateTime.Timestamp

/-!
# The programs

One executable holds two programs, told apart by the name it is called under: `validate-config`
checks a settings file, any other name runs one evaluation cycle.  What they do is decided by
`checkSettings` and `Machine.run`; here the machine is looked at and the answer is written.
-/

namespace FleetLifecycle
namespace Program

def readFile (path : String) : IO (Except FileError ByteArray) := do
  if path = "" then return .error .notFound
  if ← ((← IO.currentDir) / path).isDir then return .error .isDirectory
  try
    return .ok (← IO.FS.readBinFile path)
  catch e =>
    match e with
    | .noFileOrDirectory _ _ _ => return .error .notFound
    | .inappropriateType _ _ _ => return .error .notDirectory
    | e => return .error (.refused (toString e))

/-- The environment variables that the programs look at. -/
def readVariables : IO Variables := do
  let names :=
    ["XDG_CONFIG_HOME", "HOME", Arguments.settingsVariable, Arguments.filterVariable]
  let entries ← names.filterMapM fun name => do
    return (← IO.getEnv name).map (fun value => (name, value))
  return fun name => Entries.find? name entries

/-- What the programs see with these variables if they look at some paths and nowhere else. -/
def readSurroundings (env : Variables) (home : Option String) (paths : List String) :
    IO Surroundings := do
  let entries ← paths.mapM fun path => do
    return (path, ← readFile path)
  let directory ← IO.currentDir
  let standing ← paths.filterM fun (path : String) => do
    if path = "" then return false
    (directory / path).pathExists
  return {
    files := fun path => (Entries.find? path entries).getD (.error .notFound)
    stands := standing.contains
    env := env
    home := home
    library := .bundled }

def readClock : IO Instant := do
  let nanos : Int := (← Std.Time.Timestamp.now).toNanosecondsSinceUnixEpoch.val
  let second : Int := nanos / secondNanos
  match Instant.of? second (nanos % secondNanos).toNat with
  | some t => return t
  | none => throw (IO.userError "the clock shows no year that calendars have")

def drawCycleId : IO CycleId := do
  let bytes := (← IO.getRandomBytes 16).toList
  let digits := bytes.flatMap fun b => [Text.nibble (b.toNat / 16), Text.nibble b.toNat]
  -- the two digits that say how the id was made
  let digits := (digits.set 12 (Text.nibble 4)).set 16
    (Text.nibble (8 + (digits.getD 16 (Text.nibble 0)).val % 4))
  if h : digits.length = 32 then return ⟨digits, h⟩
  else throw (IO.userError "no random bits")

/-- The files that a run of the command may read. -/
def filesNamed (env : Variables) (home : Option String) (args : List String) : List String :=
  match Arguments.read env args with
  | .ok args => [args.settings.getD (defaultSettingsPath env home), args.inventory]
  | .error _ => []

def usage : String :=
  "Apply lifecycle policy tags to a fleet of resources\n\n" ++
    "Usage: automanage [OPTIONS] --inventory <INVENTORY>\n\n" ++
    "Options:\n" ++
    "  -c, --config <CONFIG>           Configuration file path\n" ++
    "  -i, --inventory <INVENTORY>     JSON resource inventory\n" ++
    "      --at <YYYY-MM-DD HH:MM:SS>  Evaluate as of this wall-clock time\n" ++
    "      --dry-run                   Report actions without carrying them out\n" ++
    "  -l, --log-level <LOG_LEVEL>     Log level (default: info)\n" ++
    "      --log-format <LOG_FORMAT>   Log output format (default: text; or json)\n" ++
    "  -h, --help                      Print help\n"

/-- The log line of a finished cycle. -/
def logLine (format : LogFormat) (s : CycleSummary) : String :=
  match format with
  | .json =>
    (Json.object [("level", .string "INFO"), ("fields", s.toJson),
      ("target", .string commandName)]).compact
  | .text =>
    " INFO " ++ commandName ++ ": Cycle complete untagged=" ++ toString s.untagged ++
      " actions=" ++ CycleSummary.actionsShown s.actions ++
      " executed=" ++ toString s.outcomes.executed ++
      " skipped=" ++ toString s.outcomes.skipped ++
      " failed=" ++ toString s.outcomes.failed ++ " dry_run=" ++ toString s.dryRun

def report (ending : Ending) : IO Unit := do
  match ending.failure with
  | some f => IO.eprintln ("Error: " ++ f.message ++ "\n\nCaused by:\n    " ++ f.cause)
  | none => pure ()
  match ending.log, ending.summary with
  | some format, some s => IO.eprintln (logLine format s)
  | _, _ => pure ()

/-- Runs one evaluation cycle.  Where standard output takes nothing, the run is that of a machine
without room. -/
def cycle (args : List String) : IO UInt32 := do
  let env ← readVariables
  match Arguments.read env args with
  | .error .help => IO.print usage
  | .error .usage => IO.eprint usage
  | .ok _ => pure ()
  let home := nonEmptyVariable env "HOME"
  let m : Machine := {
    toSurroundings := ← readSurroundings env home (filesNamed env home args)
    clock := ← readClock
    cycleId := ← drawCycleId
    room := none
    schedule := id
    schedule_perm := fun _ => List.Perm.refl _ }
  let ending := m.run args
  let stdout ← IO.getStdout
  let ending ← try
      stdout.write ⟨ending.output.toArray⟩
      stdout.flush
      pure ending
    catch _ => pure ({ m with room := some 0 }.run args)
  report ending
  return ending.exit.toUInt32

def check (args : List String) : IO UInt32 := do
  let env ← readVariables
  let here ← readSurroundings env (nonEmptyVariable env "HOME") (args.take 1)
  let answer := checkSettings here args
  IO.print answer.output
  IO.eprint answer.errors
  return answer.exit.toUInt32

end Program
end FleetLifecycle

def main (args : List String) : IO UInt32 := do
  let name := (← IO.appPath).fileName
  if name = some "validate-config" then FleetLifecycle.Program.check args
  else FleetLifecycle.Program.cycle args
