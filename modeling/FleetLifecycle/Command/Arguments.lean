import FleetLifecycle.Command.Paths

/-!
# Arguments — what the command is asked to do

Options are long, `--name value` or `--name=value`, or short, `-n value`, `-nvalue` or `-n=value`.
Each may be given once, none may be missing its value, and nothing else may stand beside them.  A
value that is not attached to its option does not begin with a hyphen, unless it is a hyphen.

1. `Arguments` and `LogFormat`;
2. `Refusal`, why there are none;
3. `Token`, an argument by its look;
4. `Arguments.read`.
-/

namespace FleetLifecycle

inductive LogFormat where
  | text
  | json
  deriving DecidableEq, Repr

/-- What the command is asked to do. -/
structure Arguments where
  /-- The settings file, if one is named. -/
  settings : Option String
  inventory : String
  /-- The wall-clock time to evaluate at, if not now. -/
  wallClock : Option String
  dryRun : Bool
  logLevel : String
  logFormat : LogFormat
  deriving DecidableEq, Repr

/-- Why the command is not carried out. -/
inductive Refusal where
  | help
  /-- The arguments are not understood. -/
  | usage
  deriving DecidableEq, Repr

/-- An option that has a value. -/
inductive ValueOption where
  | config
  | inventory
  | wallClock
  | logLevel
  | logFormat
  deriving DecidableEq, Repr

/-- An option that has none. -/
inductive Flag where
  | dryRun
  | help
  deriving DecidableEq, Repr

/-- An argument by its look. -/
inductive Token where
  /-- Two hyphens: only plain arguments follow. -/
  | endOfOptions
  | flag (flag : Flag)
  /-- An option, and the value attached to it. -/
  | option (option : ValueOption) (value : Option String)
  /-- Neither an option nor a flag, or a flag with a value. -/
  | unknown
  | plain (text : String)
  deriving DecidableEq, Repr

namespace Token

def longOption? (name : String) : Option ValueOption :=
  if name = "config" then some .config
  else if name = "inventory" then some .inventory
  else if name = "at" then some .wallClock
  else if name = "log-level" then some .logLevel
  else if name = "log-format" then some .logFormat
  else none

def shortOption? (c : Char) : Option ValueOption :=
  if c = 'c' then some .config
  else if c = 'i' then some .inventory
  else if c = 'l' then some .logLevel
  else none

def longFlag? (name : String) : Option Flag :=
  if name = "dry-run" then some .dryRun
  else if name = "help" then some .help
  else none

/-- What follows two hyphens: a name, and after an equals sign its value. -/
def ofLong (cs : List Char) : Token :=
  let name := String.ofList (cs.takeWhile (· ≠ '='))
  let value := match cs.dropWhile (· ≠ '=') with
    | [] => none
    | _ :: value => some (String.ofList value)
  match longOption? name with
  | some o => .option o value
  | none =>
    -- a flag takes no value
    match longFlag? name, value with
    | some f, none => .flag f
    | _, _ => .unknown

/-- What follows one hyphen: a letter, and its value right after it or after an equals sign. -/
def ofShort (c : Char) (cs : List Char) : Token :=
  if c = 'h' then .flag .help
  else
    match shortOption? c with
    | none => .unknown
    | some o =>
      match cs with
      | [] => .option o none
      | '=' :: value => .option o (some (String.ofList value))
      | value => .option o (some (String.ofList value))

def ofText (s : String) : Token :=
  match s.toList with
  | ['-', '-'] => .endOfOptions
  | '-' :: '-' :: cs => ofLong cs
  | ['-'] => .plain s
  | '-' :: c :: cs => ofShort c cs
  | _ => .plain s

end Token

structure Collected where
  settings : Option String
  inventory : Option String
  wallClock : Option String
  dryRun : Bool
  logLevel : Option String
  logFormat : Option LogFormat
  deriving DecidableEq, Repr

namespace Collected

def empty : Collected := ⟨none, none, none, false, none, none⟩

/-- A path; the empty text is none. -/
def path? (value : String) : Option String :=
  if value = "" then none else some value

def logFormat? (value : String) : Option LogFormat :=
  if value = "text" then some .text
  else if value = "json" then some .json
  else none

def put (c : Collected) (o : ValueOption) (value : String) : Option Collected :=
  match o with
  | .config =>
    if c.settings.isSome then none
    else (path? value).map (fun p => { c with settings := some p })
  | .inventory =>
    if c.inventory.isSome then none
    else (path? value).map (fun p => { c with inventory := some p })
  | .wallClock => if c.wallClock.isSome then none else some { c with wallClock := some value }
  | .logLevel => if c.logLevel.isSome then none else some { c with logLevel := some value }
  | .logFormat =>
    if c.logFormat.isSome then none
    else (logFormat? value).map (fun f => { c with logFormat := some f })

/-- Gives an option its value, or refuses. -/
def take (c : Collected) (o : ValueOption) (value : String) : Except Refusal Collected :=
  match c.put o value with
  | some c => .ok c
  | none => .error .usage

/-- A value that is not attached to its option. -/
def detached? (s : String) : Option String :=
  match Token.ofText s with
  | .plain value => some value
  | _ => none

/-- Goes through the arguments from left to right. -/
def scan (c : Collected) : List String → Except Refusal Collected
  | [] => .ok c
  | s :: rest =>
    match Token.ofText s with
    -- nothing plain may stand beside the options, and only plain arguments could follow here
    | .endOfOptions => if rest.isEmpty then .ok c else .error .usage
    | .flag .help => .error .help
    | .flag .dryRun => if c.dryRun then .error .usage else scan { c with dryRun := true } rest
    | .option o (some value) => do
      let c ← c.take o value
      scan c rest
    | .option o none =>
      match rest with
      | [] => .error .usage
      | next :: rest =>
        match detached? next with
        | none => .error .usage
        | some value => do
          let c ← c.take o value
          scan c rest
    | .unknown | .plain _ => .error .usage

end Collected

namespace Arguments

/-- The environment variable that names the settings file when no option does. -/
def settingsVariable : String := "AUTOMANAGE_CONFIG"

/-- The environment variable that holds a log filter, which goes before the log level. -/
def filterVariable : String := "RUST_LOG"

/-- The settings file that an option or else a variable names; a variable may not be empty. -/
def settingsOf (env : Variables) : Option String → Except Refusal (Option String)
  | some path => .ok (some path)
  | none =>
    match env settingsVariable with
    | none => .ok none
    | some "" => .error .usage
    | some path => .ok (some path)

def read (env : Variables) (args : List String) : Except Refusal Arguments := do
  let c ← Collected.empty.scan args
  let settings ← settingsOf env c.settings
  match c.inventory with
  | none => .error .usage
  | some inventory =>
    return {
      settings := settings
      inventory := inventory
      wallClock := c.wallClock
      dryRun := c.dryRun
      logLevel := c.logLevel.getD "info"
      logFormat := c.logFormat.getD .text }

end Arguments
end FleetLifecycle
