import Parlor.Command.Help
import Parlor.Config.Document
import Parlor.Config.Load

/-!
# Running commands

What a command line does, for any files and any environment.
-/

namespace Parlor.Command

open Parlor.Path (FileAccess)
open Parlor.Config (Settings)

/-- What a program leaves when it ends. -/
structure Outcome where
  /-- The code of its end, which is zero for success. -/
  exitCode : UInt8
  output : String := ""
  complaint : String := ""
  deriving DecidableEq, Repr

namespace Outcome

/-- A success with some output. -/
def success (output : String) : Outcome := { exitCode := 0, output }

/-- A failure with its message. -/
def failure (complaint : String) : Outcome := { exitCode := 1, complaint }

end Outcome

variable {m : Type → Type} [Monad m]

/--
The file of settings: the given path, or the usual file in a directory that is given.  Without one it is
the file in the directory of the settings.
-/
def settingsFile (files : FileAccess m) (env : Environment) :
    (given : Option String) → m (Except Config.LoadFault String)
  | none =>
    match Config.settingsFile? env with
    | none => return .error (.unplaced "configuration")
    | some path => return .ok path
  | some path => do
    match Path.expand? env path with
    | none => return .error .unexpandable
    | some path =>
      let path := if ← files.isDirectory path then Path.join path Config.fileName else path
      return if (Path.parent? path).isSome then .ok path else .error (.misplaced path)

/-- The document that settings are shown as. -/
def shown (i : Invocation) (settings : Settings) : Outcome :=
  if i.has .json then .success (settings.toJson.prettyText ++ "\n")
  else if i.has .yaml then .success (settings.toYaml ++ "\n")
  else
    match settings.toToml? with
    | some text => .success (text ++ "\n")
    | none => .failure "serializing config to TOML"

/-- Writes the default settings, over a file that is there only if that is forced. -/
def create (files : FileAccess m) (i : Invocation) (path : String) : m Outcome := do
  if (← files.exists? path) && !i.has .force then
    return .failure ("config file " ++ path ++ " already exists (use --force to overwrite)")
  match ← Config.writeDefault files path with
  | some fault => return .failure fault.message
  | none => return .success ""

/-- The settings of a server, as the options change them. -/
def serverSettings (i : Invocation) (settings : Settings) : Settings :=
  { settings with
    server :=
      { host := (i.value? .host).getD settings.server.host
        port := ((i.value? .port).bind port?).getD settings.server.port } }

/-- Starts a server, up to where it would listen: what is not there to listen with is a failure. -/
def serve (env : Environment) (i : Invocation) (settings : Settings) : Outcome :=
  let settings := serverSettings i settings
  match settings.databaseFile? env, settings.bus.refusal? with
  | none, _ => .failure settings.databaseFault.message
  | some _, some refusal => .failure refusal
  | some _, none => .failure ("binding " ++ settings.bindAddress)

/-- Carries out a command. -/
def carryOut (files : FileAccess m) (env : Environment) (i : Invocation) : m Outcome := do
  match ← settingsFile files env (i.value? .config) with
  | .error fault => return .failure fault.message
  | .ok path =>
    match Config.load env path (← Config.readFile files path) with
    | .error fault => return .failure fault.message
    | .ok settings =>
      match i.level with
      | .show => return shown i settings
      | .path => return .success (path ++ "\n")
      | .init => create files i path
      | .serve => return serve env i settings
      | .top | .config => return .failure ""

/-- What is left when a command line is not carried out. -/
def Stop.outcome : Stop → Outcome
  | .misuse => { exitCode := 2, complaint := "For more information, try '--help'." }
  | .help level => .success level.help
  | .helpOnHelp level => .success level.helpOnHelp
  | .version level => .success level.version

/-- Runs a command line. -/
def run (files : FileAccess m) (env : Environment) (words : List String) : m Outcome := do
  match read words with
  | .error stop => return stop.outcome
  | .ok i => carryOut files env i

end Parlor.Command
