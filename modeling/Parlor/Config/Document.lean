import Parlor.Config.Places
import Parlor.Path.Disk
import Parlor.Toml.Printer
import Parlor.Yaml.Printer

/-!
# Documents of settings

The texts that settings are shown as, and the file that is written to start from.
-/

namespace Parlor.Config

/-- The settings as TOML; words beyond the signed range cannot be written. -/
def Settings.toToml? (s : Settings) : Option String := Toml.print? s.sections

/-- The settings as YAML. -/
def Settings.toYaml (s : Settings) : String := Yaml.print s.sections

/-- The default settings as a file for a path. -/
def defaultDocument (path : String) : String :=
  "# Configuration for " ++ Program.name ++ "\n# File: " ++ path ++ "\n\n"
    ++ ((({} : Settings).toToml?).getD "")

/-- Why a file cannot be written. -/
inductive WriteFault where
  | directory (path : String)
  | file (path : String)
  deriving DecidableEq, Repr

/-- The message of a fault. -/
def WriteFault.message : WriteFault → String
  | .directory path => "creating config directory " ++ Path.quoted path
  | .file path => "writing config file to " ++ path

/-- Writes the default settings to a file, after the directories on the way to it. -/
def writeDefault {m : Type → Type} [Monad m] (files : Path.FileAccess m) (path : String) :
    m (Option WriteFault) := do
  if let some directory := Path.parent? path then
    if !(← files.makeDirectories directory) then return some (.directory directory)
  if ← files.write path (Json.encodeUtf8 (defaultDocument path)) then return none
  else return some (.file path)

end Parlor.Config
