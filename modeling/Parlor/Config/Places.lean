import Parlor.Config.Settings
import Parlor.Path.Basic
import Parlor.Path.Expand
import Parlor.Program

/-!
# Places of files

Where settings and data are kept if nobody says otherwise.  Without a home directory, and without a
variable that gives another, there is no such place.
-/

namespace Parlor.Config

/-- A directory of the program inside the one that a variable gives, or else inside the home directory. -/
def ownDirectory? (env : Environment) (name : String) (inHome : List String) : Option String :=
  ((env.filled? name).or ((Path.home? env).map fun home => inHome.foldl Path.join home)).map
    (Path.join · Program.name)

/-- The directory of the settings. -/
def settingsDirectory? (env : Environment) : Option String := ownDirectory? env "XDG_CONFIG_HOME" [".config"]

/-- The directory of the data. -/
def dataDirectory? (env : Environment) : Option String := ownDirectory? env "XDG_DATA_HOME" [".local", "share"]

/-- The name of a file of settings. -/
def fileName : String := "config.toml"

/-- The file of the settings. -/
def settingsFile? (env : Environment) : Option String := (settingsDirectory? env).map (Path.join · fileName)

/-- What the names of variables that give settings start with. -/
def variableMark : String := String.ofList (Program.name.toList.map Char.toUpper)

/-- The file of the database.  A path that is set is expanded. -/
def Settings.databaseFile? (s : Settings) (env : Environment) : Option String :=
  match s.database.path with
  | some path => Path.expand? env path
  | none => (dataDirectory? env).map (Path.join · "sanctum.db")

end Parlor.Config
