import Parlor.Json.Printer
import Parlor.Yaml.Scalar

/-!
# Writing YAML

Groups of scalars, one a line.
-/

namespace Parlor.Yaml

open Json (Value)

/-- A scalar up to the end of its last line. -/
def scalarLine (width : Nat) : Value → List Char
  | .string s => textLine width s
  | value => value.chars ++ ['\n']

/-- The lines of a group. -/
def groupLines (name : String) (entries : List (String × Value)) : List Char :=
  name.toList ++ [':', '\n'] ++ entries.flatMap fun (key, value) =>
    indentation 2 ++ key.toList ++ [':', ' '] ++ scalarLine 4 value

/-- The document of groups. -/
def print (groups : List (String × List (String × Value))) : String :=
  String.ofList (groups.flatMap fun (name, entries) => groupLines name entries)

end Parlor.Yaml
