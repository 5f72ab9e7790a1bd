import Parlor.Command.Run

/-!
# The program

Runs the command line on the files and the environment of the machine.
-/

namespace Parlor

/-- Tells whether an action ends without an error. -/
def succeeds (action : IO Unit) : IO Bool := do
  try
    action
    return true
  catch _ => return false

/-- The kind of what a path leads to, if it leads to something. -/
def kindOf? (path : String) : IO (Option IO.FS.FileType) := do
  if path.isEmpty then return none
  try
    let full := (← IO.currentDir) / path
    return some (← full.metadata).type
  catch _ => return none

/-- The files of the machine. -/
def machineFiles : Path.FileAccess IO where
  isDirectory path := return (← kindOf? path) == some .dir
  exists? path := return (← kindOf? path).isSome
  read? path := do
    if (← kindOf? path) == some .file then
      try return some (← IO.FS.readBinFile path).toList
      catch _ => return none
    else return none
  makeDirectories path := if path.isEmpty then return true else succeeds (IO.FS.createDirAll path)
  write path content := succeeds (IO.FS.writeBinFile path ⟨content.toArray⟩)

/-- The variables of the process. -/
def machineVariables : IO (List (String × String)) := do
  try return Environment.variablesOfBlock (← IO.FS.readBinFile "/proc/self/environ").toList
  catch _ => return []

/-- The home directory of the account that the process belongs to. -/
def machineHome? : IO (Option String) := do
  try
    let status := Text.splitText '\n' (← IO.FS.readFile "/proc/self/status")
    let user := status.findSome? fun line =>
      match Text.splitText '\t' line with
      | "Uid:" :: number :: _ => some number
      | _ => none
    return user.bind (Environment.homeOf? (← IO.FS.readFile "/etc/passwd"))
  catch _ => return none

/-- The environment of the process. -/
def machineEnvironment : IO Environment :=
  return { vars := ← machineVariables, accountHome := ← machineHome? }

end Parlor

/-- Runs the program. -/
def main (words : List String) : IO UInt32 := do
  let outcome ← Parlor.Command.run Parlor.machineFiles (← Parlor.machineEnvironment) words
  IO.print outcome.output
  if !outcome.complaint.isEmpty then IO.eprintln outcome.complaint
  return outcome.exitCode.toUInt32
