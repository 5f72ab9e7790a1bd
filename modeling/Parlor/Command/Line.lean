import Parlor.Command.Level
import Parlor.Text.Split
import Parlor.Text.Word
import Parlor.Word

/-!
# Command lines

The words of a command line are read from left to right.  A value is looked at when the next option is
met or when its command ends, and a command ends before those around it.  Reading stops at the first
mistake, and where help or the version is asked for.
-/

namespace Parlor.Command

/-- Why a command line is not carried out. -/
inductive Stop where
  | misuse
  | help (level : Level)
  /-- Help on the command that gives help inside another one. -/
  | helpOnHelp (level : Level)
  | version (level : Level)
  deriving DecidableEq, Repr

/-- Options with their values; those that take none have an empty one. -/
abbrev Given := List (Key × String)

/-- A command as far as it has been read. -/
structure Scan where
  level : Level
  given : Given := []
  /-- An option whose value has not been looked at. -/
  pending : Option (Key × String) := none
  /-- An option whose value comes next. -/
  awaiting : Option Key := none
  /-- Whether no more options follow. -/
  isTrailing : Bool := false

/-- The number of a port. -/
def port? (value : String) : Option UInt16 :=
  ((Text.parseInt? Word.signedLow Word.signedHigh value).filter fun n => 0 ≤ n ∧ n < 65536).map fun n =>
    UInt16.ofNat n.toNat

/-- Tests for a value that an option takes. -/
def Key.accepts : Key → String → Bool
  | .config, value => !value.isEmpty
  | .color, value => ["auto", "always", "never"].contains value
  | .port, value => (port? value).isSome
  | _, _ => true

namespace Scan

/-- Adds an option with its value. -/
def give (s : Scan) (key : Key) (value : String) : Except Stop Scan :=
  if key.accepts value && (key.isStackable || !s.given.any (·.1 = key)) then
    .ok { s with given := s.given ++ [(key, value)] }
  else .error .misuse

/-- Looks at the value of the option before; one that is missing is a mistake. -/
def settle (s : Scan) : Except Stop Scan :=
  match s.awaiting, s.pending with
  | some _, _ => .error .misuse
  | none, some (key, value) => { s with pending := none }.give key value
  | none, none => .ok s

/-- Adds an option that takes no value. -/
def raise (s : Scan) (key : Key) : Except Stop Scan := do
  let s ← s.settle
  match key with
  | .help => .error (.help s.level)
  | .version => .error (.version s.level)
  | key => s.give key ""

/-- Starts an option that takes a value, which may be attached to it. -/
def take (s : Scan) (key : Key) (attached : Option String) : Except Stop Scan := do
  let s ← s.settle
  match attached with
  | some value => s.give key value
  | none => .ok { s with awaiting := some key }

/-- Reads an option that is given by its name, with a value after an equals sign perhaps. -/
def readLong (s : Scan) (cs : List Char) : Except Stop Scan :=
  let (name, value) := Text.cut '=' cs
  match s.level.keys.find? fun key => key.long = String.ofList name with
  | none => .error .misuse
  | some key =>
    let attached := if cs.contains '=' then some (String.ofList value) else none
    if key.value?.isSome then s.take key attached
    else if attached.isSome then .error .misuse
    else s.raise key

/-- Reads options that are given by their letters.  What follows one that takes a value is its value. -/
def readShort (s : Scan) : List Char → Except Stop Scan
  | [] => .ok s
  | c :: rest =>
    match s.level.keys.find? fun key => key.short? = some c with
    | none => .error .misuse
    | some key =>
      if key.value?.isSome then
        match rest with
        | [] => s.take key none
        | '=' :: value => s.take key (some (String.ofList value))
        | value => s.take key (some (String.ofList value))
      else do readShort (← s.raise key) rest

/-- Reads a word that is not a command. -/
def readWord (s : Scan) (word : String) : Except Stop Scan :=
  if s.isTrailing then .error .misuse
  else
    match word.toList, s.awaiting with
    | ['-', '-'], _ => .ok { s with isTrailing := true }
    | '-' :: '-' :: cs, _ => s.readLong cs
    | '-' :: c :: cs, _ => s.readShort (c :: cs)
    | _, some key => .ok { s with awaiting := none, pending := some (key, word) }
    | _, none => .error .misuse

/-- Ends a command.  Two forms of output exclude each other. -/
def finish (s : Scan) : Except Stop (Level × Given) := do
  let s ← s.settle
  if s.given.any (·.1 = .json) && s.given.any (·.1 = .yaml) then .error .misuse
  else .ok (s.level, s.given)

end Scan

/-- What help is asked for on, by the words after the command that gives it. -/
def readHelp (level : Level) : List String → Stop
  | [] => .help level
  | word :: rest =>
    match level.inner? word with
    | some next => readHelp next rest
    | none => if level.isGroup && word = "help" && rest.isEmpty then .helpOnHelp level else .misuse

/-- Reads the words of a command: it and the commands inside it, each with its options. -/
def readLevels (s : Scan) : List String → Except Stop (List (Level × Given))
  | [] => do
    let last ← s.finish
    if s.level.isGroup then .error .misuse else .ok [last]
  | word :: rest =>
    if s.isTrailing || s.awaiting.isSome || !s.level.isGroup then do
      readLevels (← s.readWord word) rest
    else if word = "help" then .error (readHelp s.level rest)
    else
      match s.level.inner? word with
      | some next => do
        let levels ← readLevels { level := next } rest
        let outer ← s.finish
        .ok (outer :: levels)
      | none => do readLevels (← s.readWord word) rest

/-- What is to be done. -/
structure Invocation where
  level : Level
  /-- The options, those of inner commands first. -/
  given : Given
  deriving DecidableEq, Repr

namespace Invocation

/-- The value of an option; that of an inner command counts. -/
def value? (i : Invocation) (key : Key) : Option String := List.lookup key i.given

/-- Tests for an option. -/
def has (i : Invocation) (key : Key) : Bool := (i.value? key).isSome

end Invocation

/-- Reads a command line. -/
def read (words : List String) : Except Stop Invocation := do
  let levels ← readLevels { level := .top } words
  .ok ⟨(levels.getLast?.map (·.1)).getD .top, levels.reverse.flatMap (·.2)⟩

end Parlor.Command
