import Parlor.Command.Line
import Parlor.Program

/-!
# Help

The texts that explain commands, with two columns for names and their meanings.
-/

namespace Parlor.Command

/-- Fills a text with blanks up to a width. -/
def padded (width : Nat) (s : String) : String :=
  s ++ String.ofList (List.replicate (width - s.length) ' ')

/-- The greatest length of texts. -/
def widest (texts : List String) : Nat := (texts.map String.length).foldl max 0

/-- Rows of two columns. -/
def rows (entries : List (String × String)) : String :=
  let width := widest (entries.map (·.1))
  String.join (entries.map fun (name, meaning) => "  " ++ padded width name ++ "  " ++ meaning ++ "\n")

namespace Key

/-- An option as it is shown. -/
def label (key : Key) : String :=
  let letter := match key.short? with
    | some c => String.ofList ['-', c, ',', ' ']
    | none => "    "
  let value := match key.value? with
    | some word => " <" ++ word ++ ">"
    | none => if key.isStackable then "..." else ""
  letter ++ "--" ++ key.long ++ value

/-- What decides between options of the same rank: the letter, a small one first, or else the name. -/
def sortText (key : Key) : String :=
  match key.short? with
  | some c => String.ofList [c.toLower, if c.isLower then '0' else '1']
  | none => key.long

end Key

namespace Level

/-- The place of an option in the list that declares it; those that every program has come last. -/
def rank (level : Level) (key : Key) : Nat :=
  if level.own.contains key then level.own.idxOf key
  else if Key.common.contains key then Key.common.idxOf key
  else 999

/-- The options in the order in which they are shown. -/
def shownKeys (level : Level) : List Key :=
  level.keys.mergeSort fun a b =>
    level.rank a < level.rank b || (level.rank a = level.rank b && decide (a.sortText ≤ b.sortText))

/-- The program with the words that lead to a command. -/
def fullName (separator : String) (level : Level) : String :=
  separator.intercalate (Program.name :: level.words)

/-- What the command that gives help does. -/
def helpSummary : String := "Print this message or the help of the given subcommand(s)"

/-- The commands inside a command with what they do. -/
def commandRows (level : Level) : List (String × String) :=
  level.inner.map (fun next => (next.words.getLast?.getD "", next.summary)) ++ [("help", helpSummary)]

/-- The help on a command. -/
def help (level : Level) : String :=
  level.summary ++ "\n\nUsage: " ++ level.fullName " " ++ " [OPTIONS]"
    ++ (if level.isGroup then " <COMMAND>\n\nCommands:\n" ++ rows level.commandRows else "\n")
    ++ "\nOptions:\n" ++ rows (level.shownKeys.map fun key => (key.label, key.summary))

/-- The help on the command that gives help. -/
def helpOnHelp (level : Level) : String :=
  helpSummary ++ "\n\nUsage: " ++ level.fullName " " ++ " help [COMMAND]...\n\nArguments:\n"
    ++ rows [("[COMMAND]...", "Print help for the subcommand(s)")]

/-- The version of a command. -/
def version (level : Level) : String := level.fullName "-" ++ " " ++ Program.version ++ "\n"

end Level

end Parlor.Command
