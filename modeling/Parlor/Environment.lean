import Parlor.Text.Split
import Parlor.Text.Utf8

/-!
# Environments

The variables that a program is started with, and what the accounts of the machine say about its user.
Each variable is looked up as a text of its name, an equals sign and its value.
-/

namespace Parlor

/-- Where a program runs. -/
structure Environment where
  /-- The variables with their values. -/
  vars : List (String × String) := []
  /-- The home directory of the user's account, if there is one. -/
  accountHome : Option String := none
  deriving DecidableEq, Repr

namespace Environment

/--
The value of a variable: what follows the name and an equals sign in the first text that starts with
them.  So a name with an equals sign in it finds the rest of a value, and the empty name finds nothing.
-/
def value? (env : Environment) (name : String) : Option String :=
  if name.isEmpty then none
  else env.vars.findSome? fun (n, v) =>
    ((name ++ "=").toList.isPrefixOf? (n ++ "=" ++ v).toList).map String.ofList

/-- The value of a variable, unless it is empty. -/
def filled? (env : Environment) (name : String) : Option String :=
  (env.value? name).filter fun v => !v.isEmpty

/-- Gives a variable a value. -/
def set (env : Environment) (name value : String) : Environment :=
  { env with
    vars :=
      if env.vars.any (·.1 = name) then
        env.vars.map fun (n, v) => if n = name then (n, value) else (n, v)
      else env.vars ++ [(name, value)] }

/--
The variables of a block of bytes, where each one ends in a zero.  A name has at least one byte, which
may be an equals sign.
-/
def variablesOfBlock (block : Json.Bytes) : List (String × String) :=
  (Text.split 0 block).filterMap fun entry =>
    if (entry.drop 1).contains 0x3d then
      let (name, value) := Text.cut 0x3d (entry.drop 1)
      some (Text.decodeLossy (entry.take 1 ++ name), Text.decodeLossy value)
    else none

/--
The home directory of a user, by the user's number, in a text of all accounts.  Each account is a line
with colons between its parts.
-/
def homeOf? (accounts : String) (user : String) : Option String :=
  (Text.splitText '\n' accounts).findSome? fun line =>
    match Text.splitText ':' line with
    | _ :: _ :: number :: _ :: _ :: home :: _ => if number = user && !home.isEmpty then some home else none
    | _ => none

end Environment

end Parlor
