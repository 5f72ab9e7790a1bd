import Parlor.Id
import Parlor.Table
import Parlor.Text.Lowercase

/-!
# Mentions

A text mentions a user by an at sign in front of the user's name.  Names are compared without regard
to case.
-/

namespace Parlor.Chat

namespace Mention

/-- Tests for a character of the names that can be mentioned. -/
def isNameChar (c : Char) : Bool := c.isAlphanum || c == '_'

/-- The least length of a name that can be mentioned. -/
def minLength : Nat := 2

/-- The number of characters after which a longer name is cut. -/
def maxLength : Nat := 32

/-- The name that a mention takes from what follows the at sign. -/
def nameAt? (cs : List Char) : Option (List Char) :=
  let name := (cs.take maxLength).takeWhile isNameChar
  if minLength ≤ name.length then some name else none

/--
The names of the mentions from left to right.  Each search goes on behind the mention before it:
`passed` characters in front still belong to that one.
-/
def scan (passed : Nat) : List Char → List (List Char)
  | [] => []
  | c :: rest =>
    match passed with
    | passed + 1 => scan passed rest
    | 0 =>
      if c = '@' then
        match nameAt? rest with
        | some name => name :: scan name.length rest
        | none => scan 0 rest
      else scan 0 rest

/-- The elements of a list without those that occur in `seen` or further in front. -/
def firsts {α : Type} [DecidableEq α] (seen : List α) : List α → List α
  | [] => []
  | a :: rest => if a ∈ seen then firsts seen rest else a :: firsts (a :: seen) rest

/-- The names that a text mentions in lower case, in the order of their first mention. -/
def names (text : String) : List String :=
  firsts [] ((scan 0 text.toList).map fun name => Text.lowercase (String.ofList name))

end Mention

/-- A member of a conversation who can be mentioned. -/
structure Participant where
  user : UserId
  name : String
  deriving DecidableEq, Repr

namespace Mention

/-- The users of the names in lower case.  A participant takes the name from those further in front. -/
def byName (participants : List Participant) : Table String UserId :=
  participants.foldl (fun users p => users.insert (Text.lowercase p.name) p.user) []

/-- The participants whom a text mentions, in the order of their first mention and without its sender. -/
def users (text : String) (sender : UserId) (participants : List Participant) : List UserId :=
  firsts [] (((names text).filterMap (byName participants).get?).filter (· ≠ sender))

end Mention

end Parlor.Chat
