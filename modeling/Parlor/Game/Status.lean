import Parlor.Text.Quoted

/-!
# The life of a room

A room waits for an opponent, is played in, and ends; a room that nobody joins can be given up.
-/

namespace Parlor.Game

/-- Where a room is in its life. -/
inductive Status where
  | pending
  | active
  | finished
  | cancelled
  deriving DecidableEq, Repr

namespace Status

/-- All statuses in the order of a room's life. -/
def all : List Status := [.pending, .active, .finished, .cancelled]

/-- The name of a status. -/
def name : Status → String
  | .pending => "pending"
  | .active => "active"
  | .finished => "finished"
  | .cancelled => "cancelled"

/-- The status of a name. -/
def ofName? (name : String) : Option Status := all.find? (·.name == name)

/-- Tests for a status that no room leaves. -/
def isTerminal : Status → Bool
  | .finished | .cancelled => true
  | .pending | .active => false

/-- Tests whether a room may go from one status to another. -/
def canBecome : Status → Status → Bool
  | .pending, .active => true
  | .pending, .cancelled => true
  | .active, .finished => true
  | _, _ => false

/-- The wording for a name that is no status. -/
def unknownMessage (name : String) : String := "unknown game status " ++ Text.quoted name

end Status

/-- The games that can be played. -/
inductive GameType where
  | ticTacToe
  deriving DecidableEq, Repr

namespace GameType

/-- The name of a game. -/
def name : GameType → String
  | .ticTacToe => "tictactoe"

/-- The game of a name. -/
def ofName? (name : String) : Option GameType :=
  if name = "tictactoe" then some .ticTacToe else none

end GameType

end Parlor.Game
