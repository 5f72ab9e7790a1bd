import Parlor.Game.Room

/-!
# Statistics of players

How finished games are counted.  The points of a player are kept as a whole number of 64 bits as long
as they fit.  A sum that does not fit turns into a real number, rounded to 53 binary digits, and it
stays one until it is small enough again; such a sum cannot be read as points.
-/

namespace Parlor.Game

open Json

/-- Rounds a natural number to its 53 leading binary digits, a tie going to the even neighbour. -/
def roundMagnitude (m : Nat) : Nat :=
  let dropped := m.log2 + 1 - 53
  let unit := Nat.pow 2 dropped
  let quotient := m / unit
  let rest := 2 * (m % unit)
  if unit < rest ∨ (unit = rest ∧ quotient % 2 = 1) then (quotient + 1) * unit else quotient * unit

/-- The real number nearest to a whole number. -/
def nearestReal (n : Int) : Int := n.sign * roundMagnitude n.natAbs

/-- A sum of points as it is kept. -/
inductive Points where
  | whole (n : Int)
  /-- A real number, which is whole all the same. -/
  | real (n : Int)
  deriving DecidableEq, Repr

namespace Points

/-- Keeps a real number, as a whole one if it lies strictly inside the range. -/
def ofReal (n : Int) : Points := if Word.signedLow < n ∧ n ≤ Word.signedHigh then .whole n else .real n

/-- Adds points. -/
def add (delta : Int64) : Points → Points
  | .whole n =>
    if Word.isSigned (n + delta.toInt) then .whole (n + delta.toInt)
    else ofReal (nearestReal (nearestReal n + nearestReal delta.toInt))
  | .real n => ofReal (nearestReal (n + nearestReal delta.toInt))

/-- The points, if they can be read. -/
def read? : Points → Option Int
  | .whole n => some n
  | .real _ => none

end Points

/-- What is counted for a player of one kind of game. -/
structure Score where
  wins : Int := 0
  losses : Int := 0
  draws : Int := 0
  games : Int := 0
  points : Points := .whole 0
  deriving DecidableEq, Repr

namespace Score

/-- Counts a game that was won. -/
def addWin (winPoints : Int64) (s : Score) : Score :=
  { s with wins := s.wins + 1, games := s.games + 1, points := s.points.add winPoints }

/-- Counts a game that was lost. -/
def addLoss (s : Score) : Score :=
  { s with losses := s.losses + 1, games := s.games + 1, points := s.points.add 0 }

/-- Counts a game that was drawn. -/
def addDraw (s : Score) : Score :=
  { s with draws := s.draws + 1, games := s.games + 1, points := s.points.add 0 }

end Score

/-- How a finished game changes the scores of its players, one after the other. -/
def Finish.changes (winPoints : Int64) : Finish → List (UserId × (Score → Score))
  | .win winner loser => [(winner, Score.addWin winPoints), (loser, Score.addLoss)]
  | .draw first second => [(first, Score.addDraw), (second, Score.addDraw)]

/-- The statistics of a player as they are reported. -/
structure Stats where
  user : UserId
  gameType : String
  wins : Int
  losses : Int
  draws : Int
  games : Int
  points : Int
  deriving DecidableEq, Repr

/-- The JSON form of statistics. -/
def Stats.toJson (s : Stats) : Value :=
  .object
    [("user_id", .word s.user), ("game_type", .string s.gameType), ("wins", .int s.wins),
     ("losses", .int s.losses), ("draws", .int s.draws), ("total_games", .int s.games),
     ("points", .int s.points)]

/-- The text of statistics. -/
def Stats.text (s : Stats) : String := s.toJson.text

end Parlor.Game
