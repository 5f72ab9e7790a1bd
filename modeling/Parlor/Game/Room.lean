import Parlor.Failure
import Parlor.Game.Board
import Parlor.Game.Move

/-!
# Game rooms

A room seats its creator and one opponent.  Joining starts the game with the creator to move; a move
passes the turn or ends the game; leaving for good forfeits it; a room without an opponent can be
cancelled.  Every operation gives the room as it is after it, and what came of it or why it failed.
-/

namespace Parlor.Game

open Json

/-- A room and everything that is stored about it. -/
structure Room where
  id : RoomId
  gameType : GameType
  status : Status
  creator : UserId
  opponent : Option UserId
  winner : Option UserId
  isDraw : Bool
  board : Board
  /-- Whose turn it is; what is left here after the end has no meaning. -/
  nextTurn : Option UserId
  createdAt : Option String
  updatedAt : Option String
  deriving DecidableEq, Repr

/-- What a legal move leads to. -/
inductive MoveOutcome where
  | continued (nextTurn : UserId)
  | won (winner loser : UserId)
  | draw
  deriving DecidableEq, Repr

/-- How a finished room counts for its two players. -/
inductive Finish where
  | win (winner loser : UserId)
  | draw (first second : UserId)
  deriving DecidableEq, Repr

namespace Room

/-- A room that waits for an opponent. -/
def newPending (id : RoomId) (creator : UserId) (gameType : GameType) : Room where
  id := id
  gameType := gameType
  status := .pending
  creator := creator
  opponent := none
  winner := none
  isDraw := false
  board := .empty
  nextTurn := none
  createdAt := none
  updatedAt := none

/-- Whose turn it is, while the room is active. -/
def turn? (r : Room) : Option UserId := if r.status = .active then r.nextTurn else none

/-- Tests for one of the two players. -/
def isParticipant (r : Room) (user : UserId) : Bool := r.creator == user || r.opponent == some user

/-- The other player, if both seats are taken. -/
def opponentOf? (r : Room) (user : UserId) : Option UserId :=
  match r.opponent with
  | none => none
  | some opponent =>
    if user = r.creator then some opponent
    else if user = opponent then some r.creator
    else none

/-- The marker of a player. -/
def markerOf? (r : Room) (user : UserId) : Option Marker :=
  if user = r.creator then some .x
  else if r.opponent = some user then some .o
  else none

/-- Changes the status, if a room may go that way. -/
def become (r : Room) (next : Status) : Room × Except Failure Unit :=
  if r.status.canBecome next then ({ r with status := next }, .ok ())
  else (r, .error (.invalidTransition r.status next))

/-- Seats a user as the opponent and starts the game, with the creator to move. -/
def join (r : Room) (user : UserId) : Room × Except Failure Unit :=
  if r.status ≠ .pending then (r, .error .notJoinable)
  else if r.creator = user then (r, .error .creatorCannotJoin)
  else
    match r.become .active with
    | (r, .error f) => (r, .error f)
    | (r, .ok ()) => ({ r with opponent := some user, nextTurn := some r.creator }, .ok ())

/-- The failure of a move whose marker cannot be placed. -/
def placeFailure : BoardFault → Failure
  | .outOfBounds _ _ | .occupied _ _ => .invalidMove
  | .badMarker _ => .invalidMoveFormat

/-- The players of a move: the marker of the mover, and the other player. -/
def movers (r : Room) (user : UserId) : Except Failure (Marker × UserId) :=
  match r.markerOf? user, r.opponentOf? user with
  | some marker, some other => .ok (marker, other)
  | _, _ => .error .notParticipant

/-- Passes the turn to the other player, or ends the game if the board says so. -/
def goOn (r : Room) (user other : UserId) : Room × Except Failure MoveOutcome :=
  match r.board.outcome with
  | .inProgress => ({ r with nextTurn := some other }, .ok (.continued other))
  | .won _ =>
    match r.become .finished with
    | (r, .error f) => (r, .error f)
    | (r, .ok ()) => ({ r with winner := some user }, .ok (.won user other))
  | .draw =>
    match r.become .finished with
    | (r, .error f) => (r, .error f)
    | (r, .ok ()) => ({ r with isDraw := true }, .ok .draw)

/-- Applies a move, which ends the game if it decides it. -/
def applyMove (r : Room) (user : UserId) (move : Move) : Room × Except Failure MoveOutcome :=
  if r.status ≠ .active ∨ r.nextTurn ≠ some user then (r, .error .notYourTurn)
  else
    match r.movers user with
    | .error f => (r, .error f)
    | .ok (marker, other) =>
      match r.board.place move.x move.y marker with
      | .error fault => (r, .error (placeFailure fault))
      | .ok board => { r with board }.goOn user other

/-- Awards an active game to the player who has stayed. -/
def forfeit (r : Room) (absent : UserId) : Room × Except Failure Finish :=
  match r.opponentOf? absent with
  | none => (r, .error .notParticipant)
  | some winner =>
    match r.become .finished with
    | (r, .error f) => (r, .error f)
    | (r, .ok ()) => ({ r with winner := some winner }, .ok (.win winner absent))

/-- Gives up a room that nobody has joined. -/
def cancel (r : Room) : Room × Except Failure Unit := r.become .cancelled

/-- How the room counts for its players, once it is finished. -/
def finish? (r : Room) : Option Finish :=
  if r.status ≠ .finished then none
  else
    match r.opponent with
    | none => none
    | some opponent =>
      match r.winner with
      | some winner => some (.win winner (if winner = r.creator then opponent else r.creator))
      | none => if r.isDraw then some (.draw r.creator opponent) else none

/-- The JSON form of an optional user. -/
def userJson : Option UserId → Value := Value.ofOption .word

/-- The members that tell the state of the game, ordered by name. -/
def stateMembers (r : Room) : List (String × Value) :=
  [("board", r.board.toJson), ("is_draw", .bool r.isDraw), ("next_turn", userJson r.turn?),
   ("status", .string r.status.name), ("winner_id", userJson r.winner)]

/-- The payload that tells the state of the game. -/
def statePayload (r : Room) : Value := .object r.stateMembers

/-- The payload that announces the start of the game. -/
def startedPayload (r : Room) : Value :=
  .object
    [("creator_id", .word r.creator), ("next_turn", userJson r.turn?),
     ("opponent_id", userJson r.opponent), ("status", .string r.status.name)]

/-- The JSON form of a room. -/
def toJson (r : Room) : Value :=
  .object
    [("id", .word r.id), ("type", .string r.gameType.name), ("status", .string r.status.name),
     ("creator_id", .word r.creator), ("opponent_id", userJson r.opponent),
     ("winner_id", userJson r.winner), ("is_draw", .bool r.isDraw),
     ("current_state", r.board.toJson), ("next_turn_id", userJson r.nextTurn),
     ("created_at", .ofOption .string r.createdAt), ("updated_at", .ofOption .string r.updatedAt)]

/-- The text of a room. -/
def text (r : Room) : String := r.toJson.text

end Room

end Parlor.Game
