import Parlor.Game.Stats
import Parlor.Table

/-!
# The store of games

Rooms, the log of their moves, and the scores of players.  Rooms are shared by all servers, so every
write names what it expects to find: when another writer was first, nothing at all is written.

Identifiers are kept as the signed words of the same bits, and boards as text.
-/

namespace Parlor.Game

open Json

/-- A room as it is stored. -/
structure StoredRoom where
  id : Int64
  gameType : String
  status : Status
  creator : Int64
  opponent : Option Int64 := none
  winner : Option Int64 := none
  isDraw : Bool := false
  /-- The text of the board. -/
  state : String
  nextTurn : Option Int64 := none
  createdAt : String
  updatedAt : String
  deriving DecidableEq, Repr

/-- A move as it is stored. -/
structure StoredMove where
  id : Int
  room : Int64
  user : Int64
  /-- The payload of the move as it was sent. -/
  data : String
  number : Int
  createdAt : String
  deriving DecidableEq, Repr

/-- A move in the log of a room. -/
structure MoveRecord where
  id : Int
  room : RoomId
  user : UserId
  data : String
  number : Int
  createdAt : String
  deriving DecidableEq, Repr

/-- The text of a move. -/
def MoveRecord.text (m : MoveRecord) : String :=
  (Value.object
    [("id", .int m.id), ("room_id", .word m.room), ("user_id", .word m.user),
     ("move_data", .string m.data), ("move_number", .int m.number),
     ("created_at", .string m.createdAt)]).text

/-- The move of a row. -/
def StoredMove.load (row : StoredMove) : MoveRecord where
  id := row.id
  room := row.room.toUInt64
  user := row.user.toUInt64
  data := row.data
  number := row.number
  createdAt := row.createdAt

/-- The store, with everything in the order in which it was inserted. -/
structure Store where
  /-- The present time as the store writes it. -/
  clock : String
  rooms : List StoredRoom := []
  moves : List StoredMove := []
  scores : Table (Int64 × String) Score := []
  deriving Repr

namespace StoredRoom

/-- The context of a board that cannot be read. -/
def boardContext : String := "decoding board state"

/-- The room of a row. -/
def load (row : StoredRoom) : Except StorageFault Room :=
  match GameType.ofName? row.gameType with
  | none => .error (.told (Failure.unsupportedMessage row.gameType))
  | some gameType =>
    match Board.ofText row.state with
    | .error _ => .error { cause := none, contexts := [some boardContext] }
    | .ok board =>
      .ok
        { id := row.id.toUInt64, gameType, status := row.status, creator := row.creator.toUInt64
          opponent := row.opponent.map Int64.toUInt64, winner := row.winner.map Int64.toUInt64
          isDraw := row.isDraw, board, nextTurn := row.nextTurn.map Int64.toUInt64
          createdAt := some row.createdAt, updatedAt := some row.updatedAt }

/-- Overwrites what a game changes, except for the opponent. -/
def overwrite (row : StoredRoom) (room : Room) (clock : String) : StoredRoom :=
  { row with
    status := room.status, winner := room.winner.map UInt64.toInt64, isDraw := room.isDraw
    state := room.board.text, nextTurn := room.nextTurn.map UInt64.toInt64, updatedAt := clock }

end StoredRoom

namespace Store

/-- The greatest number of rooms.  Their identifiers are positive signed words. -/
def roomLimit : Nat := 9223372036854775807

/-- The context of a room that cannot be inserted. -/
def insertContext : String := "Failed to insert game room"

/-- The row of a room. -/
def row? (s : Store) (id : RoomId) : Option StoredRoom := s.rooms.find? (·.id == id.toInt64)

/-- Inserts a row under the next identifier, as long as there is one. -/
def insertRow (s : Store) (row : StoredRoom) : Store × Except StorageFault StoredRoom :=
  if s.rooms.length < roomLimit then
    let row :=
      { row with id := Int64.ofNat (s.rooms.length + 1), createdAt := s.clock, updatedAt := s.clock }
    ({ s with rooms := s.rooms ++ [row] }, .ok row)
  else (s, .error { cause := none, contexts := [some insertContext] })

/-- The row of a room that waits for an opponent, before it has an identifier. -/
def pendingRow (creator : UserId) (gameType : GameType) : StoredRoom :=
  { id := 0, gameType := gameType.name, status := .pending, creator := creator.toInt64
    state := Board.empty.text, createdAt := "", updatedAt := "" }

/-- Inserts a room that waits for an opponent. -/
def createRoom (s : Store) (creator : UserId) (gameType : GameType) : Store × Except StorageFault Room :=
  match s.insertRow (pendingRow creator gameType) with
  | (s, .error fault) => (s, .error fault)
  | (s, .ok row) => (s, row.load)

/-- Loads a room. -/
def room (s : Store) (id : RoomId) : Except StorageFault (Option Room) :=
  match s.row? id with
  | none => .ok none
  | some row => some <$> row.load

/-- The rooms that wait for an opponent, the newest first. -/
def pendingRooms (s : Store) (gameType : GameType) : Except StorageFault (List Room) :=
  (s.rooms.reverse.filter fun row => row.status = .pending ∧ row.gameType = gameType.name).mapM
    StoredRoom.load

/-- Changes the row of a room if it satisfies a condition, and tells whether it did. -/
def changeRow (s : Store) (id : RoomId) (condition : StoredRoom → Bool)
    (change : StoredRoom → StoredRoom) : Store × Bool :=
  if (s.row? id).any condition then
    let rooms := s.rooms.map fun row => if row.id = id.toInt64 then change row else row
    ({ s with rooms }, true)
  else (s, false)

/-- Overwrites a room that still has the expected status. -/
def updateRoom (s : Store) (room : Room) (expected : Status) : Store × Bool :=
  s.changeRow room.id (fun row => row.status = expected) fun row =>
    { row.overwrite room s.clock with opponent := room.opponent.map UInt64.toInt64 }

/-- Changes the score of a player. -/
def changeScore (s : Store) (user : UserId) (gameType : GameType) (change : Score → Score) : Store :=
  let key := (user.toInt64, gameType.name)
  { s with scores := s.scores.insert key (change ((s.scores.get? key).getD {})) }

/-- Counts a finished game. -/
def count (s : Store) (gameType : GameType) (finish : Finish) (winPoints : Int64) : Store :=
  (finish.changes winPoints).foldl (fun s (user, change) => s.changeScore user gameType change) s

/-- The rows of the moves in a room. -/
def moveRows (s : Store) (id : RoomId) : List StoredMove := s.moves.filter (·.room == id.toInt64)

/-- The log of a room in the order of its moves. -/
def movesOf (s : Store) (id : RoomId) : List MoveRecord :=
  ((s.moveRows id).mergeSort fun a b => a.number ≤ b.number).map StoredMove.load

/-- The number of the next move in a room. -/
def nextMoveNumber (s : Store) (id : RoomId) : Int :=
  ((s.moveRows id).map (·.number)).max?.getD 0 + 1

/-- The identifier of the next move, in whatever room. -/
def nextMoveId (s : Store) : Int := (s.moves.map (·.id)).foldl max 0 + 1

/-- Appends a move to the log of a room. -/
def recordMove (s : Store) (id : RoomId) (user : UserId) (data : String) : Store × MoveRecord :=
  let row : StoredMove :=
    { id := s.nextMoveId, room := id.toInt64, user := user.toInt64, data
      number := s.nextMoveNumber id, createdAt := s.clock }
  ({ s with moves := s.moves ++ [row] }, row.load)

/--
Stores a move together with the room that it leads to, and counts the game if the move has ended it.
The stored room has to be active, with the mover to move.
-/
def commitMove (s : Store) (room : Room) (user : UserId) (data : String) (finish : Option Finish)
    (winPoints : Int64) : Store × Option MoveRecord :=
  match s.changeRow room.id (fun row => row.status = .active && row.nextTurn == some user.toInt64)
      (·.overwrite room s.clock) with
  | (s, false) => (s, none)
  | (s, true) =>
    let (s, record) := s.recordMove room.id user data
    (finish.elim s fun finish => s.count room.gameType finish winPoints, some record)

/-- Stores a finished room and counts the game.  The stored room has to be active. -/
def finishRoom (s : Store) (room : Room) (finish : Finish) (winPoints : Int64) : Store × Bool :=
  match s.changeRow room.id (fun row => row.status = .active) (·.overwrite room s.clock) with
  | (s, false) => (s, false)
  | (s, true) => (s.count room.gameType finish winPoints, true)

/-- The statistics of a player, all zero before the first game. -/
def stats (s : Store) (user : UserId) (gameType : GameType) : Except StorageFault Stats :=
  let score := (s.scores.get? (user.toInt64, gameType.name)).getD {}
  match score.points.read? with
  | some points =>
    .ok
      { user, gameType := gameType.name, wins := score.wins, losses := score.losses
        draws := score.draws, games := score.games, points }
  | none => .error { cause := none }

end Store

end Parlor.Game
