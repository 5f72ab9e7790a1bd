import Parlor.Game.Action
import Parlor.Registry
import Parlor.Shared

/-!
# The game hub

Seats players in rooms and carries out what they ask for.  Every change of a room is stored before it
is told to the seated players: through the bus if the hub is wired, and directly otherwise.  A player
who leaves an active game has some time to come back before the game is forfeited.
-/

namespace Parlor.Game

open Json (Bytes Value)
open Text (Nanos)

/-- A forfeit that is due unless the player comes back. -/
structure Forfeit where
  room : RoomId
  user : UserId
  due : Nanos
  /-- Tells which of two forfeits that are due at the same time was armed first. -/
  ticket : Nat
  deriving DecidableEq, Repr

/-- Tests whether a forfeit comes before another. -/
def Forfeit.precedes (a b : Forfeit) : Bool := a.due < b.due || (a.due == b.due && a.ticket < b.ticket)

/-- The players of one server. -/
structure Hub where
  grace : Nanos
  winPoints : Int64
  /-- The connection of each player in each room. -/
  seats : Registry RoomId UserId ConnectionId := .empty
  /-- The rooms in which each user has a seat. -/
  userRooms : Registry UserId RoomId Unit := .empty
  forfeits : List Forfeit := []
  /-- After the shutdown no game is forfeited. -/
  isStopped : Bool := false
  wiring : Wiring := {}

namespace Hub

/-- The number of seats in a room. -/
def roomCapacity : Nat := 2

/-! ## Seats -/

/-- Tests whether a user could take a seat now. -/
def canRegister (h : Hub) (user : UserId) (room : RoomId) : Bool :=
  h.seats.contains room user || h.seats.scopeSize room < roomCapacity

/-- Tests whether a user has a seat. -/
def isRegistered (h : Hub) (room : RoomId) (user : UserId) : Bool := h.seats.contains room user

/-- Calls off the forfeit of a player. -/
def disarm (h : Hub) (room : RoomId) (user : UserId) : Hub :=
  { h with forfeits := h.forfeits.filter fun f => !(f.room == room && f.user == user) }

/-- Seats a connection; a user who is seated already changes to the new connection. -/
def register (h : Hub) (user : UserId) (room : RoomId) (connection : ConnectionId) : Except Failure Hub :=
  if h.canRegister user room then
    .ok ({ h with
      seats := h.seats.register room user connection
      userRooms := h.userRooms.register user room () }.disarm room user)
  else .error .roomFull

/-- The users seated in a room. -/
def peers (h : Hub) (room : RoomId) : List UserId := h.seats.members room

/-- The rooms in which a user is seated. -/
def roomsOf (h : Hub) (user : UserId) : List RoomId := h.userRooms.members user

/-- Takes a connection off its seat, and tells whether it had one. -/
def unseat (h : Hub) (room : RoomId) (user : UserId) (connection : ConnectionId) : Hub × Bool :=
  match h.seats.unregisterIf room user (· == connection) with
  | (seats, some _) => ({ h with seats, userRooms := (h.userRooms.unregister user room).1 }, true)
  | (_, none) => (h, false)

/-! ## Frames to the seated players -/

/-- Sends a frame to all seats of a room. -/
def deliver (h : Hub) (s : Shared) (room : RoomId) (frame : String) : Shared × Nat :=
  s.sendAll frame (h.seats.snapshot room)

/-- Sends an action to all seats of a room on this server. -/
def broadcast (h : Hub) (s : Shared) (room : RoomId) (action : Action) : Shared × Nat :=
  h.deliver s room action.text

/-- Sends an action to all seats of a room on all servers, or only here if the bus fails. -/
def fanOut (h : Hub) (s : Shared) (room : RoomId) (action : Action) : Shared :=
  match s.announce h.wiring.isLive (Channel.game room) action.text with
  | (s, true) => s
  | (s, false) => (h.deliver s room action.text).1

/-- Takes a message from the bus. -/
def receive (h : Hub) (s : Shared) (m : Bus.Message) : Shared :=
  match Channel.game? m.channel, Action.decode (Json.encodeUtf8 m.payload) with
  | some room, .ok action => (h.broadcast s room action).1
  | _, _ => s

/-- Takes what waits on the bus. -/
def pull (h : Hub) (s : Shared) : Shared := h.wiring.pull h.receive s

/-- Subscribes to the rooms, and counts the subscriptions. -/
def wire (h : Hub) (s : Shared) : Hub × Shared × Except Bus.BusFault Nat :=
  match h.wiring.connect s (Channel.allUnder Channel.gameStem) with
  | (s, .error fault) => (h, s, .error fault)
  | (s, .ok wiring) => ({ h with wiring }, s, .ok 1)

/-- Ends the subscriptions. -/
def unwire (h : Hub) (s : Shared) : Hub × Shared :=
  let (wiring, s) := h.wiring.disconnect s
  ({ h with wiring }, s)

/-! ## Rooms -/

/-- Creates a room. -/
def createRoom (s : Shared) (creator : UserId) (gameType : GameType) : Shared × Except Failure Room :=
  s.call (·.createRoom creator gameType)

/-- Loads a room that has to exist. -/
def room (s : Shared) (id : RoomId) : Shared × Except Failure Room :=
  match s.call (·.room id) with
  | (s, .error f) => (s, .error f)
  | (s, .ok none) => (s, .error (.roomNotFound id))
  | (s, .ok (some room)) => (s, .ok room)

/-- The rooms that wait for an opponent, the newest first. -/
def pendingRooms (s : Shared) (gameType : GameType) : Shared × Except Failure (List Room) :=
  s.call (·.pendingRooms gameType)

/-- The statistics of a player. -/
def stats (s : Shared) (user : UserId) (gameType : GameType) : Shared × Except Failure Stats :=
  s.call (·.stats user gameType)

/-- The action that tells the state of a room. -/
def stateAction (room : Room) : Action := .inRoom .gameState room.id room.statePayload

/-- The action that tells that a game has started. -/
def startedAction (room : Room) : Action := .inRoom .gameStarted room.id room.startedPayload

/-- The action that tells that a game has been forfeited. -/
def forfeitAction (room : Room) : Action :=
  .inRoom .gameState room.id (.object (Json.insertMember "forfeit" (.bool true) room.stateMembers))

/-- Seats a user as the opponent in a room that waits, and starts the game. -/
def joinRoom (h : Hub) (s : Shared) (id : RoomId) (user : UserId) : Shared × Except Failure Unit :=
  match room s id with
  | (s, .error f) => (s, .error f)
  | (s, .ok room) =>
    match room.join user with
    | (_, .error f) => (s, .error f)
    | (room, .ok ()) =>
      match s.call (·.updateRoom room .pending) with
      | (s, .error f) => (s, .error f)
      | (s, .ok false) => (s, .error .notJoinable)
      | (s, .ok true) =>
        (h.fanOut (h.fanOut s id (startedAction room)) id (stateAction room), .ok ())

/-- Carries out a move; `payload` is the move as it was sent. -/
def makeMove (h : Hub) (s : Shared) (id : RoomId) (user : UserId) (move : Move) (payload : Value) :
    Shared × Except Failure Unit :=
  match room s id with
  | (s, .error f) => (s, .error f)
  | (s, .ok room) =>
    match room.applyMove user move with
    | (_, .error f) => (s, .error f)
    | (room, .ok _) =>
      match s.call (·.commitMove room user payload.text room.finish? h.winPoints) with
      | (s, .error f) => (s, .error f)
      | (s, .ok none) => (s, .error .notYourTurn)
      | (s, .ok (some _)) => (h.fanOut s id { stateAction room with user := some user }, .ok ())

/-- Gives up a room whose creator has left before anyone joined. -/
def cancelPending (s : Shared) (id : RoomId) (creator : UserId) : Shared :=
  match room s id with
  | (s, .error _) => s
  | (s, .ok room) =>
    if room.status = .pending ∧ room.creator = creator then
      match room.cancel with
      | (_, .error _) => s
      | (room, .ok ()) => (s.call (·.updateRoom room .pending)).1
    else s

/-- Awards an active game to the other player, if a player is not seated here.  Tells whether it did. -/
def forfeitIfAbsent (h : Hub) (s : Shared) (id : RoomId) (user : UserId) : Shared × Except Failure Bool :=
  if h.isRegistered id user then (s, .ok false)
  else
    match room s id with
    | (s, .error f) => (s, .error f)
    | (s, .ok room) =>
      if room.status = .active ∧ room.isParticipant user then
        match room.forfeit user with
        | (_, .error f) => (s, .error f)
        | (room, .ok finish) =>
          match s.call (·.finishRoom room finish h.winPoints) with
          | (s, .error f) => (s, .error f)
          | (s, .ok false) => (s, .ok false)
          | (s, .ok true) => (h.fanOut s id (forfeitAction room), .ok true)
      else (s, .ok false)

/-! ## Leaving -/

/-- Arms the forfeit of a player, in place of one that was armed before. -/
def arm (h : Hub) (s : Shared) (room : RoomId) (user : UserId) : Hub × Shared :=
  if h.isStopped then (h, s)
  else
    let h := h.disarm room user
    ({ h with forfeits := h.forfeits ++ [⟨room, user, s.now + h.grace, s.armed⟩] },
      { s with armed := s.armed + 1 })

/-- What follows when a player has left a seat. -/
def afterLeaving (h : Hub) (s : Shared) (id : RoomId) (user : UserId) : Hub × Shared :=
  match s.call (·.room id) with
  | (s, .ok (some room)) =>
    if room.status = .pending ∧ room.creator = user then (h, cancelPending s id user)
    else if room.status = .active ∧ room.isParticipant user then h.arm s id user
    else (h, s)
  | (s, _) => (h, s)

/-- Takes a connection out of a room.  A connection that has been replaced changes nothing. -/
def unregister (h : Hub) (s : Shared) (id : RoomId) (connection : ConnectionId) : Hub × Shared :=
  let user := s.userOf connection
  match h.unseat id user connection with
  | (h, false) => (h, s)
  | (h, true) => h.afterLeaving s id user

/-- Carries out a forfeit that is due. -/
def fire (h : Hub) (s : Shared) (f : Forfeit) : Hub × Shared :=
  let h := { h with forfeits := h.forfeits.erase f }
  (h, (h.forfeitIfAbsent s f.room f.user).1)

/-- Takes leave of all players. -/
def shutdown (h : Hub) (s : Shared) : Hub × Shared × Nat :=
  let (seats, drained) := h.seats.drain
  ({ h with seats, userRooms := .empty, forfeits := [], isStopped := true },
    s.dismiss (drained.map fun (room, _, connection) => (connection, (Action.shutdown room).text)),
    drained.length)

/-! ## Frames from the players -/

/-- Carries out a command of a player. -/
def execute (h : Hub) (s : Shared) (room : RoomId) (user : UserId) (action : Action) :
    Command → Shared × Except Failure Unit
  | .joinRoom => h.joinRoom s room user
  | .makeMove move => h.makeMove s room user move action.payload
  | .chat _ => (h.fanOut s room action, .ok ())
  | .createRoom => (s, .error .createOverSocket)
  | .unknown _ => (s, .ok ())

/-- Carries out the command in an action, of which only an undecodable move is a failure. -/
def perform (h : Hub) (s : Shared) (room : RoomId) (user : UserId) (action : Action) :
    Shared × Except Failure Unit :=
  match Command.ofAction action with
  | .ok command => h.execute s room user action command
  | .error _ => (s, if action.kind = .makeMove then .error .invalidMoveFormat else .ok ())

/--
Takes a frame of a connection seated in a room.  The room and the user are those of the connection,
whatever the frame says.  A frame that is no action is dropped, and a failure is told to the sender.
-/
def handle (h : Hub) (s : Shared) (room : RoomId) (connection : ConnectionId) (frame : Bytes) : Shared :=
  match Action.decode frame with
  | .error _ => s
  | .ok action =>
    let user := s.userOf connection
    match h.perform s room user { action with room := some room, user := some user } with
    | (s, .ok ()) => s
    | (s, .error failure) => s.post connection (Action.error room failure.clientMessage).text

end Hub

end Parlor.Game
