import Parlor.Game.Move

/-!
# Game actions

The envelope of game sockets and of the room channels of the bus, its JSON form, and the commands
that a socket may send.
-/

namespace Parlor.Game

open Json

/-- What a game action is about. -/
inductive ActionKind where
  | createRoom
  | joinRoom
  | makeMove
  | chat
  | gameStarted
  | gameState
  | error
  | serverShutdown
  /-- A kind that this server does not know. -/
  | other (name : String)
  deriving DecidableEq, Repr

namespace ActionKind

/-- The name of a kind on the wire. -/
def name : ActionKind → String
  | .createRoom => "create_room"
  | .joinRoom => "join_room"
  | .makeMove => "make_move"
  | .chat => "chat"
  | .gameStarted => "game_started"
  | .gameState => "game_state"
  | .error => "error"
  | .serverShutdown => "server_shutdown"
  | .other name => name

/-- The kinds that have a meaning. -/
def known : List ActionKind :=
  [.createRoom, .joinRoom, .makeMove, .chat, .gameStarted, .gameState, .error, .serverShutdown]

/-- The kind of a name on the wire. -/
def ofName (name : String) : ActionKind :=
  (known.find? (·.name == name)).getD (.other name)

/-- Tests for a kind that has a meaning. -/
def isKnown : ActionKind → Bool
  | .other _ => false
  | _ => true

end ActionKind

/-- An action sent over a game socket or a room channel. -/
structure Action where
  kind : ActionKind
  room : Option RoomId := none
  user : Option UserId := none
  payload : Value := .null

namespace Action

/-- The fields of an action in their declared order. -/
def fields : List (RecordField Action) :=
  [Envelope.kindField fun name a => { a with kind := .ofName name },
   Envelope.wordField "room_id" fun id a => { a with room := id },
   Envelope.wordField "user_id" fun id a => { a with user := id },
   .of "payload" false (readValue Envelope.payloadDepth) fun v a => { a with payload := v }]

/-- Decodes an action. -/
def decode (bs : Bytes) : Except Fault Action :=
  readWhole (readRecord fields { kind := .other "" }) bs

/-- The JSON form of an action. -/
def toJson (a : Action) : Value :=
  .object (("type", .string a.kind.name) :: Envelope.wordMember "room_id" a.room
    ++ Envelope.wordMember "user_id" a.user ++ [("payload", a.payload)])

/-- The text of an action on the wire. -/
def text (a : Action) : String := a.toJson.text

/-- An action of the server itself in a room. -/
def inRoom (kind : ActionKind) (room : RoomId) (payload : Value) : Action :=
  { kind, room := some room, payload }

/-- Tells a player that something went wrong. -/
def error (room : RoomId) (message : String) : Action :=
  inRoom .error room (Envelope.notice message)

/-- Announces to a room that the server goes away. -/
def shutdown (room : RoomId) : Action :=
  inRoom .serverShutdown room (Envelope.notice Envelope.shutdownMessage)

end Action

/-- What a game socket asks for. -/
inductive Command where
  | createRoom
  | joinRoom
  | makeMove (move : Move)
  | chat (payload : Value)
  /-- An action that only the server sends, or none at all. -/
  | unknown (kind : String)

/-- The command in an action. -/
def Command.ofAction (a : Action) : Except CommandFault Command :=
  match a.kind with
  | .createRoom => .ok .createRoom
  | .joinRoom => .ok .joinRoom
  | .makeMove =>
    match Move.ofValue a.payload with
    | .ok move => .ok (.makeMove move)
    | .error fault => .error (.invalidPayload a.kind.name fault.message)
  | .chat => .ok (.chat a.payload)
  | kind => .ok (.unknown kind.name)

end Parlor.Game
