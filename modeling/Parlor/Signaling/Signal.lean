import Parlor.Envelope

/-!
# Signals

The envelope of signaling sockets and of the call channels of the bus, its JSON form, and the
commands that a socket may send.  The payloads of offers, answers and candidates are opaque.
-/

namespace Parlor.Signaling

open Json

/-- What a signal is about. -/
inductive Kind where
  | join
  | leave
  | offer
  | answer
  | iceCandidate
  | roomUsers
  | userJoined
  | userLeft
  | error
  | serverShutdown
  /-- A kind that this server does not know. -/
  | other (name : String)
  deriving DecidableEq, Repr

namespace Kind

/-- The name of a kind on the wire. -/
def name : Kind → String
  | .join => "join"
  | .leave => "leave"
  | .offer => "offer"
  | .answer => "answer"
  | .iceCandidate => "ice-candidate"
  | .roomUsers => "room_users"
  | .userJoined => "user_joined"
  | .userLeft => "user_left"
  | .error => "error"
  | .serverShutdown => "server_shutdown"
  | .other name => name

/-- The kinds that have a meaning. -/
def known : List Kind :=
  [.join, .leave, .offer, .answer, .iceCandidate, .roomUsers, .userJoined, .userLeft, .error,
   .serverShutdown]

/-- The kind of a name on the wire. -/
def ofName (name : String) : Kind :=
  (known.find? (·.name == name)).getD (.other name)

/-- Tests for a kind that has a meaning. -/
def isKnown : Kind → Bool
  | .other _ => false
  | _ => true

/-- Tests for the kinds that go to a single peer. -/
def isRelayed : Kind → Bool
  | .offer | .answer | .iceCandidate => true
  | _ => false

end Kind

/-- A signal between the peers of a room. -/
structure Signal where
  kind : Kind
  room : Option String := none
  user : Option UserId := none
  target : Option UserId := none
  username : Option String := none
  payload : Option Value := none

/-- A peer as the others of its room see it. -/
structure PeerSummary where
  user : UserId
  username : String
  deriving DecidableEq, Repr

/-- The JSON form of a peer. -/
def PeerSummary.toJson (p : PeerSummary) : Value :=
  .object [("user_id", .word p.user), ("username", .string p.username)]

namespace Signal

/-- The fields of a signal in their declared order. -/
def fields : List (RecordField Signal) :=
  [Envelope.kindField fun name s => { s with kind := .ofName name },
   Envelope.textField "room_id" fun room s => { s with room := room },
   Envelope.wordField "user_id" fun id s => { s with user := id },
   Envelope.wordField "target_id" fun id s => { s with target := id },
   Envelope.textField "username" fun name s => { s with username := name },
   .of "payload" false (readOptional (readValue Envelope.payloadDepth))
     fun v s => { s with payload := v }]

/-- Decodes a signal. -/
def decode (bs : Bytes) : Except Fault Signal :=
  readWhole (readRecord fields { kind := .other "" }) bs

/-- The JSON form of a signal. -/
def toJson (s : Signal) : Value :=
  .object (("type", .string s.kind.name) :: Envelope.textMember "room_id" s.room
    ++ Envelope.wordMember "user_id" s.user ++ Envelope.wordMember "target_id" s.target
    ++ Envelope.textMember "username" s.username
    ++ (s.payload.map fun v => ("payload", v)).toList)

/-- The text of a signal on the wire. -/
def text (s : Signal) : String := s.toJson.text

/-- A signal of the server itself in a room. -/
def inRoom (kind : Kind) (room : String) : Signal := { kind, room := some room }

/-- Tells a joiner which peers the room already has. -/
def roomUsers (room : String) (peers : List PeerSummary) : Signal :=
  { inRoom .roomUsers room with
    payload := some (.object [("users", .array (peers.map (·.toJson)))]) }

/-- Tells the peers of a room that a user has joined them. -/
def userJoined (room : String) (user : UserId) (username : String) : Signal :=
  { inRoom .userJoined room with user := some user, username := some username }

/-- Tells the peers of a room that a user has left them. -/
def userLeft (room : String) (user : UserId) : Signal :=
  { inRoom .userLeft room with user := some user }

/-- Tells a peer that something went wrong. -/
def error (room message : String) : Signal :=
  { inRoom .error room with payload := some (Envelope.notice message) }

/-- Announces to a room that the server goes away. -/
def shutdown (room : String) : Signal := inRoom .serverShutdown room

end Signal

/-- What a signaling socket asks for. -/
inductive Command where
  | join (username : Option String)
  | leave
  | relay (target : UserId) (signal : Signal)
  | unknown (kind : String)

/-- The command in a signal. -/
def Command.ofSignal (s : Signal) : Except CommandFault Command :=
  if s.kind.isRelayed then
    match s.target with
    | some target => .ok (.relay target s)
    | none => .error (.missingField "target_id")
  else
    match s.kind with
    | .join => .ok (.join s.username)
    | .leave => .ok .leave
    | kind => .ok (.unknown kind.name)

end Parlor.Signaling
