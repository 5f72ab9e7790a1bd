import Parlor.Game.Status
import Parlor.Id

/-!
# Failures of operations

Every way in which an operation on rooms or sockets can fail, and what the client is told.
-/

namespace Parlor

/--
A failure of the storage: the texts that describe it, from the cause outwards.  A text is missing
where the database alone knows the words.
-/
structure StorageFault where
  cause : Option String
  contexts : List (Option String) := []
  deriving DecidableEq, Repr

namespace StorageFault

/-- The outermost text, if it is known. -/
def outermost (f : StorageFault) : Option String := f.contexts.getLast?.getD f.cause

/-- A failure whose cause is told in words of this library. -/
def told (cause : String) : StorageFault := { cause := some cause }

/-- All known texts from the outermost one to the cause. -/
def fullText (f : StorageFault) : String :=
  ": ".intercalate ((f.cause :: f.contexts).reverse.filterMap id)

end StorageFault

/-- Why an operation fails. -/
inductive Failure where
  | roomFull
  | peerLimit (room : String) (max : Nat)
  | roomNotFound (room : RoomId)
  | notJoinable
  | creatorCannotJoin
  | notYourTurn
  | invalidMove
  | invalidMoveFormat
  | notParticipant
  | createOverSocket
  | invalidTransition (before after : Game.Status)
  | unsupportedGame (name : String)
  | storage (fault : StorageFault)
  deriving DecidableEq, Repr

namespace Failure

/-- The name of the kind of failure. -/
def name : Failure → String
  | .roomFull => "RoomFull"
  | .peerLimit _ _ => "PeerLimit"
  | .roomNotFound _ => "RoomNotFound"
  | .notJoinable => "NotJoinable"
  | .creatorCannotJoin => "CreatorCannotJoin"
  | .notYourTurn => "NotYourTurn"
  | .invalidMove => "InvalidMove"
  | .invalidMoveFormat => "InvalidMoveFormat"
  | .notParticipant => "NotParticipant"
  | .createOverSocket => "CreateOverSocket"
  | .invalidTransition _ _ => "InvalidTransition"
  | .unsupportedGame _ => "UnsupportedGame"
  | .storage _ => "Storage"

/-- The failure of a name, if nothing else is known about such failures. -/
def ofName? (name : String) : Option Failure :=
  [roomFull, notJoinable, creatorCannotJoin, notYourTurn, invalidMove, invalidMoveFormat, notParticipant,
   createOverSocket].find? (·.name = name)

/-- The wording for the name of a game that cannot be played. -/
def unsupportedMessage (name : String) : String := "unsupported game type: " ++ name

/-- The wording of a failure, where the words are known. -/
def message? : Failure → Option String
  | .roomFull => some "game room is full"
  | .peerLimit room max => some ("room " ++ room ++ " already holds " ++ toString max ++ " peers")
  | .roomNotFound _ => some "Game room not found"
  | .notJoinable => some "Game already started or finished"
  | .creatorCannotJoin => some "You are the creator"
  | .notYourTurn => some "Not your turn"
  | .invalidMove => some "Invalid move location"
  | .invalidMoveFormat => some "Invalid move format"
  | .notParticipant => some "You are not a participant of this room"
  | .createOverSocket => some "Rooms are created before connecting"
  | .invalidTransition before after =>
    some ("illegal status transition from " ++ before.name ++ " to " ++ after.name)
  | .unsupportedGame name => some (unsupportedMessage name)
  | .storage fault => fault.outermost.map ("storage error: " ++ ·)

/-- What a client is told of a failure of the storage. -/
def retryMessage : String := "Internal error, please retry"

/-- What a client is told.  Failures of the storage are not described. -/
def clientMessage (f : Failure) : String :=
  match f with
  | .storage _ => retryMessage
  | f => f.message?.getD ""

/-- Tests for a failure that the caller has caused, and not the server. -/
def isClientError : Failure → Bool
  | .storage _ | .invalidTransition _ _ => false
  | _ => true

end Failure

end Parlor
