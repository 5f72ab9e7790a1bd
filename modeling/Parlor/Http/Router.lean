import Parlor.Http.Request
import Parlor.Program
import Parlor.Server

/-!
# Routes

What can be asked for over HTTP, and the answers.  A request is refused for the first of these
reasons that it gives: an unknown path, a wrong method, an unknown caller, what is wrong with its
path, query or body, and what the hubs find wrong.
-/

namespace Parlor.Http

open Json (Bytes Value)

/-- The answer to a request. -/
inductive Reply where
  /-- A status without anything said. -/
  | bare (status : Nat)
  /-- A status with a JSON text. -/
  | json (status : Nat) (body : String)
  /-- A websocket of a user. -/
  | upgrade (user : UserId) (role : Role)
  deriving DecidableEq, Repr

namespace Reply

/-- The answer that tells a problem. -/
def ofProblem (p : Problem) : Reply := .json p.kind.status p.body

/-- The answer that tells the failure of an operation. -/
def ofFailure (f : Failure) : Reply := ofProblem (.ofFailure f)

/-- The status of an answer. -/
def status : Reply → Nat
  | .bare status => status
  | .json status _ => status
  | .upgrade _ _ => 101

/-- An answer of which only the headers are asked for. -/
def headersOnly : Reply → Reply
  | .json status _ => .json status ""
  | reply => reply

/-- The answer of an operation with a result. -/
def ofResult {α : Type} (encode : α → Reply) : Except Failure α → Reply
  | .ok a => encode a
  | .error f => ofFailure f

end Reply

/-- What can be asked for.  The parts of a path that vary are kept as they are written. -/
inductive Route where
  | health
  | chatSocket
  | gameSocket
  | callSocket
  | rooms
  | room (id : String)
  | pendingRooms (gameType : String)
  | stats (gameType : String)
  deriving DecidableEq, Repr

namespace Route

/-- The route of a path. -/
def ofPath? (path : String) : Option Route :=
  match Text.splitText '/' path with
  | ["", "health"] => some .health
  | ["", "ws", "chat"] => some .chatSocket
  | ["", "ws", "game"] => some .gameSocket
  | ["", "ws", "videochat"] => some .callSocket
  | ["", "games", "rooms"] => some .rooms
  | ["", "games", "rooms", id] => if id.isEmpty then none else some (.room id)
  | ["", "games", "rooms", "pending", gameType] =>
    if gameType.isEmpty then none else some (.pendingRooms gameType)
  | ["", "games", "stats", gameType] => if gameType.isEmpty then none else some (.stats gameType)
  | _ => none

/-- Tests for a method of a route.  Where something can be got, its headers alone can be got too. -/
def allows (route : Route) (method : String) : Bool :=
  match route with
  | .rooms => method == "POST"
  | _ => method == "GET" || method == "HEAD"

end Route

/-! ## Rooms of games -/

/-- The text that describes the state of a server. -/
def healthText (v : Server) : String :=
  (Value.object
    [("status", .string "ok"), ("version", .string Program.version),
     ("chat_connections", .nat v.chat.connectionCount),
     ("online_users", .nat v.chat.onlineUsers.length)]).text

/-- The greatest number of bytes in a body. -/
def maxBodySize : Nat := 2097152

/-- Reads the name of a game out of the body of a request for a room. -/
def readGameName (body : Bytes) : Except Json.Fault String :=
  Json.readWhole
    (Json.readRecord [.of "game_type" false Json.readText fun name _ => name] Game.GameType.ticTacToe.name)
    body

/-- The game of a name. -/
def gameNamed (name : String) : Except Failure Game.GameType :=
  match Game.GameType.ofName? name with
  | some gameType => .ok gameType
  | none => .error (.unsupportedGame name)

/-- Answers a question about a game whose name is part of the path. -/
def answerAbout (s : Shared) (segment : String)
    (answer : Game.GameType → Shared × Reply) : Shared × Reply :=
  match decodeSegment? segment with
  | none => (s, .bare 400)
  | some name =>
    match gameNamed name with
    | .error f => (s, .ofFailure f)
    | .ok gameType => answer gameType

/-- Creates a room. -/
def createRoom (s : Shared) (r : Request) (user : UserId) : Shared × Reply :=
  if !r.hasJsonBody then (s, .bare 415)
  else if maxBodySize < r.body.length then (s, .bare 413)
  else
    match readGameName r.body with
    | .error .mistyped => (s, .bare 422)
    | .error _ => (s, .bare 400)
    | .ok name =>
      match gameNamed name with
      | .error f => (s, .ofFailure f)
      | .ok gameType =>
        let (s, result) := Game.Hub.createRoom s user gameType
        (s, .ofResult (fun room => .json 201 room.text) result)

/-- Tells about a room. -/
def showRoom (s : Shared) (segment : String) : Shared × Reply :=
  match (decodeSegment? segment).bind Text.parseWord? with
  | none => (s, .bare 400)
  | some id =>
    let (s, result) := Game.Hub.room s id
    (s, .ofResult (fun room => .json 200 room.text) result)

/-- Lists the rooms that wait for an opponent. -/
def listPending (s : Shared) (gameType : Game.GameType) : Shared × Reply :=
  let (s, result) := Game.Hub.pendingRooms s gameType
  (s, .ofResult (fun rooms => .json 200 (Value.array (rooms.map Game.Room.toJson)).text) result)

/-- Tells about the games that a player has played. -/
def showStats (s : Shared) (user : UserId) (gameType : Game.GameType) : Shared × Reply :=
  let (s, result) := Game.Hub.stats s user gameType
  (s, .ofResult (fun stats => .json 200 stats.text) result)

/-! ## Websockets -/

/-- The problem of a query without a room. -/
def missingRoom : Problem := ⟨.badRequest, "room_id is required"⟩

/-- The problem of a room without a free seat. -/
def fullRoom : Problem := ⟨.conflict, "game room is full"⟩

/-- Answers with a websocket if one can be made, and otherwise with the status of the refusal. -/
def upgradeOr (r : Request) (s : Shared) (next : Shared × Reply) : Shared × Reply :=
  match r.upgradeRefusal? with
  | some status => (s, .bare status)
  | none => next

/-- The room that a query for a game names, none if the query is malformed. -/
def gameQuery? (query : String) : Option (Option RoomId) := do
  match ← queryValue? "room_id" (queryFields query) with
  | none => some none
  | some value => some (some (← Text.parseWord? value))

/-- Opens a websocket for a game. -/
def openGame (v : Server) (s : Shared) (r : Request) (user : UserId) : Shared × Reply :=
  match gameQuery? r.query with
  | none => (s, .bare 400)
  | some room? =>
    upgradeOr r s <|
      match room? with
      | none => (s, .ofProblem missingRoom)
      | some room =>
        match Game.Hub.room s room with
        | (s, .error f) => (s, .ofFailure f)
        | (s, .ok _) =>
          (s, if v.games.canRegister user room then .upgrade user (.game room) else .ofProblem fullRoom)

/-- A text with something in it besides white space. -/
def given? (value : Option String) : Option String := value.filter fun text => Text.trim text ≠ ""

/-- The name of a user who has given none. -/
def defaultName (user : UserId) : String := "user-" ++ Text.wordText user

/-- Opens a websocket for a call. -/
def openCall (s : Shared) (r : Request) (user : UserId) : Shared × Reply :=
  let fields := queryFields r.query
  match queryValue? "room_id" fields, queryValue? "username" fields with
  | some room, some name =>
    upgradeOr r s
      (s, match given? room with
        | none => .ofProblem missingRoom
        | some room => .upgrade user (.call room ((given? name).getD (defaultName user))))
  | _, _ => (s, .bare 400)

/-! ## All routes -/

/-- Answers a request of a known caller. -/
def answerUser (v : Server) (s : Shared) (r : Request) (user : UserId) : Route → Shared × Reply
  | .health => (s, .json 200 (healthText v))
  | .chatSocket => upgradeOr r s (s, .upgrade user .chat)
  | .gameSocket => openGame v s r user
  | .callSocket => openCall s r user
  | .rooms => createRoom s r user
  | .room segment => showRoom s segment
  | .pendingRooms segment => answerAbout s segment (listPending s)
  | .stats segment => answerAbout s segment (showStats s user)

/-- Answers a request for a route. -/
def answerRoute (v : Server) (s : Shared) (r : Request) (route : Route) : Shared × Reply :=
  match route, r.user with
  | .health, _ => (s, .json 200 (healthText v))
  | _, .error p => (s, .ofProblem p)
  | route, .ok user => answerUser v s r user route

/-- Answers a request. -/
def answer (v : Server) (s : Shared) (r : Request) : Shared × Reply :=
  match Route.ofPath? r.path with
  | none => (s, .bare 404)
  | some route =>
    if route.allows r.method then
      let (s, reply) := answerRoute v s r route
      (s, if r.method = "HEAD" then reply.headersOnly else reply)
    else (s, .bare 405)

end Parlor.Http
