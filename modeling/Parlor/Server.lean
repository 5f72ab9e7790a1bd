import Parlor.Chat.Hub
import Parlor.Game.Hub
import Parlor.Signaling.Hub

/-!
# A server

A server holds one hub of each kind.  A socket speaks to one of them, in a role that is fixed when
the socket is opened.
-/

namespace Parlor

open Json (Bytes)

/-- The hubs of one server. -/
structure Server where
  chat : Chat.Hub
  games : Game.Hub
  calls : Signaling.Hub

/-- What a socket is opened for. -/
inductive Role where
  | chat
  | game (room : RoomId)
  /-- A call in a room, under a name. -/
  | call (room name : String)
  deriving DecidableEq, Repr

namespace Server

/-! ## Sockets -/

/-- Takes a new connection in.  One that finds no place is told so and closed. -/
def register (v : Server) (s : Shared) (role : Role) (connection : ConnectionId) : Server × Shared :=
  let user := s.userOf connection
  match role with
  | .chat => ({ v with chat := v.chat.register user connection }, s)
  | .game room =>
    match v.games.register user room connection with
    | .ok games => ({ v with games }, s)
    | .error failure =>
      (v, (s.post connection (Game.Action.error room failure.clientMessage).text).close connection)
  | .call room name =>
    match v.calls.join s room user name connection with
    | (calls, s, .ok ()) => ({ v with calls }, s)
    | (calls, s, .error _) => ({ v with calls }, s.close connection)

/-- Takes a frame of a connection. -/
def handle (v : Server) (s : Shared) (role : Role) (connection : ConnectionId) (frame : Bytes) :
    Server × Shared :=
  match role with
  | .chat =>
    let (chat, s) := v.chat.handle s connection frame
    ({ v with chat }, s)
  | .game room => (v, v.games.handle s room connection frame)
  | .call room name =>
    let (calls, s) := v.calls.handle s room name connection frame
    ({ v with calls }, s)

/-- Takes a connection out. -/
def unregister (v : Server) (s : Shared) (role : Role) (connection : ConnectionId) : Server × Shared :=
  match role with
  | .chat => ({ v with chat := v.chat.unregister (s.userOf connection) connection }, s)
  | .game room =>
    let (games, s) := v.games.unregister s room connection
    ({ v with games }, s)
  | .call _ _ =>
    let (calls, s) := v.calls.unregister s connection
    ({ v with calls }, s)

/-! ## The bus -/

/-- What each hub answers when it is wired: the number of its subscriptions, or why it has none. -/
structure WiringReport where
  chat : Except Bus.BusFault Nat
  games : Except Bus.BusFault Nat
  calls : Except Bus.BusFault Nat

/-- Wires all hubs. -/
def wire (v : Server) (s : Shared) : Server × Shared × WiringReport :=
  let (chat, s, first) := v.chat.wire s
  let (games, s, second) := v.games.wire s
  let (calls, s, third) := v.calls.wire s
  ({ chat, games, calls }, s, ⟨first, second, third⟩)

/-- Ends the wiring of all hubs. -/
def unwire (v : Server) (s : Shared) : Server × Shared :=
  let (chat, s) := v.chat.unwire s
  let (games, s) := v.games.unwire s
  let (calls, s) := v.calls.unwire s
  ({ chat, games, calls }, s)

/-- Takes what waits on the bus. -/
def pull (v : Server) (s : Shared) : Shared := v.calls.pull (v.games.pull (v.chat.pull s))

end Server

end Parlor
