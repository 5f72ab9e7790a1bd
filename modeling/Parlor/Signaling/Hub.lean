import Parlor.Registry
import Parlor.Shared
import Parlor.Signaling.Signal

/-!
# The signaling hub

Keeps the peers of every call, tells them who comes and goes, and relays their signals to each other:
through the bus if the hub is wired, and directly otherwise.
-/

namespace Parlor.Signaling

open Json (Bytes)

/-- A user in a call. -/
structure Peer where
  name : String
  connection : ConnectionId
  deriving DecidableEq, Repr

/-- The calls of one server. -/
structure Hub where
  maxPeers : Nat
  rooms : Registry String UserId Peer := .empty
  wiring : Wiring := {}

namespace Hub

/-- A hub whose rooms hold `maxPeers` peers, and at least one. -/
def new (maxPeers : Nat) : Hub := { maxPeers := max maxPeers 1 }

/-- The peers of a room ordered by their users. -/
def peers (h : Hub) (room : String) : List PeerSummary :=
  ((h.rooms.membersOf room).map fun (user, peer) => (⟨user, peer.name⟩ : PeerSummary)).mergeSort
    fun a b => a.user ≤ b.user

/-! ## Delivery -/

/-- The connections of a room, without that of one user. -/
def audience (h : Hub) (room : String) (excluded : Option UserId) : List ConnectionId :=
  ((h.rooms.membersOf room).filter fun (user, _) => some user != excluded).map (·.2.connection)

/-- Sends a signal to the peers of a room on this server except one, and counts who has taken it. -/
def broadcast (h : Hub) (s : Shared) (room : String) (signal : Signal) (excluded : Option UserId) :
    Shared × Nat :=
  s.sendAll signal.text (h.audience room excluded)

/-- Tells the peers of a room on all servers, or only here if the bus fails, about one of them. -/
def fanOut (h : Hub) (s : Shared) (room : String) (signal : Signal) : Shared :=
  match s.announce h.wiring.isLive (Channel.call room) signal.text with
  | (s, true) => s
  | (s, false) => (h.broadcast s room signal signal.user).1

/-- Sends a signal to one peer on this server, and tells whether it is there. -/
def deliver (h : Hub) (s : Shared) (room : String) (target : UserId) (signal : Signal) : Shared × Bool :=
  match h.rooms.get? room target with
  | some peer => (s.post peer.connection signal.text, true)
  | none => (s, false)

/-- Sends a signal to one peer, who is looked for on the other servers if not on this one. -/
def relay (h : Hub) (s : Shared) (room : String) (sender target : UserId) (signal : Signal) : Shared :=
  let signal := { signal with room := some room, user := some sender, target := some target }
  match h.deliver s room target signal with
  | (s, true) => s
  | (s, false) => (s.announce h.wiring.isLive (Channel.call room) signal.text).1

/-- Takes a message from the bus. -/
def receive (h : Hub) (s : Shared) (m : Bus.Message) : Shared :=
  match Channel.call? m.channel, Signal.decode (Json.encodeUtf8 m.payload) with
  | some room, .ok signal =>
    match signal.target with
    | some target => (h.deliver s room target signal).1
    | none => (h.broadcast s room signal signal.user).1
  | _, _ => s

/-- Takes what waits on the bus. -/
def pull (h : Hub) (s : Shared) : Shared := h.wiring.pull h.receive s

/-- Subscribes to the rooms, and counts the subscriptions. -/
def wire (h : Hub) (s : Shared) : Hub × Shared × Except Bus.BusFault Nat :=
  match h.wiring.connect s (Channel.allUnder Channel.callStem) with
  | (s, .error fault) => (h, s, .error fault)
  | (s, .ok wiring) => ({ h with wiring }, s, .ok 1)

/-- Ends the subscriptions. -/
def unwire (h : Hub) (s : Shared) : Hub × Shared :=
  let (wiring, s) := h.wiring.disconnect s
  ({ h with wiring }, s)

/-! ## Coming and going -/

/--
Takes a connection into a room.  The joiner is told who is there, and the others are told about the
joiner; in a full room the joiner is told so.
-/
def join (h : Hub) (s : Shared) (room : String) (user : UserId) (name : String)
    (connection : ConnectionId) : Hub × Shared × Except Failure Unit :=
  if !h.rooms.contains room user && h.maxPeers ≤ h.rooms.scopeSize room then
    let failure := Failure.peerLimit room h.maxPeers
    (h, s.post connection (Signal.error room failure.clientMessage).text, .error failure)
  else
    let others := (h.peers room).filter (·.user != user)
    let h := { h with rooms := h.rooms.register room user { name, connection } }
    let s := s.post connection (Signal.roomUsers room others).text
    (h, h.fanOut s room (.userJoined room user name), .ok ())

/-- Takes a user out of a room if the connection satisfies a condition, and tells the others. -/
def remove (h : Hub) (s : Shared) (room : String) (user : UserId) (condition : ConnectionId → Bool) :
    Hub × Shared :=
  match h.rooms.unregisterIf room user fun peer => condition peer.connection with
  | (_, none) => (h, s)
  | (rooms, some _) =>
    let h := { h with rooms }
    (h, h.fanOut s room (.userLeft room user))

/-- Takes a user out of a room, whatever the connection. -/
def leave (h : Hub) (s : Shared) (room : String) (user : UserId) : Hub × Shared :=
  h.remove s room user fun _ => true

/-- The rooms in which a user is present by a connection. -/
def roomsOf (h : Hub) (user : UserId) (connection : ConnectionId) : List String :=
  (h.rooms.entries.filter fun (_, u, peer) => u == user && peer.connection == connection).map (·.1)

/-- Takes a connection out of all its rooms. -/
def unregister (h : Hub) (s : Shared) (connection : ConnectionId) : Hub × Shared :=
  let user := s.userOf connection
  (h.roomsOf user connection).foldl
    (fun (h, s) room => h.remove s room user (· == connection)) (h, s)

/-- Takes leave of all peers. -/
def shutdown (h : Hub) (s : Shared) : Hub × Shared × Nat :=
  let (rooms, drained) := h.rooms.drain
  ({ h with rooms },
    s.dismiss (drained.map fun (room, _, peer) => (peer.connection, (Signal.shutdown room).text)),
    drained.length)

/-! ## Frames from the peers -/

/-- Carries out a command of a user in a room, whose name is `name` if the command has none. -/
def execute (h : Hub) (s : Shared) (room : String) (name : String) (connection : ConnectionId)
    (user : UserId) : Command → Hub × Shared
  | .join given =>
    let (h, s, _) := h.join s room user (given.getD name) connection
    (h, s)
  | .leave => h.leave s room user
  | .relay target signal => (h, h.relay s room user target signal)
  | .unknown _ => (h, s)

/-- Takes a frame of a connection in a room.  A frame that is no command is dropped. -/
def handle (h : Hub) (s : Shared) (room : String) (name : String) (connection : ConnectionId)
    (frame : Bytes) : Hub × Shared :=
  match Signal.decode frame with
  | .error _ => (h, s)
  | .ok signal =>
    match Command.ofSignal signal with
    | .error _ => (h, s)
    | .ok command => h.execute s room name connection (s.userOf connection) command

end Hub

end Parlor.Signaling
