import Parlor.Bus.Memory
import Parlor.Connection
import Parlor.Game.Storage

/-!
# What the servers share

The clock, the bus, the storage of games, and all connections.  Operations of the hubs take this state
and give it back.
-/

namespace Parlor

open Text (Nanos)

/-- What the hubs of all servers share. -/
structure Shared where
  now : Nanos := 0
  /-- The present time as it is written into notices. -/
  timestamp : String
  /-- How long a message may take to be published. -/
  patience : Nanos
  bus : Bus.MemoryBus
  storage : Game.Storage
  connections : Table ConnectionId Connection := []
  /-- The number of timers that have been armed. -/
  armed : Nat := 0

namespace Shared

/-- The connection of a name. -/
def connection? (s : Shared) (id : ConnectionId) : Option Connection := s.connections.get? id

/-- The user of a connection. -/
def userOf (s : Shared) (id : ConnectionId) : UserId := ((s.connection? id).map (·.user)).getD 0

/-- Takes a new connection of a user in. -/
def connect (s : Shared) (user : UserId) (capacity : Nat) : Shared × ConnectionId :=
  let id := s.connections.length
  ({ s with connections := s.connections.insert id (Connection.new user capacity) }, id)

/-- Changes a connection. -/
def modifyConnection (s : Shared) (id : ConnectionId) (change : Connection → Connection) : Shared :=
  { s with connections := s.connections.modify id change }

/-- Puts a frame into the queue of a connection. -/
def send (s : Shared) (id : ConnectionId) (frame : String) : Shared × SendOutcome :=
  match s.connection? id with
  | none => (s, .closed)
  | some c =>
    let (c, outcome) := c.send frame
    ({ s with connections := s.connections.insert id c }, outcome)

/-- Puts a frame into the queue of a connection, whatever becomes of it. -/
def post (s : Shared) (id : ConnectionId) (frame : String) : Shared := (s.send id frame).1

/-- Puts a frame into the queues of connections, and counts those that have taken it. -/
def sendAll (s : Shared) (frame : String) : List ConnectionId → Shared × Nat
  | [] => (s, 0)
  | id :: rest =>
    let (s, outcome) := s.send id frame
    let (s, count) := sendAll s frame rest
    (s, if outcome = .queued then count + 1 else count)

/-- Closes the queue of a connection. -/
def close (s : Shared) (id : ConnectionId) : Shared := s.modifyConnection id fun c => c.close.1

/-- Sends a last frame to connections, each with a frame of its own, and closes their queues. -/
def dismiss (s : Shared) (farewells : List (ConnectionId × String)) : Shared :=
  farewells.foldl (fun s (id, frame) => (s.post id frame).close id) s

/-- Publishes a message, and tells whether the bus has taken it.  A bus that does not answer takes time. -/
def publish (s : Shared) (channel payload : String) : Shared × Except Bus.BusFault Unit :=
  let (bus, result) := s.bus.publish s.patience ⟨channel, payload⟩
  let now := if s.bus.mode = .stalled then s.now + s.patience else s.now
  ({ s with bus, now }, result)

/--
Publishes a message if there is somebody who takes it from the bus, and tells whether this has
succeeded.
-/
def announce (s : Shared) (wired : Bool) (channel payload : String) : Shared × Bool :=
  if wired then
    let (s, result) := s.publish channel payload
    (s, match result with
      | .ok () => true
      | .error _ => false)
  else (s, false)

/-- Changes the storage by a call, whose fault becomes a failure. -/
def call {α : Type} (s : Shared) (request : Game.Storage → Game.Storage × Except StorageFault α) :
    Shared × Except Failure α :=
  let (storage, result) := request s.storage
  ({ s with storage }, result.mapError Failure.storage)

end Shared

/-- The subscriptions of a hub, and whether it takes its own messages from the bus. -/
structure Wiring where
  subscriptions : List Bus.SubscriptionId := []
  isLive : Bool := false
  deriving DecidableEq, Repr

namespace Wiring

/-- Subscribes to a pattern.  A subscription that ends at once leaves the hub unwired. -/
def connect (w : Wiring) (s : Shared) (pattern : String) : Shared × Except Bus.BusFault Wiring :=
  match s.bus.subscribe pattern with
  | (bus, .ok (some id)) =>
    ({ s with bus }, .ok { subscriptions := w.subscriptions ++ [id], isLive := true })
  | (bus, .ok none) => ({ s with bus }, .ok { w with isLive := false })
  | (bus, .error fault) => ({ s with bus }, .error fault)

/-- Ends all subscriptions. -/
def disconnect (w : Wiring) (s : Shared) : Wiring × Shared :=
  ({}, { s with bus := w.subscriptions.foldl (fun bus id => bus.cancel id) s.bus })

/-- Takes all messages that wait in the subscriptions, one subscription after the other. -/
def collect (s : Shared) : List Bus.SubscriptionId → Shared × List Bus.Message
  | [] => (s, [])
  | id :: rest =>
    let (bus, first) := s.bus.read id
    let (s, others) := collect { s with bus } rest
    (s, first ++ others)

/-- Takes all messages that wait, and hands them on in their order. -/
def pull (w : Wiring) (receive : Shared → Bus.Message → Shared) (s : Shared) : Shared :=
  let (s, messages) := collect s w.subscriptions
  messages.foldl receive s

end Wiring

end Parlor
