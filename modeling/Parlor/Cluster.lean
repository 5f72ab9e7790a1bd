import Parlor.Server
import Parlor.Socket.Pump

/-!
# A cluster

Several servers that share one bus and one store, the sockets they serve, and the passing of time.
Whatever follows from an operation takes place before the next one: what waits on the bus is
delivered, what waits for a socket is written, and what is due happens in the order of its due time.
-/

namespace Parlor

open Text (Nanos)

/-- What the peer of a socket sees. -/
inductive Arrival where
  | text (frame : String)
  | ping
  | pong
  | close
  /-- The stream is over. -/
  | ended
  deriving DecidableEq, Repr

/-- A socket that is served.  Its peer answers every ping at once. -/
structure Session where
  /-- The index of its server. -/
  server : Nat
  role : Role
  connection : ConnectionId
  pump : Socket.Pump
  /-- What the peer has not looked at yet. -/
  arrived : List Arrival := []
  /-- Whether the stream is over for the peer. -/
  isOver : Bool := false

/-- A connection without a socket, whose frames are looked at as they are queued. -/
structure Client where
  connection : ConnectionId
  /-- Whether its queue is left alone. -/
  isHeld : Bool := false
  deriving DecidableEq, Repr

/-- Names a session or a client. -/
abbrev PeerName := String

/-- Servers with what they share and their peers. -/
structure Cluster where
  shared : Shared
  servers : List Server
  /-- The timing of every socket. -/
  timing : Socket.Timing
  sessions : Table PeerName Session := []
  clients : Table PeerName Client := []

namespace Cluster

/-! ## Servers -/

/-- The server of an index. -/
def server? (c : Cluster) (i : Nat) : Option Server := c.servers[i]?

/-- Carries out an operation of a server, which has a result. -/
def ask {α : Type} (c : Cluster) (i : Nat) (operation : Server → Shared → Server × Shared × α) :
    Cluster × Option α :=
  match c.server? i with
  | none => (c, none)
  | some v =>
    let (v, shared, a) := operation v c.shared
    ({ c with servers := c.servers.set i v, shared }, some a)

/-- Carries out an operation of a server. -/
def tell (c : Cluster) (i : Nat) (operation : Server → Shared → Server × Shared) : Cluster :=
  (c.ask i fun v s =>
    let (v, s) := operation v s
    (v, s, ())).1

/-- Lets all servers take what waits on the bus. -/
def pull (c : Cluster) : Cluster :=
  { c with shared := c.servers.foldl (fun s v => v.pull s) c.shared }

/-! ## Sockets -/

/-- Changes a session. -/
def modifySession (c : Cluster) (id : PeerName) (change : Session → Session) : Cluster :=
  { c with sessions := c.sessions.modify id change }

/-- Shows something to the peer of a session. -/
def reveal (c : Cluster) (id : PeerName) (a : Arrival) : Cluster :=
  c.modifySession id fun e => { e with arrived := e.arrived ++ [a] }

/-- What the peer sees of something that is written. -/
def arrivalOf : Socket.Outbound → Arrival
  | .text frame => .text frame
  | .ping => .ping
  | .close => .close

/-- The cluster as the pump of a session sees it. -/
def host (id : PeerName) (e : Session) : Socket.Host Cluster where
  now c := c.shared.now
  connection c := (c.shared.connection? e.connection).getD (Connection.new 0 1)
  setConnection connection c :=
    { c with shared := c.shared.modifyConnection e.connection fun _ => connection }
  handle frame c := c.tell e.server fun v s => v.handle s e.role e.connection frame
  unregister c := c.tell e.server fun v s => v.unregister s e.role e.connection
  wrote message c := c.reveal id (arrivalOf message)

/-- Gives a session its pump back.  The stream is over for the peer once the socket is closed. -/
def setPump (c : Cluster) (id : PeerName) (pump : Socket.Pump) : Cluster :=
  c.modifySession id fun e =>
    if pump.isSocketClosed && !e.isOver then
      { e with pump, arrived := e.arrived ++ [.ended], isOver := true }
    else { e with pump }

/-- Lets the pump of a session take frames in and act. -/
def receive (c : Cluster) (id : PeerName) (frames : List Socket.Inbound) : Cluster :=
  match c.sessions.get? id with
  | none => c
  | some e =>
    let (pump, c) := e.pump.receiveAll (host id e) c frames
    c.setPump id pump

/-- Takes in what the peer of a session sends.  A ping is answered at once. -/
def deliver (c : Cluster) (id : PeerName) (frame : Socket.Inbound) : Cluster :=
  let c := c.receive id [frame]
  if frame = .ping then c.reveal id .pong else c

/-- The number of pings that the peer of a session has not looked at yet. -/
def pingCount (c : Cluster) (id : PeerName) : Nat :=
  ((c.sessions.get? id).map fun e => e.arrived.count .ping).getD 0

/-- Lets the pump of a session act; a ping that it has sent is answered. -/
def serve (c : Cluster) (id : PeerName) : Cluster :=
  let next := c.receive id []
  if c.pingCount id < next.pingCount id then next.receive id [.pong] else next

/-- Tests whether a frame waits to be written. -/
def hasWork (c : Cluster) (e : Session) : Bool :=
  ((c.shared.connection? e.connection).map fun connection => !connection.waiting.isEmpty).getD false

/-- Opens a socket on a server. -/
def openSession (c : Cluster) (name : PeerName) (server : Nat) (user : UserId) (role : Role) : Cluster :=
  let (shared, connection) := c.shared.connect user c.timing.sendBuffer
  let c := { c with shared }.tell server fun v s => v.register s role connection
  let pump := Socket.Pump.start c.timing c.shared.now
  { c with sessions := c.sessions.insert name { server, role, connection, pump } }

/-- Tests for a session whose stream is not over for the peer. -/
def isOpen (c : Cluster) (name : PeerName) : Bool := (c.sessions.get? name).any (!·.isOver)

/-- Breaks the line of a socket. -/
def breakLine (c : Cluster) (id : PeerName) : Cluster :=
  (c.modifySession id fun e => { e with pump := { e.pump with wire := .failing }, isOver := true }).receive
    id [.failure]

/-! ## What the peers see -/

/-- Takes in a connection without a socket. -/
def addClient (c : Cluster) (name : PeerName) (user : UserId) (capacity : Nat) (isHeld : Bool) : Cluster :=
  let (shared, connection) := c.shared.connect user capacity
  { c with shared, clients := c.clients.insert name { connection, isHeld } }

/-- The connection of a client; that of an unknown name is none that exists. -/
def connectionOf (c : Cluster) (name : PeerName) : ConnectionId :=
  ((c.clients.get? name).map (·.connection)).getD c.shared.connections.length

/-- Changes the connection of a client, and answers something about it. -/
def onClient {α : Type} (c : Cluster) (name : PeerName) (operation : Connection → Connection × α) :
    Cluster × Option α :=
  let id := c.connectionOf name
  match c.shared.connection? id with
  | none => (c, none)
  | some connection =>
    let (connection, a) := operation connection
    ({ c with shared := c.shared.modifyConnection id fun _ => connection }, some a)

/-- Takes out what waits for clients. -/
def collectClients (c : Cluster) : List (PeerName × Client) → Cluster × List (PeerName × List Arrival)
  | [] => (c, [])
  | (name, client) :: rest =>
    if client.isHeld then collectClients c rest
    else
      let (c, frames) := c.onClient name fun connection =>
        let (connection, frames, _) := connection.receive none
        (connection, frames)
      let (c, others) := collectClients c rest
      (c, (name, (frames.getD []).map .text) :: others)

/-- Takes out what the peers have not looked at yet. -/
def collect (c : Cluster) : Cluster × List (PeerName × List Arrival) :=
  let seen := c.sessions.map fun (name, e) => (name, e.arrived)
  let (c, frames) := c.collectClients c.clients
  ({ c with sessions := c.sessions.map fun (name, e) => (name, { e with arrived := [] }) }, frames ++ seen)

/-! ## Time -/

/-- The forfeits of all servers, each with the index of its server. -/
def forfeits (c : Cluster) : List (Nat × Game.Forfeit) :=
  c.servers.zipIdx.flatMap fun (v, i) => v.games.forfeits.map fun f => (i, f)

/-- The forfeit that is due first. -/
def firstForfeit? (c : Cluster) : Option (Nat × Game.Forfeit) :=
  c.forfeits.foldl
    (fun best f =>
      match best with
      | none => some f
      | some b => if f.2.precedes b.2 then some f else some b)
    none

/-- Carries out the forfeit of a server. -/
def fire (c : Cluster) (i : Nat) (f : Game.Forfeit) : Cluster :=
  c.tell i fun v s =>
    let (games, s) := v.games.fire s f
    ({ v with games }, s)

/-- Lets everything happen that follows from what has happened, in `fuel` rounds at most. -/
def settleIn : (fuel : Nat) → Cluster → Cluster
  | 0, c => c
  | fuel + 1, c =>
    let c := c.sessions.keys.foldl serve c.pull
    if !c.shared.bus.isIdle || c.sessions.values.any c.hasWork then settleIn fuel c
    else
      match c.firstForfeit? with
      | some (i, f) => if f.due ≤ c.shared.now then settleIn fuel (c.fire i f) else c
      | none => c

/-- The number of rounds after which nothing more follows. -/
def roundBound (c : Cluster) : Nat := 3 * (c.sessions.length + c.forfeits.length) + 4

/-- Lets everything happen that follows from what has happened. -/
def settle (c : Cluster) : Cluster := c.settleIn c.roundBound

/-- The moment at which something happens next without a cause from outside. -/
def nextDue? (c : Cluster) : Option Nanos :=
  c.sessions.values.foldl (fun due e => Socket.Pump.earlier due e.pump.due?)
    (c.firstForfeit?.map fun (_, f) => f.due)

/-- Moves the clock forward to a moment. -/
def moveTo (moment : Nanos) (c : Cluster) : Cluster :=
  { c with shared := { c.shared with now := max moment c.shared.now } }

/-- Lets time pass up to a moment, in `fuel` steps at most. -/
def advanceIn (moment : Nanos) : (fuel : Nat) → Cluster → Cluster
  | 0, c => c.moveTo moment
  | fuel + 1, c =>
    match c.nextDue? with
    | none => c.moveTo moment
    | some due =>
      if moment < due then c.moveTo moment else advanceIn moment fuel (c.moveTo due).settle

/-- The number of moments in a span of time at which something can be due. -/
def momentBound (c : Cluster) (span : Nanos) : Nat :=
  c.forfeits.length + c.sessions.length * (Socket.Pump.actionBound c.timing span + 2)

/-- Lets a span of time pass. -/
def advance (c : Cluster) (span : Nanos) : Cluster :=
  c.advanceIn (c.shared.now + span) (c.momentBound span)

end Cluster

end Parlor
