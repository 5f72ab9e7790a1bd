import Parlor.Socket.Reader
import Parlor.Socket.Writer

/-!
# Pumps

A pump serves one socket: its reader hands inbound frames to the server, and its writer empties the
queue of the connection.  When either side ends, the connection is first taken out of the server and
then closed; the writer gets some time to write what is left.  A reader that breaks down leaves all
that undone, and the writer goes on.
-/

namespace Parlor.Socket

open Json (Bytes)
open Text (Nanos)

/-- What a pump needs of the server, whose state is a `σ`. -/
structure Host (σ : Type) where
  now : σ → Nanos
  /-- The connection that the pump serves. -/
  connection : σ → Connection
  setConnection : Connection → σ → σ
  /-- Takes an inbound frame. -/
  handle : Bytes → σ → σ
  /-- Takes the connection out of the server. -/
  unregister : σ → σ
  /-- Takes note of what has been written to the socket. -/
  wrote : Outbound → σ → σ

/-- The state of a pump. -/
structure Pump where
  timing : Timing
  wire : Wire := .sound
  reader : Reader
  writer : Writer
  /-- Whether closing the socket has been completed. -/
  isSocketClosed : Bool := false
  deriving DecidableEq, Repr

namespace Pump

variable {σ : Type}

/-- A pump that starts now. -/
def start (t : Timing) (now : Nanos) : Pump :=
  { timing := t, reader := .start t now, writer := .start t now }

/-- Takes the connection out of the server, unless that has been done before, and closes it. -/
def detach (h : Host σ) (s : σ) : σ :=
  let (connection, isFirst) := (h.connection s).markUnregistered
  let s := h.setConnection connection s
  let s := if isFirst then h.unregister s else s
  h.setConnection (h.connection s).close.1 s

/-- Ends the writer, whatever it does. -/
def abort (h : Host σ) (p : Pump) (s : σ) : Pump × σ :=
  ({ p with writer := .finished }, h.setConnection (h.connection s).dropReceiver.1 s)

/-- Stops the reader, which waits for the writer if it may. -/
def leave (h : Host σ) (exit : Exit) (p : Pump) (s : σ) : Pump × σ :=
  let s := detach h s
  if p.timing.writeWait = 0 then
    let (p, s) := abort h p s
    ({ p with reader := .left exit }, s)
  else ({ p with reader := .leaving exit (Clock.limit (h.now s) p.timing.writeWait) }, s)

/-- Takes an inbound frame in. -/
def receive (h : Host σ) (p : Pump) (s : σ) (frame : Inbound) : Pump × σ :=
  let (reader, reaction) := p.reader.receive p.timing (h.now s) frame
  let p := { p with reader }
  match reaction with
  | .pass => (p, s)
  | .handle payload => (p, h.handle payload s)
  | .leave exit => leave h exit p s

/-- Lets the writer move, at most `fuel` times. -/
def write (h : Host σ) : (fuel : Nat) → Pump → σ → Pump × σ
  | 0, p, s => (p, s)
  | fuel + 1, p, s =>
    match p.writer.move p.timing p.wire (h.now s) (h.connection s) with
    | none => (p, s)
    | some m =>
      let s := h.setConnection m.connection s
      let s := m.written.elim s fun message => h.wrote message s
      write h fuel { p with writer := m.writer, isSocketClosed := p.isSocketClosed || m.closes } s

/-- The number of moves after which a writer waits, however many pings it has missed. -/
def moveBound (c : Connection) : Nat := 2 * c.waiting.length + 32

/-- Lets the writer move until it waits. -/
def writeAll (h : Host σ) (p : Pump) (s : σ) : Pump × σ := write h (moveBound (h.connection s)) p s

/-- Lets the reader see that its writer has finished, or that its time is up. -/
def wake (h : Host σ) (p : Pump) (s : σ) : Pump × σ :=
  match p.reader, p.writer with
  | .reading _, .finished => ({ p with reader := .left .writerExited }, detach h s)
  | .leaving exit _, .finished => ({ p with reader := .left exit }, s)
  | .reading deadline, _ => if deadline ≤ h.now s then leave h .deadlineExpired p s else (p, s)
  | .leaving exit patience, _ =>
    if patience ≤ h.now s then
      let (p, s) := abort h p s
      ({ p with reader := .left exit }, s)
    else (p, s)
  | .left _, _ | .broken, _ => (p, s)

/-- Lets both sides act until both wait. -/
def settle (h : Host σ) (p : Pump) (s : σ) : Pump × σ :=
  let (p, s) := writeAll h p s
  let (p, s) := wake h p s
  let (p, s) := writeAll h p s
  wake h p s

/-- Takes frames in that have arrived together, and lets both sides act. -/
def receiveAll (h : Host σ) (p : Pump) (s : σ) : List Inbound → Pump × σ
  | [] => settle h p s
  | frame :: rest =>
    let (p, s) := receive h p s frame
    receiveAll h p s rest

/-- The earlier of two moments, of which either may be missing. -/
def earlier : Option Nanos → Option Nanos → Option Nanos
  | some a, some b => some (min a b)
  | some a, none => some a
  | none, b => b

/-- The moment at which the pump next acts without a cause from outside. -/
def due? (p : Pump) : Option Nanos :=
  match p.reader with
  | .left _ => none
  | reader => earlier reader.due? (p.writer.due? p.wire)

/-- Tests whether the pump acts by a moment without a cause from outside. -/
def isDueBy (p : Pump) (moment : Nanos) : Bool := p.due?.any (· ≤ moment)

/-- The moment up to which time passes at once: a given one, or that of what is due before. -/
def stopBefore (p : Pump) (until_ : Nanos) : Nanos := p.due?.elim until_ (min until_)

/-- Lets time pass up to a moment, or up to what is due before, which then happens. -/
def pass (h : Host σ) (setNow : Nanos → σ → σ) (until_ : Nanos) (p : Pump) (s : σ) : Pump × σ :=
  let s := setNow (max (p.stopBefore until_) (h.now s)) s
  if p.isDueBy until_ then settle h p s else (p, s)

/-- Lets time pass up to a moment, from one due action to the next, of which there are `fuel` at most. -/
def advance (h : Host σ) (setNow : Nanos → σ → σ) (until_ : Nanos) : (fuel : Nat) → Pump → σ → Pump × σ
  | 0, p, s => (p, s)
  | fuel + 1, p, s =>
    let next := pass h setNow until_ p s
    if p.isDueBy until_ then advance h setNow until_ fuel next.1 next.2 else next

/-- The number of actions that can fall due in a span of time. -/
def actionBound (t : Timing) (span : Nanos) : Nat := span / max t.pingPeriod 1 + 32

/-- Lets a span of time pass. -/
def wait (h : Host σ) (setNow : Nanos → σ → σ) (span : Nanos) (p : Pump) (s : σ) : Pump × σ :=
  advance h setNow (h.now s + span) (actionBound p.timing span) p s

end Pump

end Parlor.Socket
