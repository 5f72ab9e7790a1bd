import Parlor.Connection
import Parlor.Socket.Timing

/-!
# The writing side of a socket

The writer takes frames from the queue of a connection and writes them one at a time, with a ping now
and then.  When the queue is closed and empty it says goodbye.  A write that fails or takes too long
ends it.  A writer that cannot tell when to send its next ping gives up.
-/

namespace Parlor.Socket

open Text (Nanos)

/-- What is written to a socket. -/
inductive Outbound where
  | text (frame : String)
  | ping
  | close
  deriving DecidableEq, Repr

/-- How writing to a socket goes. -/
inductive Wire where
  | sound
  | failing
  /-- Nothing that is begun ends. -/
  | stalled
  deriving DecidableEq, Repr

/-- The behaviour of a name. -/
def Wire.ofName? : String → Option Wire
  | "ok" => some .sound
  | "fail" => some .failing
  | "stall" => some .stalled
  | _ => none

/-- The state of a writer. -/
inductive Writer where
  /-- The writer is about to give up before it has begun. -/
  | unable
  | idle (nextPing : Nanos)
  | writing (message : Outbound) (deadline nextPing : Nanos)
  /-- The socket is being closed; a message that was not written is written first. -/
  | closing (held : Option Outbound) (deadline : Nanos)
  | finished
  deriving DecidableEq, Repr

/-- What one move of a writer changes. -/
structure Move where
  writer : Writer
  connection : Connection
  written : Option Outbound := none
  /-- Whether the move has closed the socket. -/
  closes : Bool := false

namespace Writer

/-- The moment of the first ping.  There is none without any time between two pings. -/
def firstPing? (t : Timing) (now : Nanos) : Option Nanos :=
  if t.pingPeriod = 0 then none else Clock.after? now t.pingPeriod

/-- A writer that starts now. -/
def start (t : Timing) (now : Nanos) : Writer := ((firstPing? t now).map .idle).getD .unable

/-- A writer that starts has not finished. -/
theorem start_ne_finished (t : Timing) (now : Nanos) : start t now ≠ .finished := by
  unfold start
  cases firstPing? t now <;> simp

/-- By how much a ping may be late before the pings after it are put off too. -/
def pingTolerance : Nanos := Text.millis 5

/-- The moment of the ping after one that was due.  It is put far off if it is too late for the clock. -/
def nextPing? (t : Timing) (due now : Nanos) : Option Nanos :=
  if due + pingTolerance < now then Clock.after? now t.pingPeriod
  else some ((Clock.after? due t.pingPeriod).getD (now + Clock.distance))

/-- Begins to write a message. -/
def begin (t : Timing) (now : Nanos) (message : Outbound) (nextPing : Nanos) : Writer :=
  .writing message (Clock.limit now t.writeWait) nextPing

/-- Begins to close the socket, after which no frame is put into the queue. -/
def beginClosing (t : Timing) (now : Nanos) (held : Option Outbound) (c : Connection) : Move :=
  { writer := .closing held (Clock.limit now t.writeWait), connection := c.closeReceiver }

/-- Ends the writer, and with it the queue. -/
def finish (c : Connection) : Move := { writer := .finished, connection := c.dropReceiver.1 }

/-- Begins to send a ping that is due, or gives up. -/
def ping (t : Timing) (due now : Nanos) (c : Connection) : Move :=
  (nextPing? t due now).elim (finish c) fun next => ⟨begin t now .ping next, c, none, false⟩

/-- One move of a writer, if it can move now. -/
def move (t : Timing) (wire : Wire) (now : Nanos) (c : Connection) : Writer → Option Move
  | .unable => some (finish c)
  | .idle due =>
    match c.waiting with
    | frame :: rest => some ⟨begin t now (.text frame) due, { c with waiting := rest }, none, false⟩
    | [] =>
      if !c.isOpen then some ⟨begin t now .close due, c, none, false⟩
      else if due ≤ now then some (ping t due now c)
      else none
  | .writing message deadline ping =>
    match wire with
    | .sound =>
      if message = .close then some { beginClosing t now none c with written := some .close }
      else some ⟨.idle ping, c, some message, false⟩
    | .failing => some (beginClosing t now (some message) c)
    | .stalled => if deadline ≤ now then some (beginClosing t now (some message) c) else none
  | .closing held deadline =>
    match wire with
    | .sound => some { finish c with written := held, closes := true }
    | .failing => some (finish c)
    | .stalled => if deadline ≤ now then some (finish c) else none
  | .finished => none

/-- The moment at which the writer next acts without a cause from outside. -/
def due? (wire : Wire) : Writer → Option Nanos
  | .unable => none
  | .idle ping => some ping
  | .writing _ deadline _ => if wire = .stalled then some deadline else none
  | .closing _ deadline => if wire = .stalled then some deadline else none
  | .finished => none

end Writer

end Parlor.Socket
