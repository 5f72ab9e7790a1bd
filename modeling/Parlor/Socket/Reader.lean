import Parlor.Json.Reader
import Parlor.Socket.Timing

/-!
# The reading side of a socket

The reader hands every data frame to the server, in the order of arrival, until one of five things
ends it.  Only an answer to a ping moves its deadline; other frames do not count as a sign of life.
A reader whose deadline would be too late for the clock breaks down.
-/

namespace Parlor.Socket

open Json (Bytes)
open Text (Nanos)

/-- What comes in on a socket. -/
inductive Inbound where
  | data (payload : Bytes)
  | ping
  | pong
  /-- The peer says goodbye. -/
  | close
  /-- The stream of frames has ended. -/
  | ended
  /-- Reading fails. -/
  | failure
  deriving DecidableEq, Repr

/-- Why a reader has stopped. -/
inductive Exit where
  | peerClosed
  | readError
  | oversized
  | deadlineExpired
  | writerExited
  deriving DecidableEq, Repr

/-- The name of the reason. -/
def Exit.name : Exit → String
  | .peerClosed => "PeerClosed"
  | .readError => "ReadError"
  | .oversized => "Oversized"
  | .deadlineExpired => "DeadlineExpired"
  | .writerExited => "WriterExited"

/-- The state of a reader. -/
inductive Reader where
  | reading (deadline : Nanos)
  /-- The reader has stopped and waits for the writer, but not beyond a moment. -/
  | leaving (exit : Exit) (patience : Nanos)
  | left (exit : Exit)
  /-- The reader is gone, without having stopped. -/
  | broken
  deriving DecidableEq, Repr

/-- What a frame calls for. -/
inductive Reaction where
  | pass
  | handle (payload : Bytes)
  | leave (exit : Exit)
  deriving DecidableEq, Repr

namespace Reader

/-- A reader that starts now. -/
def start (t : Timing) (now : Nanos) : Reader := ((Clock.after? now t.pongWait).map .reading).getD .broken

/-- The clock reaches the first deadline. -/
theorem start_of_lt {t : Timing} {now : Nanos} (h : now + t.pongWait < Clock.bound) :
    start t now = .reading (now + t.pongWait) := by
  rw [start, Clock.after?_of_lt h, Option.map_some, Option.getD_some]

/-- The clock does not reach the first deadline. -/
theorem start_of_le {t : Timing} {now : Nanos} (h : Clock.bound ≤ now + t.pongWait) : start t now = .broken := by
  rw [start, Clock.after?_of_le h, Option.map_none, Option.getD_none]

/-- What a frame calls for while the reader reads. -/
def reaction (t : Timing) : Inbound → Reaction
  | .data payload =>
    if t.maxMessageSize < payload.length then .leave .oversized else .handle payload
  | .ping | .pong => .pass
  | .close | .ended => .leave .peerClosed
  | .failure => .leave .readError

/-- Takes a frame in.  A reader that has stopped or is gone ignores it. -/
def receive (t : Timing) (now : Nanos) : Reader → Inbound → Reader × Reaction
  | .reading _, .pong => (start t now, .pass)
  | .reading deadline, frame => (.reading deadline, reaction t frame)
  | r, _ => (r, .pass)

/-- The moment at which the reader stops waiting. -/
def due? : Reader → Option Nanos
  | .reading deadline => some deadline
  | .leaving _ patience => some patience
  | .left _ | .broken => none

/-- Why the reader has left the socket, once it has. -/
def exit? : Reader → Option Exit
  | .left exit => some exit
  | _ => none

end Reader

end Parlor.Socket
