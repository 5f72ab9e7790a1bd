import Parlor.Id

/-!
# Connections

The outbound side of a socket: a queue of frames with a bound.  The hubs put frames in without ever
waiting; a frame that finds the queue full is dropped and counted.  The queue can be closed from
either side, and what waits in it is still delivered unless its reader is gone.
-/

namespace Parlor

/-- The state of the reading side of a queue. -/
inductive Receiver where
  | listening
  /-- No frame comes in any more, and those that wait can still be read. -/
  | closing
  | gone
  deriving DecidableEq, Repr

/-- What becomes of a frame. -/
inductive SendOutcome where
  | queued
  /-- The queue was full. -/
  | dropped
  /-- The queue was closed. -/
  | closed
  deriving DecidableEq, Repr

/-- The name of an outcome. -/
def SendOutcome.name : SendOutcome → String
  | .queued => "queued"
  | .dropped => "dropped"
  | .closed => "closed"

/-- What ends the reading of a queue. -/
inductive QueueEnd where
  | limit
  | empty
  | disconnected
  | noReceiver
  deriving DecidableEq, Repr

/-- The name of what ends the reading. -/
def QueueEnd.name : QueueEnd → String
  | .limit => "limit"
  | .empty => "empty"
  | .disconnected => "disconnected"
  | .noReceiver => "no_receiver"

/-- A user's socket as the hubs see it. -/
structure Connection where
  user : UserId
  capacity : Nat
  waiting : List String := []
  /-- Whether the sending side is open. -/
  isOpen : Bool := true
  receiver : Receiver := .listening
  dropped : Nat := 0
  /-- Whether somebody has set about taking it out of its hub. -/
  isUnregistered : Bool := false
  deriving DecidableEq, Repr

namespace Connection

/-- A connection whose queue holds `capacity` frames, and at least one. -/
def new (user : UserId) (capacity : Nat) : Connection :=
  { user, capacity := max capacity 1 }

/-- Tests whether frames can no longer be put in. -/
def isClosed (c : Connection) : Bool := !c.isOpen || c.receiver != .listening

/-- Puts a frame in. -/
def send (c : Connection) (frame : String) : Connection × SendOutcome :=
  if c.isClosed then (c, .closed)
  else if c.waiting.length < c.capacity then
    ({ c with waiting := c.waiting ++ [frame] }, .queued)
  else ({ c with dropped := c.dropped + 1 }, .dropped)

/-- Puts the text of a value in.  A value without a text is lost, and is not counted. -/
def sendText (c : Connection) : Option String → Connection × SendOutcome
  | some frame => c.send frame
  | none => (c, .dropped)

/-- Puts frames in one after the other. -/
def sendAll (c : Connection) : List String → Connection × List SendOutcome
  | [] => (c, [])
  | frame :: rest =>
    let (c, outcome) := c.send frame
    let (c, outcomes) := sendAll c rest
    (c, outcome :: outcomes)

/-- Closes the sending side, and tells whether this call has closed it. -/
def close (c : Connection) : Connection × Bool := ({ c with isOpen := false }, c.isOpen)

/-- Marks the connection as taken out of its hub, and tells whether this call is the first to do so. -/
def markUnregistered (c : Connection) : Connection × Bool := ({ c with isUnregistered := true }, !c.isUnregistered)

/-- Drops the reading side and what waits for it, and tells whether there was one. -/
def dropReceiver (c : Connection) : Connection × Bool :=
  ({ c with receiver := .gone, waiting := [] }, c.receiver != .gone)

/-- Closes the reading side and keeps what waits for it. -/
def closeReceiver (c : Connection) : Connection :=
  if c.receiver = .gone then c else { c with receiver := .closing }

/-- Takes out at most `limit` frames, or all of them, and tells what has ended the reading. -/
def receive (c : Connection) (limit : Option Nat) : Connection × List String × QueueEnd :=
  if c.receiver = .gone then (c, [], .noReceiver)
  else
    let count := limit.getD (c.waiting.length + 1)
    let rest := { c with waiting := c.waiting.drop count }
    let reason :=
      if count ≤ c.waiting.length then .limit
      else if c.isClosed then .disconnected
      else .empty
    (rest, c.waiting.take count, reason)

end Connection

/-- Names a connection. -/
abbrev ConnectionId := Nat

end Parlor
