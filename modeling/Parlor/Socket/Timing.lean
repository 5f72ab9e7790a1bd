import Parlor.Config.Settings

/-!
# Timing of sockets

The sizes and waiting times by which a socket is served.  A peer has to answer a ping within the
time given for it, so pings are sent at a shorter period; without a usable period of its own it is
nine tenths of that time.

The clock counts seconds in a signed word, and a setting may ask for more time than it has left.
-/

namespace Parlor.Socket

open Text (Nanos)

/-! ## Moments -/

namespace Clock

/-- The first moment that is too late for the clock. -/
def bound : Nanos := Text.seconds 9223372036854775808

/-- The moment after a span of time, unless it is too late for the clock. -/
def after? (now span : Nanos) : Option Nanos := if now + span < bound then some (now + span) else none

/-- The clock reaches the moment. -/
theorem after?_of_lt {now span : Nanos} (h : now + span < bound) : after? now span = some (now + span) := if_pos h

/-- The clock does not reach the moment. -/
theorem after?_of_le {now span : Nanos} (h : bound ≤ now + span) : after? now span = none :=
  if_neg (Nat.not_lt_of_le h)

/-- The span that stands for one that is too long for the clock: thirty years. -/
def distance : Nanos := Text.seconds (86400 * 365 * 30)

/-- The moment up to which something may take its time. -/
def limit (now span : Nanos) : Nanos := (after? now span).getD (now + distance)

/-- Whatever may take some time may take it. -/
theorem lt_limit {now span : Nanos} (h : 0 < span) : now < limit now span := by
  unfold limit after?
  split
  · exact Nat.lt_add_of_pos_right h
  · exact Nat.lt_add_of_pos_right (by decide)

end Clock

/-! ## Timing -/

/-- The sizes and waiting times by which a socket is served. -/
structure Timing where
  /-- The number of frames that may wait to be written. -/
  sendBuffer : Nat
  /-- The greatest number of bytes of an inbound frame. -/
  maxMessageSize : Nat
  /-- How long one write may take. -/
  writeWait : Nanos
  /-- How long a peer may stay silent. -/
  pongWait : Nanos
  /-- The time between two pings. -/
  pingPeriod : Nanos
  deriving DecidableEq, Repr

namespace Timing

/-- The first duration that is too long to be handled. -/
def durationBound : Nanos := Text.seconds UInt64.size

/-- The wording for a period that cannot be computed. -/
def overflowMessage : String := "overflow when multiplying duration by scalar"

/-- The ping period, if it is given and shorter than the time for an answer. -/
def explicitPeriod? (s : Config.RealtimeSettings) : Option Nanos :=
  match s.pingPeriodSeconds with
  | some period =>
    if 0 < period ∧ period < s.pongWaitSeconds then some (Text.seconds period.toNat) else none
  | none => none

/-- The timing that follows from the settings, unless a duration on the way is too long. -/
def ofSettings (s : Config.RealtimeSettings) : Option Timing := do
  let pongWait := Text.seconds (max s.pongWaitSeconds.toNat 1)
  let pingPeriod ←
    match explicitPeriod? s with
    | some period => some period
    | none => if pongWait * 9 < durationBound then some (pongWait * 9 / 10) else none
  some
    { sendBuffer := max s.sendBuffer.toNat 1
      maxMessageSize := max s.maxMessageSize.toNat 1
      writeWait := Text.seconds (max s.writeWaitSeconds.toNat 1)
      pongWait
      pingPeriod }

end Timing

end Parlor.Socket
