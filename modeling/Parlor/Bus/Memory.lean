import Parlor.Bus.Channel
import Parlor.Table
import Parlor.Text.Duration

/-!
# The bus

A publish and subscribe bus in memory.  A subscription sees the messages that are published after
it, on the channels that its pattern stands for.  The bus keeps a bounded number of messages for a
subscriber that has not read them yet, whatever their channels; older ones are lost.
-/

namespace Parlor.Bus

open Text (Nanos)

/-- A payload on a channel. -/
structure Message where
  channel : String
  payload : String
  deriving DecidableEq, Repr

/-- Why the bus does not do what it is asked for. -/
inductive BusFault where
  | unavailable (reason : String)
  | timeout (channel : String) (after : Nanos)
  | closed
  deriving DecidableEq, Repr

/-- The name of the kind of fault. -/
def BusFault.name : BusFault → String
  | .unavailable _ => "Unavailable"
  | .timeout _ _ => "Timeout"
  | .closed => "Closed"

/-- The wording of a fault. -/
def BusFault.message : BusFault → String
  | .unavailable reason => "bus unavailable: " ++ reason
  | .timeout channel after =>
    "publish to " ++ channel ++ " timed out after " ++ Text.durationText after
  | .closed => "subscription closed"

/-- How the bus behaves. -/
inductive Mode where
  | up
  /-- Publishing fails. -/
  | down
  /-- Publishing never ends. -/
  | stalled
  /-- Subscribing fails. -/
  | refusing
  /-- New subscriptions end at once. -/
  | ending
  deriving DecidableEq, Repr

/-- The behaviour of a name. -/
def Mode.ofName? : String → Option Mode
  | "up" => some .up
  | "down" => some .down
  | "stalled" => some .stalled
  | "no_subscribe" => some .refusing
  | "ending" => some .ending
  | _ => none

/-- A subscription and the messages that it has not read, the oldest first. -/
structure Subscription where
  pattern : String
  unread : List Message := []
  deriving DecidableEq, Repr

/-- Names a subscription. -/
abbrev SubscriptionId := Nat

/-- The bus with its subscriptions. -/
structure MemoryBus where
  capacity : Nat
  mode : Mode := .up
  subscriptions : Table SubscriptionId Subscription := []
  nextId : SubscriptionId := 0
  deriving Repr

/-- The least power of two that is not below `n`, of at most `fuel` doublings of `p`. -/
def powerOfTwoFrom (p n : Nat) : Nat → Nat
  | 0 => p
  | fuel + 1 => if n ≤ p then p else powerOfTwoFrom (2 * p) n fuel

namespace MemoryBus

/-- The number of messages that a bus keeps when nobody says otherwise. -/
def defaultCapacity : Nat := 1024

/-- A bus that keeps `capacity` messages, rounded up to a power of two. -/
def new (capacity : Nat) : MemoryBus := { capacity := powerOfTwoFrom 1 capacity capacity }

/-- Hands a message to a subscription, which loses its oldest ones beyond the capacity. -/
def offer (capacity : Nat) (m : Message) (s : Subscription) : Subscription :=
  let unread := s.unread ++ [m]
  { s with unread := unread.drop (unread.length - capacity) }

/-- Hands a message to all subscriptions. -/
def deliver (bus : MemoryBus) (m : Message) : MemoryBus :=
  { bus with
    subscriptions := bus.subscriptions.map fun (id, s) => (id, offer bus.capacity m s) }

/--
Publishes a message, with `patience` for a bus that does not answer.  A message that nobody has
subscribed to is no fault.
-/
def publish (bus : MemoryBus) (patience : Nanos) (m : Message) :
    MemoryBus × Except BusFault Unit :=
  match bus.mode with
  | .down => (bus, .error (.unavailable "memory bus disabled"))
  | .stalled => (bus, .error (.timeout m.channel patience))
  | .up | .refusing | .ending => (bus.deliver m, .ok ())

/-- Subscribes to a pattern; the subscription is none if it has ended at once. -/
def subscribe (bus : MemoryBus) (pattern : String) :
    MemoryBus × Except BusFault (Option SubscriptionId) :=
  match bus.mode with
  | .refusing => (bus, .error (.unavailable "no subscriptions"))
  | .ending => (bus, .ok none)
  | .up | .down | .stalled =>
    ({ bus with
        subscriptions := bus.subscriptions.insert bus.nextId { pattern }
        nextId := bus.nextId + 1 }, .ok (some bus.nextId))

/-- Ends a subscription. -/
def cancel (bus : MemoryBus) (id : SubscriptionId) : MemoryBus :=
  { bus with subscriptions := bus.subscriptions.erase id }

/-- Takes out what a subscription has not read yet. -/
def read (bus : MemoryBus) (id : SubscriptionId) : MemoryBus × List Message :=
  match bus.subscriptions.get? id with
  | none => (bus, [])
  | some s =>
    ({ bus with subscriptions := bus.subscriptions.insert id { s with unread := [] } },
      s.unread.filter fun m => Channel.isMatch s.pattern m.channel)

/-- Tests whether every subscription has read everything. -/
def isIdle (bus : MemoryBus) : Bool := bus.subscriptions.all fun (_, s) => s.unread.isEmpty

end MemoryBus

end Parlor.Bus
