import Parlor.Envelope

/-!
# Realtime events

A notice about friends, mentions or presence that goes to all sockets of a user, or to everyone.
-/

namespace Parlor

open Json

/-- A notice with named details. -/
structure Event where
  type : String
  payload : List (String × Value) := []

namespace Event

/-- The fields of an event in their declared order. -/
def fields : List (RecordField Event) :=
  [Envelope.kindField fun name e => { e with type := name },
   .of "payload" false (readMembers Envelope.payloadDepth) fun p e => { e with payload := p }]

/-- Decodes an event. -/
def decode (bs : Bytes) : Except Fault Event :=
  readWhole (readRecord fields { type := "" }) bs

/-- The JSON form of an event. -/
def toJson (e : Event) : Value :=
  .object [("type", .string e.type), ("payload", .object e.payload)]

/-- The text of an event on the wire. -/
def text (e : Event) : String := e.toJson.text

/-- Adds a detail, replacing the one of the same name. -/
def insert (e : Event) (name : String) (value : Value) : Event :=
  { e with payload := insertMember name value e.payload }

/-- The type of the notice that a user has been mentioned. -/
def mentionType : String := "chat_mention"

end Event

end Parlor
