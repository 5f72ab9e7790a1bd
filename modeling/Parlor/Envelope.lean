import Parlor.Id
import Parlor.Json.Printer
import Parlor.Json.Record

/-!
# Envelopes

What the envelopes of all three kinds of socket share: the depth left to a payload, the shape of the
payloads that the server itself makes, and the faults of turning an envelope into a command.
-/

namespace Parlor

open Json

namespace Envelope

/-- The number of containers that may be nested in a payload. -/
def payloadDepth : Nat := maxDepth - 1

/-- The field that tells the kind of an envelope. -/
def kindField {σ : Type} (store : String → σ → σ) : RecordField σ :=
  .of "type" true readText store

/-- A field that may hold an identifier. -/
def wordField {σ : Type} (name : String) (store : Option UInt64 → σ → σ) : RecordField σ :=
  .of name false (readOptional readUnsigned) store

/-- A field that may hold a text. -/
def textField {σ : Type} (name : String) (store : Option String → σ → σ) : RecordField σ :=
  .of name false (readOptional readText) store

/-- The member of an optional identifier, left out when there is none. -/
def wordMember (name : String) : Option UInt64 → List (String × Value)
  | none => []
  | some w => [(name, .word w)]

/-- The member of an optional text, left out when there is none. -/
def textMember (name : String) : Option String → List (String × Value)
  | none => []
  | some s => [(name, .string s)]

/-- The payload that carries a message for a person. -/
def notice (message : String) : Value := .object [("message", .string message)]

/-- The message sent to every socket before the server goes away. -/
def shutdownMessage : String := "Server is shutting down"

end Envelope

/-- Why an envelope holds no command. -/
inductive CommandFault where
  | missingField (name : String)
  | invalidPayload (kind reason : String)
  deriving DecidableEq, Repr

/-- The name of the kind of fault. -/
def CommandFault.name : CommandFault → String
  | .missingField _ => "MissingField"
  | .invalidPayload _ _ => "InvalidPayload"

/-- The wording of a fault. -/
def CommandFault.message : CommandFault → String
  | .missingField name => "missing field " ++ name
  | .invalidPayload kind reason => "invalid payload for " ++ kind ++ ": " ++ reason

end Parlor
