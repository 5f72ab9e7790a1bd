import Parlor.Envelope

/-!
# Chat messages

The envelope of chat sockets and of the conversation channels of the bus, its JSON form, and the
commands that a socket may send.
-/

namespace Parlor.Chat

open Json

/-- What a chat message is about. -/
inductive Kind where
  | message
  | mention
  | typing
  | join
  | leave
  | error
  | serverShutdown
  /-- A kind that this server does not know. -/
  | other (name : String)
  deriving DecidableEq, Repr

namespace Kind

/-- The name of a kind on the wire. -/
def name : Kind → String
  | .message => "message"
  | .mention => "chat_mention"
  | .typing => "typing"
  | .join => "join"
  | .leave => "leave"
  | .error => "error"
  | .serverShutdown => "server_shutdown"
  | .other name => name

/-- The kinds that have a meaning. -/
def known : List Kind := [.message, .mention, .typing, .join, .leave, .error, .serverShutdown]

/-- The kind of a name on the wire. -/
def ofName (name : String) : Kind :=
  (known.find? (·.name == name)).getD (.other name)

/-- Tests for a kind that has a meaning. -/
def isKnown : Kind → Bool
  | .other _ => false
  | _ => true

end Kind

/-- A message sent by a chat socket or delivered to the members of a conversation. -/
structure Message where
  kind : Kind
  conversation : Option ConversationId := none
  user : Option UserId := none
  payload : Value := .null

namespace Message

/-- The fields of a message in their declared order. -/
def fields : List (RecordField Message) :=
  [Envelope.kindField fun name m => { m with kind := .ofName name },
   Envelope.wordField "conversation_id" fun id m => { m with conversation := id },
   Envelope.wordField "user_id" fun id m => { m with user := id },
   .of "payload" false (readValue Envelope.payloadDepth) fun v m => { m with payload := v }]

/-- Decodes a message. -/
def decode (bs : Bytes) : Except Fault Message :=
  readWhole (readRecord fields { kind := .other "" }) bs

/-- The JSON form of a message. -/
def toJson (m : Message) : Value :=
  .object (("type", .string m.kind.name) :: Envelope.wordMember "conversation_id" m.conversation
    ++ Envelope.wordMember "user_id" m.user ++ [("payload", m.payload)])

/-- The text of a message on the wire. -/
def text (m : Message) : String := m.toJson.text

/-- A message to a conversation that no user has sent. -/
def toConversation (kind : Kind) (conversation : ConversationId) (payload : Value) : Message :=
  { kind, conversation := some conversation, payload }

/-- Names the sender of a message. -/
def sentBy (m : Message) (user : UserId) : Message := { m with user := some user }

/-- Tells a conversation that one of its members has been mentioned. -/
def mention (conversation : ConversationId) (sender mentioned : UserId) (messageId : UInt64) :
    Message :=
  (toConversation .mention conversation (.object
    [("conversation_id", .word conversation), ("from_user_id", .word sender),
     ("mentioned_user_id", .word mentioned), ("message_id", .word messageId)])).sentBy sender

/-- Tells a sender that something went wrong. -/
def error (conversation : Option ConversationId) (message : String) : Message :=
  { kind := .error, conversation, payload := Envelope.notice message }

/-- Announces that the server goes away. -/
def shutdown : Message :=
  { kind := .serverShutdown, payload := Envelope.notice Envelope.shutdownMessage }

end Message

/-- What a chat socket asks for. -/
inductive Command where
  | join (conversation : ConversationId)
  | leave (conversation : ConversationId)
  | typing (conversation : ConversationId)
  | unknown (kind : String)
  deriving DecidableEq, Repr

/-- The conversation that a message names. -/
def Message.requireConversation (m : Message) : Except CommandFault ConversationId :=
  match m.conversation with
  | some id => .ok id
  | none => .error (.missingField "conversation_id")

/-- The command in a message. -/
def Command.ofMessage (m : Message) : Except CommandFault Command :=
  match m.kind with
  | .join => .join <$> m.requireConversation
  | .leave => .leave <$> m.requireConversation
  | .typing => .typing <$> m.requireConversation
  | kind => .ok (.unknown kind.name)

end Parlor.Chat
