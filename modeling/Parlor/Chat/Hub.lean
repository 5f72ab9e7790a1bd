import Parlor.Chat.Directory
import Parlor.Chat.Mention
import Parlor.Chat.Message
import Parlor.Event
import Parlor.Registry
import Parlor.Shared

/-!
# The chat hub

Knows which users are online and which conversations they have joined, and delivers messages to the
sockets of the members and events to the sockets of users: through the bus if the hub is wired, and
directly otherwise.
-/

namespace Parlor.Chat

open Json (Bytes Value)

/-- The users of one server. -/
structure Hub where
  directory : Directory := .open
  /-- The connections of each user. -/
  sockets : Registry UserId ConnectionId Unit := .empty
  /-- The users who have joined each conversation. -/
  conversations : Registry ConversationId UserId Unit := .empty
  /-- The conversations that each user has joined. -/
  memberships : Registry UserId ConversationId Unit := .empty
  conversationWiring : Wiring := {}
  notificationWiring : Wiring := {}

namespace Hub

/-! ## Presence and membership -/

/-- Registers a connection of a user. -/
def register (h : Hub) (user : UserId) (connection : ConnectionId) : Hub :=
  { h with sockets := h.sockets.register user connection () }

/-- Takes a user out of a conversation. -/
def leave (h : Hub) (user : UserId) (conversation : ConversationId) : Hub :=
  { h with
    conversations := (h.conversations.unregister conversation user).1
    memberships := (h.memberships.unregister user conversation).1 }

/-- Takes a user into a conversation. -/
def join (h : Hub) (user : UserId) (conversation : ConversationId) : Hub :=
  { h with
    conversations := h.conversations.register conversation user ()
    memberships := h.memberships.register user conversation () }

/-- Takes a user out of all conversations. -/
def leaveAll (h : Hub) (user : UserId) : Hub :=
  (h.memberships.members user).foldl (fun h conversation => h.leave user conversation) h

/-- Tests for a user with a connection. -/
def isOnline (h : Hub) (user : UserId) : Bool := h.sockets.containsScope user

/-- Takes a connection out; the user leaves all conversations with the last one. -/
def unregister (h : Hub) (user : UserId) (connection : ConnectionId) : Hub :=
  match h.sockets.unregister user connection with
  | (_, none) => h
  | (sockets, some ()) =>
    let h := { h with sockets }
    if h.isOnline user then h else h.leaveAll user

/-- The users with a connection. -/
def onlineUsers (h : Hub) : List UserId := h.sockets.scopeList

/-- The users who have joined a conversation. -/
def members (h : Hub) (conversation : ConversationId) : List UserId := h.conversations.members conversation

/-- The number of connections. -/
def connectionCount (h : Hub) : Nat := h.sockets.memberCount

/-! ## Delivery -/

/-- The connections of a user. -/
def socketsOf (h : Hub) (user : UserId) : List ConnectionId := h.sockets.members user

/-- The connections of all members of a conversation. -/
def audience (h : Hub) (conversation : ConversationId) : List ConnectionId :=
  (h.members conversation).flatMap h.socketsOf

/-- All connections. -/
def everyone (h : Hub) : List ConnectionId := h.onlineUsers.flatMap h.socketsOf

/-- Sends a frame to a conversation on this server, and counts who has taken it. -/
def deliverToConversation (h : Hub) (s : Shared) (conversation : ConversationId) (frame : String) :
    Shared × Nat :=
  s.sendAll frame (h.audience conversation)

/-- Sends a frame to a user on this server, and counts who has taken it. -/
def deliverToUser (h : Hub) (s : Shared) (user : UserId) (frame : String) : Shared × Nat :=
  s.sendAll frame (h.socketsOf user)

/-- Sends a frame to everyone on this server, and counts who has taken it. -/
def deliverToAll (h : Hub) (s : Shared) (frame : String) : Shared × Nat := s.sendAll frame h.everyone

/-- Sends a message to a conversation on all servers, or only here if the bus fails. -/
def publishToConversation (h : Hub) (s : Shared) (conversation : ConversationId) (m : Message) : Shared :=
  match s.announce h.conversationWiring.isLive (Channel.conversation conversation) m.text with
  | (s, true) => s
  | (s, false) => (h.deliverToConversation s conversation m.text).1

/-- Sends an event to a user on all servers, or only here if the bus fails. -/
def publishToUser (h : Hub) (s : Shared) (user : UserId) (e : Event) : Shared :=
  match s.announce h.notificationWiring.isLive (Channel.user user) e.text with
  | (s, true) => s
  | (s, false) => (h.deliverToUser s user e.text).1

/-- Sends an event to everyone on all servers, or only here if the bus fails. -/
def publishToAll (h : Hub) (s : Shared) (e : Event) : Shared :=
  match s.announce h.notificationWiring.isLive Channel.broadcast e.text with
  | (s, true) => s
  | (s, false) => (h.deliverToAll s e.text).1

/-- Takes a message from the bus on a conversation channel. -/
def receiveMessage (h : Hub) (s : Shared) (m : Bus.Message) : Shared :=
  match Channel.conversation? m.channel, Message.decode (Json.encodeUtf8 m.payload) with
  | some conversation, .ok message => (h.deliverToConversation s conversation message.text).1
  | _, _ => s

/-- Takes a notice from the bus. -/
def receiveNotice (h : Hub) (s : Shared) (m : Bus.Message) : Shared :=
  match Event.decode (Json.encodeUtf8 m.payload) with
  | .error _ => s
  | .ok event =>
    if m.channel = Channel.broadcast then (h.deliverToAll s event.text).1
    else
      match Channel.user? m.channel with
      | some user => (h.deliverToUser s user event.text).1
      | none => s

/-- Takes what waits on the bus. -/
def pull (h : Hub) (s : Shared) : Shared :=
  h.notificationWiring.pull h.receiveNotice (h.conversationWiring.pull h.receiveMessage s)

/-- Subscribes to the conversations and to the notices, and counts the subscriptions. -/
def wire (h : Hub) (s : Shared) : Hub × Shared × Except Bus.BusFault Nat :=
  match h.conversationWiring.connect s (Channel.allUnder Channel.conversationStem) with
  | (s, .error fault) => (h, s, .error fault)
  | (s, .ok wiring) =>
    let h := { h with conversationWiring := wiring }
    match h.notificationWiring.connect s (Channel.allUnder Channel.notificationStem) with
    | (s, .error fault) => (h, s, .error fault)
    | (s, .ok wiring) => ({ h with notificationWiring := wiring }, s, .ok 2)

/-- Ends the subscriptions. -/
def unwire (h : Hub) (s : Shared) : Hub × Shared :=
  let (conversationWiring, s) := h.conversationWiring.disconnect s
  let (notificationWiring, s) := h.notificationWiring.disconnect s
  ({ h with conversationWiring, notificationWiring }, s)

/-- Tests whether the hub takes its own messages from the bus. -/
def isWired (h : Hub) : Bool := h.conversationWiring.isLive && h.notificationWiring.isLive

/-! ## Mentions -/

/-- The number of characters of a message that the notice of a mention shows. -/
def previewLength : Nat := 100

/-- The notice for a user who has been mentioned. -/
def mentionEvent (timestamp : String) (conversation : ConversationId) (messageId : UInt64)
    (sender mentioned : UserId) (content : String) : Event :=
  ({ type := Event.mentionType } : Event)
    |>.insert "conversation_id" (.word conversation)
    |>.insert "message_id" (.word messageId)
    |>.insert "mentioned_user_id" (.word mentioned)
    |>.insert "from_user_id" (.word sender)
    |>.insert "preview" (.string (String.ofList (content.toList.take previewLength)))
    |>.insert "created_at" (.string timestamp)

/-- Tells a user and the conversation about a mention. -/
def announceMention (h : Hub) (conversation : ConversationId) (messageId : UInt64) (sender : UserId)
    (content : String) (s : Shared) (mentioned : UserId) : Shared :=
  let s := h.publishToUser s mentioned
    (mentionEvent s.timestamp conversation messageId sender mentioned content)
  h.publishToConversation s conversation (.mention conversation sender mentioned messageId)

/-- Tells all users mentioned in a message, and the conversation; answers who was mentioned. -/
def announceMentions (h : Hub) (s : Shared) (conversation : ConversationId) (messageId : UInt64)
    (sender : UserId) (content : String) (participants : List Participant) : Shared × List UserId :=
  let mentioned := Mention.users content sender participants
  (mentioned.foldl (h.announceMention conversation messageId sender content) s, mentioned)

/-! ## Frames from the users -/

/-- Lets a user join a conversation if the directory allows it. -/
def requestJoin (h : Hub) (s : Shared) (connection : ConnectionId) (user : UserId)
    (conversation : ConversationId) : Hub × Shared :=
  let refuse (failure : Failure) :=
    (h, s.post connection (Message.error (some conversation) failure.clientMessage).text)
  match h.directory.allows conversation user with
  | .ok true => (h.join user conversation, s)
  | .ok false => refuse .notParticipant
  | .error fault => refuse (.storage fault)

/-- Carries out a command of a user. -/
def execute (h : Hub) (s : Shared) (connection : ConnectionId) (user : UserId) (payload : Value) :
    Command → Hub × Shared
  | .join conversation => h.requestJoin s connection user conversation
  | .leave conversation => (h.leave user conversation, s)
  | .typing conversation =>
    if h.conversations.contains conversation user then
      (h, h.publishToConversation s conversation
        ((Message.toConversation .typing conversation payload).sentBy user))
    else (h, s)
  | .unknown _ => (h, s)

/-- Takes a frame of a connection.  A frame that is no command is dropped. -/
def handle (h : Hub) (s : Shared) (connection : ConnectionId) (frame : Bytes) : Hub × Shared :=
  match Message.decode frame with
  | .error _ => (h, s)
  | .ok message =>
    match Command.ofMessage message with
    | .error _ => (h, s)
    | .ok command => h.execute s connection (s.userOf connection) message.payload command

/-- Takes leave of all users. -/
def shutdown (h : Hub) (s : Shared) : Hub × Shared × Nat :=
  let (sockets, drained) := h.sockets.drain
  ({ h with sockets, conversations := .empty, memberships := .empty },
    s.dismiss (drained.map fun (_, connection, _) => (connection, Message.shutdown.text)),
    drained.length)

end Hub

end Parlor.Chat
