import Parlor.Chat.Hub
import Parlor.Proofs.Delivery
import Parlor.Proofs.Envelopes

/-!
# Operations of the chat hub

The hub listens to two kinds of channels: those of conversations, and the notices to users and to everyone.
Whatever is asked of it, it has one thing to say at most, on one of the two. A bulletin that waits on the bus
is heard on its own line and dropped on the other.
-/

namespace Parlor.Chat

open Json

/-! ## Lines -/

/-- The two kinds of channels that a hub listens to. -/
inductive Line where
  | conversations
  | notices
  deriving DecidableEq

/-- The pattern of the channels of a line. -/
def Line.pattern : Line → String
  | .conversations => Channel.allUnder Channel.conversationStem
  | .notices => Channel.allUnder Channel.notificationStem

/-- The wiring to the channels of a line. -/
def Hub.wiring (h : Hub) : Line → Wiring
  | .conversations => h.conversationWiring
  | .notices => h.notificationWiring

/-- Takes a message from the channels of a line. -/
def Hub.receive (h : Hub) : Line → Shared → Bus.Message → Shared
  | .conversations => h.receiveMessage
  | .notices => h.receiveNotice

/-! ## What the bus gives back -/

/-- The name of the kind of a name is that name. -/
theorem Kind.name_ofName (name : String) : (Kind.ofName name).name = name := by
  unfold Kind.ofName
  cases hfind : Kind.known.find? (·.name == name) with
  | none => rfl
  | some k => simpa using List.find?_some hfind

namespace Hub

/-- A message for the members of a conversation. -/
def bulletin (h : Hub) (conversation : ConversationId) (m : Message) : Bulletin :=
  ⟨Channel.conversation conversation, m.text, h.audience conversation⟩

/-- An event for a user. -/
def notice (h : Hub) (user : UserId) (e : Event) : Bulletin := ⟨Channel.user user, e.text, h.socketsOf user⟩

/-- An event for everyone. -/
def proclamation (h : Hub) (e : Event) : Bulletin := ⟨Channel.broadcast, e.text, h.everyone⟩

/-- Publishing to a conversation is spreading a bulletin. -/
theorem publishToConversation_eq (h : Hub) (s : Shared) (conversation : ConversationId) (m : Message) :
    h.publishToConversation s conversation m = s.spread h.conversationWiring.isLive (h.bulletin conversation m) := by
  rcases hannounce : s.announce h.conversationWiring.isLive (Channel.conversation conversation) m.text with ⟨s, _ | _⟩
  · simp only [publishToConversation, Shared.spread, bulletin, hannounce]
    exact s.sendAll_eq _ _
  · simp only [publishToConversation, Shared.spread, bulletin, hannounce]

/-- Publishing to a user is spreading a notice. -/
theorem publishToUser_eq (h : Hub) (s : Shared) (user : UserId) (e : Event) :
    h.publishToUser s user e = s.spread h.notificationWiring.isLive (h.notice user e) := by
  rcases hannounce : s.announce h.notificationWiring.isLive (Channel.user user) e.text with ⟨s, _ | _⟩
  · simp only [publishToUser, Shared.spread, notice, hannounce]
    exact s.sendAll_eq _ _
  · simp only [publishToUser, Shared.spread, notice, hannounce]

/-- Publishing to everyone is spreading a proclamation. -/
theorem publishToAll_eq (h : Hub) (s : Shared) (e : Event) :
    h.publishToAll s e = s.spread h.notificationWiring.isLive (h.proclamation e) := by
  rcases hannounce : s.announce h.notificationWiring.isLive Channel.broadcast e.text with ⟨s, _ | _⟩
  · simp only [publishToAll, Shared.spread, proclamation, hannounce]
    exact s.sendAll_eq _ _
  · simp only [publishToAll, Shared.spread, proclamation, hannounce]

/-- What a hub takes from a conversation it tells as an echo. -/
theorem receiveMessage_bulletin (h : Hub) (s : Shared) (conversation : ConversationId) (m : Message) :
    h.receiveMessage s (h.bulletin conversation m).message =
      s.tell ((h.bulletin conversation m).echo Message.decode Message.text) := by
  simp only [receiveMessage, Bulletin.message, bulletin, Channel.conversation?_conversation, Bulletin.echo]
  cases Message.decode (encodeUtf8 m.text) with
  | ok m => exact s.sendAll_eq _ _
  | error f => rfl

/-- A hub hears a bulletin on a line, as it would tell it itself, and not on the other line. -/
structure Hears (h : Hub) (line : Line) (b : Bulletin) : Prop where
  isMatch : ∀ other : Line, Channel.isMatch other.pattern b.channel = decide (other = line)
  told : ∀ s : Shared, h.receive line s b.message = s.tell b

/-- A message with a plain payload is heard. -/
theorem hears_bulletin (h : Hub) (conversation : ConversationId) {m : Message}
    (hpayload : m.payload.IsPlain Envelope.payloadDepth) : h.Hears .conversations (h.bulletin conversation m) := by
  refine ⟨fun other => ?_, fun s => ?_⟩
  · cases other with
    | conversations => exact Channel.isMatch_stem _ _
    | notices => exact Channel.isMatch_notification_conversation conversation
  · refine (h.receiveMessage_bulletin s conversation m).trans (congrArg s.tell ?_)
    refine Bulletin.echo_eq (a := { m with kind := .ofName m.kind.name }) ?_ ?_
    · rw [bulletin, Message.decode_text hpayload, hpayload.reread]
      rfl
    · rw [bulletin, Message.text, Message.text, Message.toJson, Message.toJson, Kind.name_ofName]

/-- A canonical event for a user is heard. -/
theorem hears_notice (h : Hub) (user : UserId) {e : Event} (he : e.IsCanonical) :
    h.Hears .notices (h.notice user e) := by
  refine ⟨fun other => ?_, fun s => ?_⟩
  · cases other with
    | conversations => exact Channel.isMatch_conversation_user user
    | notices =>
      rw [notice, Channel.user_eq]
      exact Channel.isMatch_stem _ _
  · simp only [receive, receiveNotice, Bulletin.message, notice, he.decode_text,
      if_neg (Channel.user_ne_broadcast user), Channel.user?_user]
    exact s.sendAll_eq _ _

/-- A canonical event for everyone is heard. -/
theorem hears_proclamation (h : Hub) {e : Event} (he : e.IsCanonical) : h.Hears .notices (h.proclamation e) := by
  refine ⟨fun other => ?_, fun s => ?_⟩
  · cases other with
    | conversations => exact Channel.isMatch_conversation_broadcast
    | notices => exact Channel.isMatch_stem Channel.notificationStem "broadcast"
  · simp only [receive, receiveNotice, Bulletin.message, proclamation, he.decode_text, if_true]
    exact s.sendAll_eq _ _

end Hub

/-! ## Operations -/

/-- What is asked of a hub, or happens to its users and their connections. -/
inductive Operation where
  | publish (conversation : ConversationId) (message : Message)
  | notify (user : UserId) (event : Event)
  | proclaim (event : Event)
  /-- Any bytes come from a connection. -/
  | frame (connection : ConnectionId) (bytes : Bytes)
  | register (user : UserId) (connection : ConnectionId)
  | unregister (user : UserId) (connection : ConnectionId)
  | join (user : UserId) (conversation : ConversationId)
  | leave (user : UserId) (conversation : ConversationId)
  | connect (user : UserId) (capacity : Nat)
  /-- A connection is read or closed. -/
  | connection (id : ConnectionId) (change : Connection → Connection)

/-- A hub, and what it shares. -/
structure Site where
  hub : Hub
  shared : Shared

namespace Site

/-- What an operation leads to. -/
def apply (t : Site) : Operation → Site
  | .publish conversation message => { t with shared := t.hub.publishToConversation t.shared conversation message }
  | .notify user event => { t with shared := t.hub.publishToUser t.shared user event }
  | .proclaim event => { t with shared := t.hub.publishToAll t.shared event }
  | .frame connection bytes =>
    let (hub, shared) := t.hub.handle t.shared connection bytes
    { hub, shared }
  | .register user connection => { t with hub := t.hub.register user connection }
  | .unregister user connection => { t with hub := t.hub.unregister user connection }
  | .join user conversation => { t with hub := t.hub.join user conversation }
  | .leave user conversation => { t with hub := t.hub.leave user conversation }
  | .connect user capacity => { t with shared := (t.shared.connect user capacity).1 }
  | .connection id change => { t with shared := t.shared.modifyConnection id change }

/-- A hub with other wirings to another bus. -/
def rewired (t : Site) (conversationWiring notificationWiring : Wiring) (bus : Bus.MemoryBus) : Site :=
  ⟨{ t.hub with conversationWiring, notificationWiring }, { t.shared with bus }⟩

/-- Carries out what an operation has to say on a line. -/
def carry (t : Site) (line : Line) (o : Outbox) : Site :=
  { t with shared := t.shared.carry (t.hub.wiring line).isLive o }

/-- What a frame changes, and what it has to say to whom. -/
inductive FrameReaction (t : Site) (connection : ConnectionId) (bytes : Bytes) : Hub → Outbox → Prop
  | ignored : t.FrameReaction connection bytes t.hub {}
  | joined (conversation : ConversationId) :
    t.FrameReaction connection bytes (t.hub.join (t.shared.userOf connection) conversation) {}
  | left (conversation : ConversationId) :
    t.FrameReaction connection bytes (t.hub.leave (t.shared.userOf connection) conversation) {}
  /-- The sender may not join, and is told so. -/
  | refused {sent : Message} {conversation : ConversationId} (decoded : Message.decode bytes = .ok sent)
    (named : sent.conversation = some conversation) (message : String) :
    t.FrameReaction connection bytes t.hub
      { posts := [(connection, (Message.error (some conversation) message).text)] }
  /-- A member is typing, and all members are told so. -/
  | typed {sent : Message} {conversation : ConversationId} (decoded : Message.decode bytes = .ok sent)
    (kind : sent.kind = .typing) (named : sent.conversation = some conversation)
    (member : t.hub.conversations.contains conversation (t.shared.userOf connection) = true) :
    t.FrameReaction connection bytes t.hub
      { bulletins := [t.hub.bulletin conversation
          ((Message.toConversation .typing conversation sent.payload).sentBy (t.shared.userOf connection))] }

end Site

/-- The command in a message comes from its kind, and names the conversation of the message. -/
theorem Command.ofMessage_cases {m : Message} {command : Command} (h : ofMessage m = .ok command) :
    (∃ conversation, m.conversation = some conversation ∧
        (command = .join conversation ∨ command = .leave conversation ∨
          m.kind = .typing ∧ command = .typing conversation)) ∨
      ∃ kind, command = .unknown kind := by
  have hnamed {make : ConversationId → Command} (hmake : make <$> m.requireConversation = .ok command) :
      ∃ conversation, m.conversation = some conversation ∧ command = make conversation := by
    cases hconversation : m.conversation with
    | none => simp [Message.requireConversation, hconversation, Functor.map, Except.map] at hmake
    | some conversation =>
      refine ⟨conversation, rfl, ?_⟩
      simpa [Message.requireConversation, hconversation, Functor.map, Except.map] using hmake.symm
  unfold ofMessage at h
  split at h
  · obtain ⟨conversation, hconversation, rfl⟩ := hnamed h
    exact .inl ⟨conversation, hconversation, .inl rfl⟩
  · obtain ⟨conversation, hconversation, rfl⟩ := hnamed h
    exact .inl ⟨conversation, hconversation, .inr (.inl rfl)⟩
  · obtain ⟨conversation, hconversation, rfl⟩ := hnamed h
    exact .inl ⟨conversation, hconversation, .inr (.inr ⟨‹_›, rfl⟩)⟩
  · exact .inr ⟨_, (Except.ok.inj h).symm⟩

namespace Site

/-- A frame has nothing to do with the bus beyond what it has to say. -/
theorem frame_reacts (t : Site) (connection : ConnectionId) (bytes : Bytes) :
    ∃ hub o, t.FrameReaction connection bytes hub o ∧ ∀ conversationWiring notificationWiring bus,
      (t.rewired conversationWiring notificationWiring bus).apply (.frame connection bytes) =
        (({ t with hub } : Site).rewired conversationWiring notificationWiring bus).carry .conversations o := by
  have hignored (h : ∀ cw nw bus, (t.rewired cw nw bus).apply (.frame connection bytes) = t.rewired cw nw bus) :
      ∃ hub o, t.FrameReaction connection bytes hub o ∧ ∀ cw nw bus,
        (t.rewired cw nw bus).apply (.frame connection bytes) =
          (({ t with hub } : Site).rewired cw nw bus).carry .conversations o := ⟨t.hub, {}, .ignored, h⟩
  cases hdecode : Message.decode bytes with
  | error fault => exact hignored fun cw nw bus => by simp only [apply, Hub.handle, hdecode]
  | ok sent =>
    cases hcommand : Command.ofMessage sent with
    | error fault => exact hignored fun cw nw bus => by simp only [apply, Hub.handle, hdecode, hcommand]
    | ok command =>
      have huser (cw nw : Wiring) (bus : Bus.MemoryBus) :
          (t.rewired cw nw bus).shared.userOf connection = t.shared.userOf connection := rfl
      rcases Command.ofMessage_cases hcommand with ⟨conversation, hnamed, rfl | rfl | ⟨hkind, rfl⟩⟩ | ⟨kind, rfl⟩
      · have hdirectory (cw nw : Wiring) (bus : Bus.MemoryBus) :
            (t.rewired cw nw bus).hub.directory = t.hub.directory := rfl
        rcases hallows : t.hub.directory.allows conversation (t.shared.userOf connection) with fault | _ | _
        · refine ⟨t.hub, _, .refused hdecode hnamed (Failure.storage fault).clientMessage, fun cw nw bus => ?_⟩
          simp only [apply, Hub.handle, hdecode, hcommand, Hub.execute, Hub.requestJoin, huser, hdirectory, hallows]
          rfl
        · refine ⟨t.hub, _, .refused hdecode hnamed Failure.notParticipant.clientMessage, fun cw nw bus => ?_⟩
          simp only [apply, Hub.handle, hdecode, hcommand, Hub.execute, Hub.requestJoin, huser, hdirectory, hallows]
          rfl
        · refine ⟨_, _, .joined conversation, fun cw nw bus => ?_⟩
          simp only [apply, Hub.handle, hdecode, hcommand, Hub.execute, Hub.requestJoin, huser, hdirectory, hallows]
          rfl
      · refine ⟨_, _, .left conversation, fun cw nw bus => ?_⟩
        simp only [apply, Hub.handle, hdecode, hcommand, Hub.execute]
        rfl
      · have hmembers (cw nw : Wiring) (bus : Bus.MemoryBus) :
            (t.rewired cw nw bus).hub.conversations = t.hub.conversations := rfl
        by_cases hmember : t.hub.conversations.contains conversation (t.shared.userOf connection) = true
        · refine ⟨t.hub, _, .typed hdecode hkind hnamed hmember, fun cw nw bus => ?_⟩
          simp only [apply, Hub.handle, hdecode, hcommand, Hub.execute, huser, hmembers, if_pos hmember,
            Hub.publishToConversation_eq]
          rfl
        · refine hignored fun cw nw bus => ?_
          simp only [apply, Hub.handle, hdecode, hcommand, Hub.execute, huser, hmembers, if_neg hmember]
      · exact hignored fun cw nw bus => by simp only [apply, Hub.handle, hdecode, hcommand, Hub.execute]

end Site

end Parlor.Chat
