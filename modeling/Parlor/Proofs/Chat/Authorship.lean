import Parlor.Proofs.Chat.Operations

/-!
# Whose messages the members get

Whatever bytes a user sends, nobody gets a message of another user because of them. The members of a
conversation that the user has joined learn that the user is typing, and nobody else hears anything. That is so
for what is told at once, and for what any hub takes from the bus later.
-/

namespace Parlor.Chat

open Json

/-! ## What may be heard -/

/--
A frame that a connection may get because a user has sent some bytes: it is about the conversation that the
bytes name, and of no other user. The sender is told of failures, and if the user has joined the conversation,
the sockets of its members hear that the user is typing, with the payload as it was read once or twice.
-/
def Says (user : UserId) (sender : ConnectionId) (bytes : Bytes) (home h : Hub) (id : ConnectionId)
    (frame : String) : Prop :=
  ∃ m : Message, frame = m.text ∧ (m.user = none ∨ m.user = some user) ∧
    ∃ sent conversation, Message.decode bytes = .ok sent ∧ sent.conversation = some conversation ∧
      m.conversation = some conversation ∧
      (id = sender ∧ m.kind = .error ∨
        m.kind = .typing ∧ sent.kind = .typing ∧ (m.payload = sent.payload ∨ sent.payload.reread = .ok m.payload) ∧
          home.conversations.contains conversation user = true ∧
          ∃ member ∈ h.members conversation, id ∈ h.socketsOf member)

/-! ## What is said -/

/-- The message that a user is typing. -/
def Message.typing (user : UserId) (conversation : ConversationId) (payload : Value) : Message :=
  (Message.toConversation .typing conversation payload).sentBy user

section Words

variable {user : UserId} {sender : ConnectionId} {bytes : Bytes} {home : Hub} {sent : Message}
  {conversation : ConversationId}

/-- The sockets of the members may hear that a user is typing who has joined the conversation. -/
theorem says_typing (hdecode : Message.decode bytes = .ok sent) (hkind : sent.kind = .typing)
    (hnamed : sent.conversation = some conversation) (hmember : home.conversations.contains conversation user = true)
    {payload : Value} (hpayload : payload = sent.payload ∨ sent.payload.reread = .ok payload) (h : Hub) :
    ∀ p ∈ (h.bulletin conversation (Message.typing user conversation payload)).posts,
      Says user sender bytes home h p.1 p.2 := by
  intro p hp
  obtain ⟨id, hid, rfl⟩ := List.mem_map.mp hp
  obtain ⟨member, hother, hsocket⟩ := List.mem_flatMap.mp hid
  exact ⟨_, rfl, .inr rfl, sent, conversation, hdecode, hnamed, rfl,
    .inr ⟨rfl, hkind, hpayload, hmember, member, hother, hsocket⟩⟩

/-- A hub that hears of somebody who is typing tells the members of the conversation. -/
theorem receive_typing (hdecode : Message.decode bytes = .ok sent) (hkind : sent.kind = .typing)
    (hnamed : sent.conversation = some conversation) (hmember : home.conversations.contains conversation user = true)
    (h other : Hub) (s : Shared) :
    s.OnlyQueues (Says user sender bytes home h)
      (h.receiveMessage s (other.bulletin conversation (Message.typing user conversation sent.payload)).message) := by
  have hecho := h.receiveMessage_bulletin s conversation (Message.typing user conversation sent.payload)
  rw [show (other.bulletin conversation (Message.typing user conversation sent.payload)).message =
    (h.bulletin conversation (Message.typing user conversation sent.payload)).message from rfl, hecho]
  refine .of_postAll (fun p hp => ?_) rfl
  obtain ⟨hid, m, hm, hframe⟩ := Bulletin.echo_posts p hp
  rw [show (h.bulletin conversation (Message.typing user conversation sent.payload)).payload =
    (Message.typing user conversation sent.payload).text from rfl,
    Message.decode_text (m := .typing user conversation sent.payload) (Message.decode_within hdecode).2] at hm
  cases hreread : sent.payload.reread with
  | error f => simp [Message.typing, Message.toConversation, Message.sentBy, hreread, Except.map] at hm
  | ok v =>
    obtain rfl : Message.typing user conversation v = m := by
      simpa [Message.typing, Message.toConversation, Message.sentBy, hreread, Except.map,
        show Kind.ofName Kind.typing.name = .typing from rfl] using hm
    exact says_typing hdecode hkind hnamed hmember (.inr hreread) h p
      (List.mem_map.mpr ⟨p.1, hid, Prod.ext rfl hframe.symm⟩)

/-- Nothing that is said in a conversation is taken for a notice. -/
theorem receiveNotice_bulletin (h other : Hub) (s : Shared) (m : Message) :
    h.receiveNotice s (other.bulletin conversation m).message = s := by
  obtain ⟨huser, hbroadcast⟩ := Channel.conversation_notice conversation
  simp only [Hub.receiveNotice, Bulletin.message, Hub.bulletin, if_neg hbroadcast, huser]
  split <;> rfl

end Words

namespace Site

/-- What a frame has to say, at once or by a hub that hears of it. -/
theorem FrameReaction.heard {t : Site} {connection : ConnectionId} {bytes : Bytes} {hub : Hub} {o : Outbox}
    (h : t.FrameReaction connection bytes hub o) :
    (∀ p ∈ o.posts, Says (t.shared.userOf connection) connection bytes t.hub hub p.1 p.2) ∧
      ∀ b ∈ o.bulletins, (∀ p ∈ b.posts, Says (t.shared.userOf connection) connection bytes t.hub hub p.1 p.2) ∧
        ∀ (h : Hub) (line : Line) (s : Shared),
          s.OnlyQueues (Says (t.shared.userOf connection) connection bytes t.hub h) (h.receive line s b.message) := by
  cases h with
  | ignored | joined | left => simp
  | refused hdecode hnamed message =>
    refine ⟨fun p hp => ?_, by simp⟩
    rw [List.mem_singleton.mp hp]
    exact ⟨_, rfl, .inl rfl, _, _, hdecode, hnamed, rfl, .inl ⟨rfl, rfl⟩⟩
  | typed hdecode hkind hnamed hmember =>
    refine ⟨by simp, fun b hb => ?_⟩
    rw [List.mem_singleton.mp hb]
    refine ⟨says_typing hdecode hkind hnamed hmember (.inl rfl) t.hub, fun h line s => ?_⟩
    cases line with
    | conversations => exact receive_typing hdecode hkind hnamed hmember h t.hub s
    | notices => exact .of_eq (congrArg Shared.connections (receiveNotice_bulletin h t.hub s _))

/-- What a frame of a user may bring about, for those who are here and for those who hear of it over the bus. -/
structure OwnWords (t : Site) (connection : ConnectionId) (bytes : Bytes) : Prop where
  /-- What comes into the queues at once may be heard by the members of the conversation. -/
  here : t.shared.OnlyQueues
    (Says (t.shared.userOf connection) connection bytes t.hub (t.apply (.frame connection bytes)).hub)
    (t.apply (.frame connection bytes)).shared
  /-- Of what has been published, any hub lets hear what may be heard in the conversation. -/
  elsewhere : ∃ messages : List Bus.Message,
    (t.apply (.frame connection bytes)).shared.bus = messages.foldl (·.deliver ·) t.shared.bus ∧
      ∀ m ∈ messages, ∀ (h : Hub) (line : Line) (s : Shared),
        s.OnlyQueues (Says (t.shared.userOf connection) connection bytes t.hub h) (h.receive line s m)
  /-- Bytes that are no message, or one that users do not send, change nothing. -/
  ignored : (∃ sent, Message.decode bytes = .ok sent ∧ sent.kind ∈ [.join, .leave, .typing]) ∨
    t.apply (.frame connection bytes) = t

/-- Whatever bytes a user sends, they are taken for the user's own messages. -/
theorem ownWords (t : Site) (connection : ConnectionId) (bytes : Bytes) : t.OwnWords connection bytes := by
  obtain ⟨hub, o, hreaction, happlied⟩ := t.frame_reacts connection bytes
  have happly : t.apply (.frame connection bytes) =
      ⟨{ hub with
          conversationWiring := t.hub.conversationWiring
          notificationWiring := t.hub.notificationWiring },
        t.shared.carry t.hub.conversationWiring.isLive o⟩ := happlied _ _ t.shared.bus
  obtain ⟨hposts, hbulletins⟩ := hreaction.heard
  obtain ⟨honly, sent, hsent, hbus⟩ := t.shared.carry_only t.hub.conversationWiring.isLive hposts
    fun b hb => (hbulletins b hb).1
  refine ⟨?_, ⟨sent.map (·.message), ?_, fun m hm h line s => ?_⟩, ?_⟩
  · rw [happly]
    exact honly
  · rw [happly]
    exact hbus
  · obtain ⟨b, hb, rfl⟩ := List.mem_map.mp hm
    exact (hbulletins b (hsent.subset hb)).2 h line s
  · cases hdecode : Message.decode bytes with
    | error fault => exact .inr (by simp only [apply, Hub.handle, hdecode])
    | ok sent =>
      cases hkind : sent.kind with
      | join | leave | typing => exact .inl ⟨sent, rfl, by simp [hkind]⟩
      | message | mention | error | serverShutdown | other =>
        refine .inr ?_
        simp only [apply, Hub.handle, hdecode, Command.ofMessage, hkind, Hub.execute]

end Site

end Parlor.Chat
