import Parlor.Proofs.Chat.Broadcasts
import Parlor.Proofs.Chat.Mentions

/-!
# Who hears of a mention

A hub that is not wired tells of every user who is mentioned in two ways: the user gets an event on every
connection, and the members of the conversation get a message on all of theirs. A connection of a member who
is mentioned gets both. The two ways are told apart in what waits for one connection: the events name its own
user, and the messages name everybody who is mentioned, in the order of the mentions.
-/

namespace Parlor.Chat

open Json

/-! ## What is told -/

/-- One frame about a mention. -/
inductive Announcement where
  /-- An event for the connections of the user who is mentioned. -/
  | event (mentioned : UserId)
  /-- A message for the connections of the members of the conversation. -/
  | message (mentioned : UserId)
  deriving DecidableEq, Repr

namespace Announcement

/-- Whom an event names. -/
def event? : Announcement → Option UserId
  | .event mentioned => some mentioned
  | .message _ => none

/-- Whom a message names. -/
def message? : Announcement → Option UserId
  | .event _ => none
  | .message mentioned => some mentioned

end Announcement

/-- The longest part of a text from its beginning that has no more than 100 characters. -/
structure IsPreview (content preview : String) : Prop where
  front : preview.toList <+: content.toList
  short : preview.toList.length ≤ 100
  longest : ∀ other : List Char, other <+: content.toList → other.length ≤ 100 → other.length ≤ preview.toList.length

section Texts

variable (timestamp : String) (conversation : ConversationId) (messageId : UInt64) (sender : UserId) (content : String)

/-- The text of a frame about a mention. -/
def Announcement.text : Announcement → String
  | .event mentioned => (Hub.mentionEvent timestamp conversation messageId sender mentioned content).text
  | .message mentioned => (Message.mention conversation sender mentioned messageId).text

/-- What a frame about a mention is read as. -/
def Announcement.IsRead (frame : String) : Announcement → Prop
  | .event mentioned => ∃ e preview, Event.decode (encodeUtf8 frame) = .ok e ∧ e.type = "chat_mention" ∧
    member? "mentioned_user_id" e.payload = some (.word mentioned) ∧
    member? "from_user_id" e.payload = some (.word sender) ∧
    member? "conversation_id" e.payload = some (.word conversation) ∧
    member? "message_id" e.payload = some (.word messageId) ∧
    member? "preview" e.payload = some (.string preview) ∧ IsPreview content preview
  | .message mentioned => ∃ m members, Message.decode (encodeUtf8 frame) = .ok m ∧ m.kind = .mention ∧
    m.conversation = some conversation ∧ m.user = some sender ∧ m.payload = .object members ∧
    member? "mentioned_user_id" members = some (.word mentioned) ∧
    member? "from_user_id" members = some (.word sender) ∧
    member? "conversation_id" members = some (.word conversation) ∧
    member? "message_id" members = some (.word messageId)

/-- The preview of a message is its front. -/
theorem isPreview_take : IsPreview content (String.ofList (content.toList.take Hub.previewLength)) := by
  rw [Hub.previewLength]
  refine ⟨?_, ?_, fun other hbegins hshort => ?_⟩
  · rw [String.toList_ofList]
    exact List.take_prefix 100 _
  · rw [String.toList_ofList]
    exact List.length_take_le 100 _
  · rw [String.toList_ofList]
    exact (List.prefix_take_iff.mpr ⟨hbegins, hshort⟩).length_le

/-- The notice of a mention keeps its form on the wire. -/
theorem isCanonical_mentionEvent (mentioned : UserId) :
    (Hub.mentionEvent timestamp conversation messageId sender mentioned content).IsCanonical := by
  have hempty : Event.IsCanonical { type := Event.mentionType } :=
    ⟨.object (show OrderedMembers [] from .nil) (by simp)⟩
  have hnamed := (((hempty.insert "conversation_id" (isPlain_word conversation _)).insert
    "message_id" (isPlain_word messageId _)).insert "mentioned_user_id" (isPlain_word mentioned _)).insert
    "from_user_id" (isPlain_word sender _)
  exact (hnamed.insert "preview" (.string _ _)).insert "created_at" (.string _ timestamp)

/-- The message of a mention keeps its form on the wire. -/
theorem isCanonical_mention (mentioned : UserId) :
    (Message.mention conversation sender mentioned messageId).IsCanonical := by
  have hnames : ["conversation_id", "from_user_id", "mentioned_user_id", "message_id"].Pairwise (· < ·) := by decide
  refine ⟨by rintro s ⟨⟩, .object ((List.pairwise_map (f := Prod.fst)).mp hnames) fun m hm => ?_⟩
  simp only [List.mem_cons, List.not_mem_nil, or_false] at hm
  obtain rfl | rfl | rfl | rfl := hm
  all_goals exact isPlain_word _ _

/-- A frame about a mention is read as it is meant. -/
theorem Announcement.isRead_text (a : Announcement) :
    a.IsRead conversation messageId sender content (a.text timestamp conversation messageId sender content) := by
  cases a with
  | event mentioned =>
    exact ⟨_, _, (isCanonical_mentionEvent timestamp conversation messageId sender content mentioned).decode_text, rfl,
      rfl, rfl, rfl, rfl, rfl, isPreview_take content⟩
  | message mentioned =>
    exact ⟨_, _, (isCanonical_mention conversation messageId sender mentioned).decode_text, rfl, rfl, rfl, rfl, rfl,
      rfl, rfl, rfl⟩

end Texts

/-! ## Who is told -/

namespace Hub

variable (h : Hub) (conversation : ConversationId) (messageId : UInt64) (sender : UserId) (content : String)

/-- The event for a user who is mentioned, and the message for the conversation. -/
def mentionBulletins (timestamp : String) (mentioned : UserId) : List Bulletin :=
  [h.notice mentioned (mentionEvent timestamp conversation messageId sender mentioned content),
   h.bulletin conversation (.mention conversation sender mentioned messageId)]

/-- Without a wiring everything about the mentions is told directly. -/
theorem foldl_announceMention {h : Hub} (hunwired : ∀ line, (h.wiring line).isLive = false) (s : Shared)
    (named : List UserId) :
    named.foldl (h.announceMention conversation messageId sender content) s = s.postAll
      ((named.flatMap (h.mentionBulletins conversation messageId sender content s.timestamp)).flatMap (·.posts)) := by
  induction named generalizing s with
  | nil => rfl
  | cons mentioned rest ih =>
    have hone : h.announceMention conversation messageId sender content s mentioned = s.postAll
        ((h.mentionBulletins conversation messageId sender content s.timestamp mentioned).flatMap (·.posts)) := by
      rw [announceMention, publishToConversation_eq, publishToUser_eq,
        show h.conversationWiring.isLive = false from hunwired .conversations,
        show h.notificationWiring.isLive = false from hunwired .notices, ← Shared.foldl_tell]
      rfl
    rw [List.foldl_cons, hone, ih, Shared.postAll_timestamp, List.flatMap_cons, List.flatMap_append,
      Shared.postAll_append]

/-- The frames about mentions that are meant for a connection. -/
def announcementsFor (named : List UserId) (id : ConnectionId) : List Announcement :=
  named.flatMap fun mentioned =>
    (if id ∈ h.socketsOf mentioned then [.event mentioned] else []) ++
      if id ∈ h.audience conversation then [.message mentioned] else []

/--
Some frames about mentions are those that concern a connection: one event if the user of the connection is
mentioned, and one message for each who is mentioned if that user is a member of the conversation.
-/
structure Concerns (named : List UserId) (id : ConnectionId) (told : List Announcement) : Prop where
  events : told.filterMap (·.event?) = named.filter (h.sockets.contains · id)
  messages : h.Addresses (.conversation conversation) id → told.filterMap (·.message?) = named
  strangers : ¬ h.Addresses (.conversation conversation) id → told.filterMap (·.message?) = []

/-- The events for a connection name the user for whom it is registered. -/
theorem event?_announcementsFor (named : List UserId) (id : ConnectionId) :
    (h.announcementsFor conversation named id).filterMap (·.event?) = named.filter (h.sockets.contains · id) := by
  induction named with
  | nil => rfl
  | cons mentioned rest ih =>
    have hsocket : id ∈ h.socketsOf mentioned ↔ h.sockets.contains mentioned id = true :=
      h.sockets.mem_members_iff mentioned id
    have hmessage (c : Prop) [Decidable c] :
        (if c then [Announcement.message mentioned] else []).filterMap (·.event?) = [] := by split <;> rfl
    rw [announcementsFor, List.flatMap_cons, ← announcementsFor, List.filterMap_append, List.filterMap_append, ih,
      hmessage, List.append_nil, List.filter_cons]
    by_cases hid : h.sockets.contains mentioned id = true
    · rw [if_pos (hsocket.mpr hid), if_pos hid]
      rfl
    · rw [if_neg (mt hsocket.mp hid), if_neg hid]
      rfl

/-- The messages for a connection of a member name all who are mentioned. -/
theorem message?_announcementsFor (named : List UserId) (id : ConnectionId) :
    (h.announcementsFor conversation named id).filterMap (·.message?) =
      if id ∈ h.audience conversation then named else [] := by
  induction named with
  | nil => simp [announcementsFor]
  | cons mentioned rest ih =>
    have hevent (c : Prop) [Decidable c] :
        (if c then [Announcement.event mentioned] else []).filterMap (·.message?) = [] := by split <;> rfl
    rw [announcementsFor, List.flatMap_cons, ← announcementsFor, List.filterMap_append, List.filterMap_append, ih,
      hevent, List.nil_append]
    split <;> rfl

/-- The frames about mentions for a connection are those that the bulletins bring it. -/
theorem framesFor_mentionBulletins {h : Hub} (hsockets : ∀ user, (h.socketsOf user).Nodup)
    (haudience : (h.audience conversation).Nodup) (timestamp : String) (named : List UserId) (id : ConnectionId) :
    Shared.framesFor id
        ((named.flatMap (h.mentionBulletins conversation messageId sender content timestamp)).flatMap (·.posts)) =
      (h.announcementsFor conversation named id).map (·.text timestamp conversation messageId sender content) := by
  rw [Shared.framesFor_bulletins, List.flatMap_assoc, announcementsFor, List.map_flatMap]
  refine congrArg (List.flatMap · named) (funext fun mentioned => ?_)
  have hevent : (h.socketsOf mentioned).count id = if id ∈ h.socketsOf mentioned then 1 else 0 :=
    (hsockets mentioned).count
  have hmessage : (h.audience conversation).count id = if id ∈ h.audience conversation then 1 else 0 :=
    haudience.count
  rw [mentionBulletins, List.flatMap_cons, List.flatMap_cons, List.flatMap_nil, List.append_nil, notice, bulletin,
    hevent, hmessage, List.map_append]
  congr 1 <;> split <;> rfl

end Hub

namespace Site

/-- The frames that are meant for a connection are those that concern it. -/
theorem Orderly.concerns {t : Site} (h : t.Orderly) (conversation : ConversationId) (named : List UserId)
    (id : ConnectionId) : t.hub.Concerns conversation named id (t.hub.announcementsFor conversation named id) := by
  have haddressed := (h.recipients (.conversation conversation)).2 id
  have hmessages := t.hub.message?_announcementsFor conversation named id
  refine ⟨t.hub.event?_announcementsFor conversation named id, fun hid => ?_, fun hid => ?_⟩
  · exact hmessages.trans (if_pos (haddressed.mpr hid))
  · exact hmessages.trans (if_neg (mt haddressed.mp hid))

/--
What comes of the mentions in a message: those who are mentioned are answered, every connection is told of
them in frames that are read as they are meant, and nothing else happens.
-/
structure Announced (t : Site) (conversation : ConversationId) (messageId : UInt64) (sender : UserId)
    (content : String) (participants : List Participant) (result : Shared × List UserId) : Prop where
  answer : result.2 = Mention.users content sender participants
  once : result.2.Nodup
  others : sender ∉ result.2
  silent : result.2 = [] → result.1 = t.shared
  /-- Nothing but the connections changes. -/
  rest : result.1 = { t.shared with connections := result.1.connections }
  present : ∀ user id, t.hub.sockets.contains user id = true → ∃ c, t.shared.connection? id = some c
  /-- A connection is sent the frames that concern it, and as long as there is room for them they are queued. -/
  told : ∀ id c, t.shared.connection? id = some c → ∃ told frames, t.hub.Concerns conversation result.2 id told ∧
    frames = told.map (·.text t.shared.timestamp conversation messageId sender content) ∧
    result.1.connection? id = some (c.sendAll frames).1 ∧
    (frames.length ≤ c.free → result.1.connection? id = some { c with waiting := c.waiting ++ frames })
  read : ∀ a : Announcement,
    a.IsRead conversation messageId sender content (a.text t.shared.timestamp conversation messageId sender content)

/--
In every reachable state of a hub that is not wired, the connections of those who are mentioned get one event
each that names their user, the connections of the members get one message for each who is mentioned in the
order of the mentions, and nobody gets anything else.
-/
theorem mentions_are_announced {t : Site} (h : t.Reachable) (hunwired : ∀ line, (t.hub.wiring line).isLive = false)
    (conversation : ConversationId) (messageId : UInt64) (sender : UserId) (content : String)
    (participants : List Participant) :
    t.Announced conversation messageId sender content participants
      (t.hub.announceMentions t.shared conversation messageId sender content participants) := by
  have horderly := h.orderly
  have hresult : (t.hub.announceMentions t.shared conversation messageId sender content participants).1 = _ :=
    Hub.foldl_announceMention conversation messageId sender content hunwired t.shared _
  refine ⟨rfl, Mention.nodup_firsts [] _, Mention.sender_notMem_users content sender participants, ?_, ?_, ?_, ?_, ?_⟩
  · intro hnobody
    exact congrArg (List.foldl _ t.shared) hnobody
  · rw [hresult, Shared.postAll_eq]
  · exact fun user id hid => horderly.present (.user user) hid
  · intro id c hc
    have hconnection := (congrArg (Shared.connection? · id) hresult).trans (Shared.connection?_postAll _ _ id)
    rw [hc, Option.map_some, Hub.framesFor_mentionBulletins conversation messageId sender content
      horderly.consistent.sockets.distinct (horderly.nodup_audience conversation)] at hconnection
    refine ⟨_, _, horderly.concerns conversation _ id, rfl, hconnection, fun hfree => ?_⟩
    exact hconnection.trans (congrArg some (Connection.sendAll_of_free hfree))
  · exact fun a => a.isRead_text _ _ _ _ _

/-- Three users: the first two are members, and the second one has two connections. -/
def tableOperations : List Operation :=
  [.connect 1 8, .connect 2 8, .connect 2 8, .connect 3 8, .register 1 0, .register 2 1, .register 2 2, .register 3 3,
   .join 1 10, .join 2 10]

/-- Those who may be mentioned at the table; the last one is not there. -/
def tableNames : List Participant := [⟨1, "ann"⟩, ⟨2, "Bob"⟩, ⟨3, "carol"⟩, ⟨4, "dave"⟩]

/-- A member, somebody who is no member, and somebody who is away are mentioned; the sender does not count. -/
theorem mentions_are_announced_table :
    let t := vacant.applyAll tableOperations
    let content := "@bob and @Carol: ask @dave, @BOB, or @ann"
    let result := t.hub.announceMentions t.shared 10 7 1 content tableNames
    t.Announced 10 7 1 content tableNames result ∧ result.2 = [2, 3, 4] ∧
      [0, 1, 2, 3].map (fun id => (result.1.queue id).length) = [3, 4, 4, 1] := by
  intro t content result
  have hreachable : t.Reachable := reachable_vacant.applyAll ⟨trivial, trivial, trivial, trivial, ⟨_, rfl, rfl⟩,
    ⟨_, rfl, rfl⟩, ⟨_, rfl, rfl⟩, ⟨_, rfl, rfl⟩, trivial, trivial, trivial⟩
  have hunwired (line : Line) : (t.hub.wiring line).isLive = false := by cases line <;> rfl
  exact ⟨mentions_are_announced hreachable hunwired 10 7 1 content tableNames, by decide +kernel, by decide +kernel⟩

end Site

end Parlor.Chat
