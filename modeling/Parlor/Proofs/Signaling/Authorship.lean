import Parlor.Proofs.Signaling.Operations

/-!
# Whose signals the peers get

Whatever bytes a peer sends, nobody gets a signal of another user because of them, or of another room. An
offer, an answer or a candidate goes to the one connection of the peer that it names, and the others learn who
comes and who goes. That is so for what is told at once, and for what any hub takes from the bus later.
-/

namespace Parlor.Signaling

open Json

/-! ## What may be heard -/

/-- A signal in some bytes that is handed on to its target, with the payload as it was read once or twice. -/
def Signal.IsRelayOf (bytes : Bytes) (target : UserId) (g : Signal) : Prop :=
  g.target = some target ∧ ∃ sent, decode bytes = .ok sent ∧ sent.kind.isRelayed = true ∧ sent.target = some target ∧
    g.kind = sent.kind ∧ g.username = sent.username ∧
    (g.payload = sent.payload ∨ rereadPayload sent.payload = .ok g.payload)

/--
A frame that a connection may get because a user has sent some bytes in a room: it names the room, and no
other user. The sender is told who is there or why not, the others that the user has come or gone, and a
target gets what is handed on to it.
-/
def Says (user : UserId) (sender : ConnectionId) (bytes : Bytes) (room : String) (h : Hub) (id : ConnectionId)
    (frame : String) : Prop :=
  ∃ g : Signal, frame = g.text ∧ g.room = some room ∧ (g.user = none ∨ g.user = some user) ∧
    (id = sender ∧ g.kind ∈ [.error, .roomUsers] ∨
      g.kind ∈ [.userJoined, .userLeft] ∧
        (∃ other peer, (other, peer) ∈ h.rooms.membersOf room ∧ other ≠ user ∧ peer.connection = id) ∨
      ∃ target peer, h.rooms.get? room target = some peer ∧ peer.connection = id ∧ g.IsRelayOf bytes target)

/-! ## What is said -/

/-- A signal that tells of a user who has come or gone. -/
structure Signal.IsAbout (user : UserId) (room : String) (g : Signal) : Prop where
  inRoom : g.room = some room
  byUser : g.user = some user
  kind : g.kind ∈ [.userJoined, .userLeft]
  target : g.target = none
  payload : g.payload = none

/-- A signal that is handed on. -/
structure Signal.IsRelay (user : UserId) (bytes : Bytes) (room : String) (target : UserId) (g : Signal) : Prop where
  inRoom : g.room = some room
  byUser : g.user = some user
  relay : g.IsRelayOf bytes target
  within : PayloadWithin Number.Fits g.payload
  unread : ∀ v, rereadPayload g.payload = .ok v →
    Signal.IsRelayOf bytes target { g with target := some target, payload := v }

/-- The signal that a hub hands on for a user. -/
theorem Signal.isRelay {user target : UserId} {bytes : Bytes} {sent : Signal} (hdecode : decode bytes = .ok sent)
    (hkind : sent.kind.isRelayed = true) (htarget : sent.target = some target) (room : String) :
    Signal.IsRelay user bytes room target
      { sent with room := some room, user := some user, target := some target } where
  inRoom := rfl
  byUser := rfl
  relay := ⟨rfl, sent, hdecode, hkind, htarget, rfl, rfl, .inl rfl⟩
  within := (decode_within hdecode).2
  unread _ hv := ⟨rfl, sent, hdecode, hkind, htarget, rfl, rfl, .inr hv⟩

section Words

variable {user : UserId} {sender : ConnectionId} {bytes : Bytes} {room : String}

/-- The peers of a room but one hear that this one has come or gone. -/
theorem Signal.IsAbout.heard {g : Signal} (hg : g.IsAbout user room) (h : Hub) :
    ∀ p ∈ (h.bulletin room g).posts, Says user sender bytes room h p.1 p.2 := by
  intro p hp
  obtain ⟨id, hid, rfl⟩ := List.mem_map.mp hp
  obtain ⟨⟨other, peer⟩, hentry, rfl⟩ := List.mem_map.mp hid
  obtain ⟨hmember, hother⟩ := List.mem_filter.mp hentry
  refine ⟨g, rfl, hg.inRoom, .inr hg.byUser, .inr (.inl ⟨hg.kind, other, peer, hmember, ?_, rfl⟩)⟩
  rintro rfl
  simp [hg.byUser] at hother

/-- A target gets what is handed on to it. -/
theorem Signal.IsRelay.heard {target : UserId} {g : Signal} (hg : g.IsRelay user bytes room target) {h : Hub}
    {peer : Peer} (hpeer : h.rooms.get? room target = some peer) :
    Says user sender bytes room h peer.connection g.text :=
  ⟨g, rfl, hg.inRoom, .inr hg.byUser, .inr (.inr ⟨target, peer, hpeer, rfl, hg.relay⟩)⟩

/-- On the channel of a room without a name nothing is heard. -/
theorem Hub.receive_unnamed (h : Hub) (s : Shared) (payload : String) :
    h.receive s ⟨Channel.call "", payload⟩ = s := by
  have hchannel : Channel.call? (Channel.call "") = none := by decide
  simp only [receive, hchannel]

/-- A hub that hears of somebody who has come or gone tells the others. -/
theorem Signal.IsAbout.receive {g : Signal} (hg : g.IsAbout user room) (h other : Hub) (s : Shared) :
    s.OnlyQueues (Says user sender bytes room h) (h.receive s (other.bulletin room g).message) := by
  by_cases hroom : room = ""
  · subst hroom
    rw [show (other.bulletin "" g).message = ⟨Channel.call "", g.text⟩ from rfl, Hub.receive_unnamed]
    exact .of_eq rfl
  · have hcanonical : g.IsCanonical := by
      refine ⟨?_, by simp [PayloadWithin, hg.payload]⟩
      rintro name hname
      have hkind := hg.kind
      simp [hname] at hkind
    have hhears : h.receive s (h.bulletin room g).message =
        s.tell ((h.bulletin room g).echo Signal.decode Signal.text) :=
      h.hears_bulletin hroom hg.target hcanonical.payload s
    rw [Bulletin.echo_eq (b := h.bulletin room g) hcanonical.decode_text rfl] at hhears
    rw [show (other.bulletin room g).message = (h.bulletin room g).message from rfl, hhears]
    exact .of_postAll (hg.heard h) rfl

/-- A hub that hears of a signal to hand on gives it to the target, if that is there. -/
theorem Signal.IsRelay.receive {target : UserId} {g : Signal} (hg : g.IsRelay user bytes room target) (h : Hub)
    (s : Shared) : s.OnlyQueues (Says user sender bytes room h) (h.receive s (Hub.search room g).message) := by
  by_cases hroom : room = ""
  · subst hroom
    rw [show (Hub.search "" g).message = ⟨Channel.call "", g.text⟩ from rfl, Hub.receive_unnamed]
    exact .of_eq rfl
  · simp only [Hub.receive, Bulletin.message, Hub.search, Channel.call?_call hroom, Signal.decode_text hg.within]
    cases hreread : rereadPayload g.payload with
    | error f => exact .of_eq rfl
    | ok v =>
      simp only [Except.map, hg.relay.1, Hub.deliver]
      cases hpeer : h.rooms.get? room target with
      | none => exact .of_eq rfl
      | some peer =>
        obtain ⟨-, sent, hdecode, -, -, hkind, -⟩ := hg.relay
        have hcanonical : g.kind.IsCanonical := hkind ▸ (Signal.decode_within hdecode).1
        rw [Kind.ofName_name hcanonical]
        refine .of_postAll (fun p hp => ?_) (show _ = (s.postAll
          [(peer.connection, Signal.text { g with target := some target, payload := v })]).connections from rfl)
        rw [List.mem_singleton.mp hp]
        exact ⟨_, rfl, hg.inRoom, .inr hg.byUser, .inr (.inr ⟨target, peer, hpeer, rfl, hg.unread v hreread⟩)⟩

end Words

namespace Site

/-- What a frame has to say, at once or by a hub that hears of it. -/
theorem FrameReaction.heard {t : Site} {room name : String} {connection : ConnectionId} {bytes : Bytes} {hub : Hub}
    {o : Outbox} (h : t.FrameReaction room name connection bytes hub o) :
    (∀ p ∈ o.posts, Says (t.shared.userOf connection) connection bytes room hub p.1 p.2) ∧
      ∀ b ∈ o.bulletins,
        (∀ p ∈ b.posts, Says (t.shared.userOf connection) connection bytes room hub p.1 p.2) ∧
        ∀ (h : Hub) (s : Shared),
          s.OnlyQueues (Says (t.shared.userOf connection) connection bytes room h) (h.receive s b.message) := by
  cases h with
  | ignored => simp
  | refused message =>
    refine ⟨fun p hp => ?_, by simp⟩
    rw [List.mem_singleton.mp hp]
    exact ⟨_, rfl, rfl, .inl rfl, .inl ⟨rfl, by simp [Signal.error, Signal.inRoom]⟩⟩
  | joined given others hrooms =>
    have habout :
        (Signal.userJoined room (t.shared.userOf connection) given).IsAbout (t.shared.userOf connection) room :=
      ⟨rfl, rfl, by simp [Signal.userJoined, Signal.inRoom], rfl, rfl⟩
    refine ⟨fun p hp => ?_, fun b hb => ?_⟩
    · rw [List.mem_singleton.mp hp]
      exact ⟨_, rfl, rfl, .inl rfl, .inl ⟨rfl, by simp [Signal.roomUsers, Signal.inRoom]⟩⟩
    · rw [List.mem_singleton.mp hb]
      exact ⟨habout.heard hub, fun h s => habout.receive h hub s⟩
  | left =>
    have habout : (Signal.userLeft room (t.shared.userOf connection)).IsAbout (t.shared.userOf connection) room :=
      ⟨rfl, rfl, by simp [Signal.userLeft, Signal.inRoom], rfl, rfl⟩
    refine ⟨by simp, fun b hb => ?_⟩
    rw [List.mem_singleton.mp hb]
    exact ⟨habout.heard _, fun h s => habout.receive h _ s⟩
  | relayed hdecode hkind htarget hpeer =>
    refine ⟨fun p hp => ?_, by simp⟩
    rw [List.mem_singleton.mp hp]
    exact (Signal.isRelay hdecode hkind htarget room).heard hpeer
  | searched hdecode hkind htarget =>
    refine ⟨by simp, fun b hb => ?_⟩
    rw [List.mem_singleton.mp hb]
    exact ⟨by simp [Bulletin.posts, Hub.search], fun h s => (Signal.isRelay hdecode hkind htarget room).receive h s⟩

/-- What a frame of a user may bring about, for those who are here and for those who hear of it over the bus. -/
structure OwnWords (t : Site) (room name : String) (connection : ConnectionId) (bytes : Bytes) : Prop where
  /-- What comes into the queues at once may be heard by those who are then in the room. -/
  here : t.shared.OnlyQueues
    (Says (t.shared.userOf connection) connection bytes room (t.apply (.frame room name connection bytes)).hub)
    (t.apply (.frame room name connection bytes)).shared
  /-- Of what has been published, any hub lets hear what may be heard in the room. -/
  elsewhere : ∃ messages : List Bus.Message,
    (t.apply (.frame room name connection bytes)).shared.bus = messages.foldl (·.deliver ·) t.shared.bus ∧
      ∀ m ∈ messages, ∀ (h : Hub) (s : Shared),
        s.OnlyQueues (Says (t.shared.userOf connection) connection bytes room h) (h.receive s m)
  /-- Bytes that are no signal, or one that peers do not send, change nothing. -/
  ignored : (∃ sent, Signal.decode bytes = .ok sent ∧ sent.kind ∈ [.join, .leave, .offer, .answer, .iceCandidate]) ∨
    t.apply (.frame room name connection bytes) = t

/-- Whatever bytes a user sends in a room, they are taken for the user's own signals. -/
theorem ownWords (t : Site) (room name : String) (connection : ConnectionId) (bytes : Bytes) :
    t.OwnWords room name connection bytes := by
  obtain ⟨hub, o, hreaction, happlied⟩ := t.frame_reacts room name connection bytes
  have happly : t.apply (.frame room name connection bytes) =
      ⟨{ hub with wiring := t.hub.wiring }, t.shared.carry t.hub.wiring.isLive o⟩ :=
    congrArg (fun p : Hub × Shared => Site.mk p.1 p.2) (happlied t.hub.wiring t.shared.bus)
  obtain ⟨hposts, hbulletins⟩ := hreaction.heard
  obtain ⟨honly, sent, hsent, hbus⟩ := t.shared.carry_only t.hub.wiring.isLive hposts fun b hb => (hbulletins b hb).1
  refine ⟨?_, ⟨sent.map (·.message), ?_, fun m hm h s => ?_⟩, ?_⟩
  · rw [happly]
    exact honly
  · rw [happly]
    exact hbus
  · obtain ⟨b, hb, rfl⟩ := List.mem_map.mp hm
    exact (hbulletins b (hsent.subset hb)).2 h s
  · cases hdecode : Signal.decode bytes with
    | error fault => exact .inr (by simp only [apply, Hub.handle, hdecode])
    | ok sent =>
      cases hkind : sent.kind with
      | join | leave | offer | answer | iceCandidate => exact .inl ⟨sent, rfl, by simp [hkind]⟩
      | roomUsers | userJoined | userLeft | error | serverShutdown | other =>
        refine .inr ?_
        simp only [apply, Hub.handle, hdecode, Command.ofSignal, hkind, Kind.isRelayed, Bool.false_eq_true, if_false,
          Hub.execute]

end Site

end Parlor.Signaling
