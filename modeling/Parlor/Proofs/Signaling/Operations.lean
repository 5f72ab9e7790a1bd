import Parlor.Proofs.Delivery
import Parlor.Proofs.Envelopes
import Parlor.Signaling.Hub

/-!
# Operations of the signaling hub

A frame changes who is in a room, and then the hub has something to say: to the sender, to one peer, or to
all peers of the room but one. A signal for a peer who is not here is searched for on the bus. Whoever
disconnects leaves room after room, and the others of each room are told.
-/

namespace Parlor.Signaling

open Json

/-! ## What the bus gives back -/

namespace Hub

/-- A signal for all peers of a room except the one that it is about. -/
def bulletin (h : Hub) (room : String) (signal : Signal) : Bulletin :=
  ⟨Channel.call room, signal.text, h.audience room signal.user⟩

/-- A signal for a peer who is not here. -/
def search (room : String) (signal : Signal) : Bulletin := ⟨Channel.call room, signal.text, []⟩

/-- A hub takes a bulletin from the bus as the echo of what it would tell itself. -/
def Hears (h : Hub) (b : Bulletin) : Prop :=
  ∀ s : Shared, h.receive s b.message = s.tell (b.echo Signal.decode Signal.text)

/-- Telling the peers of a room is spreading a bulletin. -/
theorem fanOut_eq (h : Hub) (s : Shared) (room : String) (signal : Signal) :
    h.fanOut s room signal = s.spread h.wiring.isLive (h.bulletin room signal) := by
  rcases hannounce : s.announce h.wiring.isLive (Channel.call room) signal.text with ⟨s, _ | _⟩
  · simp only [fanOut, Shared.spread, bulletin, hannounce]
    exact s.sendAll_eq _ _
  · simp only [fanOut, Shared.spread, bulletin, hannounce]

/-- Looking for a peer on the bus is spreading a bulletin for nobody here. -/
theorem announce_search (s : Shared) (wired : Bool) (room : String) (signal : Signal) :
    (s.announce wired (Channel.call room) signal.text).1 = s.spread wired (search room signal) := by
  rcases hannounce : s.announce wired (Channel.call room) signal.text with ⟨s, _ | _⟩
  · simp only [Shared.spread, search, hannounce]
    rfl
  · simp only [Shared.spread, search, hannounce]

/-- What is left of a signal has the same target and the same user. -/
theorem decode_text_cases {p : Number → Prop} {signal : Signal} (hpayload : Signal.PayloadWithin p signal.payload) :
    (∃ f, Signal.decode (encodeUtf8 signal.text) = .error f) ∨
      ∃ v, Signal.decode (encodeUtf8 signal.text) =
        .ok { signal with kind := .ofName signal.kind.name, payload := v } := by
  rw [Signal.decode_text hpayload]
  cases Signal.rereadPayload signal.payload with
  | error f => exact .inl ⟨f, rfl⟩
  | ok v => exact .inr ⟨v, rfl⟩

/-- A bulletin for the peers of a room is heard. -/
theorem hears_bulletin (h : Hub) {room : String} (hroom : room ≠ "") {p : Number → Prop} {signal : Signal}
    (htarget : signal.target = none) (hpayload : Signal.PayloadWithin p signal.payload) :
    h.Hears (h.bulletin room signal) := by
  intro s
  rcases decode_text_cases hpayload with ⟨f, hdecode⟩ | ⟨v, hdecode⟩
  · simp only [receive, Bulletin.message, bulletin, Channel.call?_call hroom, Bulletin.echo, hdecode]
    rfl
  · simp only [receive, Bulletin.message, bulletin, Channel.call?_call hroom, Bulletin.echo, hdecode, htarget]
    exact s.sendAll_eq _ _

/-- A search for a peer who is not here is heard, and comes to nothing. -/
theorem hears_search (h : Hub) {room : String} (hroom : room ≠ "") {p : Number → Prop} {signal : Signal}
    {target : UserId} (htarget : signal.target = some target) (habsent : h.rooms.get? room target = none)
    (hpayload : Signal.PayloadWithin p signal.payload) : h.Hears (search room signal) := by
  intro s
  rcases decode_text_cases hpayload with ⟨f, hdecode⟩ | ⟨v, hdecode⟩
  · simp only [receive, Bulletin.message, search, Channel.call?_call hroom, Bulletin.echo, hdecode]
    rfl
  · simp only [receive, Bulletin.message, search, Channel.call?_call hroom, Bulletin.echo, hdecode, htarget, deliver,
      habsent]
    rfl

/-! ## Leaving -/

/-- A hub after a user was taken out of a room. -/
def without (h : Hub) (room : String) (user : UserId) : Hub :=
  { h with rooms := h.rooms.setMembers room ((h.rooms.membersOf room).erase user) }

/-- What a removal leaves, and what is said about it. -/
def removal (h : Hub) (room : String) (user : UserId) (condition : ConnectionId → Bool) : Hub × List Bulletin :=
  match h.rooms.get? room user with
  | some peer =>
    if condition peer.connection then
      (h.without room user, [(h.without room user).bulletin room (.userLeft room user)])
    else (h, [])
  | none => (h, [])

/-- What several removals leave, and what is said about them. -/
def removals (h : Hub) (user : UserId) (condition : ConnectionId → Bool) : List String → Hub × List Bulletin
  | [] => (h, [])
  | room :: rest =>
    let (h, said) := h.removal room user condition
    let (h, more) := h.removals user condition rest
    (h, said ++ more)

/-- A removal has nothing to do with the bus. -/
theorem remove_eq (h : Hub) (wiring : Wiring) (s : Shared) (room : String) (user : UserId)
    (condition : ConnectionId → Bool) :
    { h with wiring }.remove s room user condition =
      ({ (h.removal room user condition).1 with wiring },
        s.carry wiring.isLive { bulletins := (h.removal room user condition).2 }) := by
  cases hpeer : h.rooms.get? room user with
  | none => simp only [remove, Registry.unregisterIf, hpeer, removal]; rfl
  | some peer =>
    by_cases hcondition : condition peer.connection
    · simp only [remove, Registry.unregisterIf, hpeer, removal, if_pos hcondition, fanOut_eq]
      rfl
    · simp only [remove, Registry.unregisterIf, hpeer, removal, if_neg hcondition]
      rfl

/-- Removals one after the other have nothing to do with the bus. -/
theorem foldl_remove_eq (h : Hub) (wiring : Wiring) (s : Shared) (user : UserId) (condition : ConnectionId → Bool)
    (rooms : List String) :
    rooms.foldl (fun (p : Hub × Shared) room => p.1.remove p.2 room user condition) ({ h with wiring }, s) =
      ({ (h.removals user condition rooms).1 with wiring },
        s.carry wiring.isLive { bulletins := (h.removals user condition rooms).2 }) := by
  induction rooms generalizing h s with
  | nil => rfl
  | cons room rest ih =>
    rw [List.foldl_cons, remove_eq, ih]
    simp only [removals]
    rw [Shared.carry, Shared.carry, Shared.carry, List.foldl_append]
    rfl

/-- Erasing an entry leaves those that are kept anyway. -/
theorem filter_erase {κ ν : Type} [DecidableEq κ] (t : Table κ ν) (key : κ) {keeps : κ × ν → Bool}
    (h : ∀ v, keeps (key, v) = false) : (t.erase key).filter keeps = t.filter keeps := by
  induction t with
  | nil => rfl
  | cons entry rest ih =>
    obtain ⟨k, v⟩ := entry
    rw [Table.erase, List.filter_cons]
    split
    case isTrue hk => rw [hk, h v, if_neg (by simp), ih]
    case isFalse => rw [List.filter_cons, ih]

/-- Whoever has left was not counted among the others. -/
theorem audience_without (h : Hub) (room other : String) (user : UserId) :
    (h.without room user).audience other (some user) = h.audience other (some user) := by
  rw [audience, audience, without, Registry.membersOf_setMembers]
  split
  case isTrue hroom => rw [filter_erase _ _ (by simp), hroom]
  case isFalse => rfl

/-- What is told of somebody who leaves a room is for the same peers while that user leaves others. -/
theorem bulletin_removal (h : Hub) (room other : String) (user : UserId) (condition : ConnectionId → Bool) :
    (h.removal room user condition).1.bulletin other (.userLeft other user) =
      h.bulletin other (.userLeft other user) := by
  have hout : (h.without room user).bulletin other (.userLeft other user) = h.bulletin other (.userLeft other user) :=
    congrArg (Bulletin.mk _ _) (h.audience_without room other user)
  unfold removal
  split
  · split
    · exact hout
    · rfl
  · rfl

/-- What is told of somebody who leaves several rooms is for those who were there before. -/
theorem removals_cases (h : Hub) (user : UserId) (condition : ConnectionId → Bool) (rooms : List String) :
    (∀ other, (h.removals user condition rooms).1.bulletin other (.userLeft other user) =
        h.bulletin other (.userLeft other user)) ∧
      ∀ b ∈ (h.removals user condition rooms).2, ∃ room ∈ rooms, b = h.bulletin room (.userLeft room user) := by
  induction rooms generalizing h with
  | nil => exact ⟨fun _ => rfl, by simp [removals]⟩
  | cons room rest ih =>
    obtain ⟨hlast, hsaid⟩ := ih (h.removal room user condition).1
    have hone : ∀ b ∈ (h.removal room user condition).2, b = h.bulletin room (.userLeft room user) := by
      have hfirst := h.bulletin_removal room room user condition
      revert hfirst
      unfold removal
      split
      · split
        · exact fun hfirst b hb => (List.mem_singleton.mp hb).trans hfirst
        · simp
      · simp
    refine ⟨fun other => (hlast other).trans (h.bulletin_removal room other user condition), fun b hb => ?_⟩
    rcases List.mem_append.mp hb with hb | hb
    · exact ⟨room, List.mem_cons_self, hone b hb⟩
    · obtain ⟨other, hother, rfl⟩ := hsaid b hb
      exact ⟨other, List.mem_cons_of_mem room hother, h.bulletin_removal room other user condition⟩

end Hub

/-! ## Operations -/

/-- What is asked of a hub, or happens to its connections. -/
inductive Operation where
  /-- Any bytes come from a connection in a room. -/
  | frame (room : String) (name : String) (connection : ConnectionId) (bytes : Bytes)
  | disconnect (connection : ConnectionId)
  | connect (user : UserId) (capacity : Nat)
  /-- A connection is read or closed. -/
  | connection (id : ConnectionId) (change : Connection → Connection)

/-- A hub, and what it shares. -/
structure Site where
  hub : Hub
  shared : Shared

namespace Site

/-- What an operation leads to. -/
def apply (t : Site) : Operation → Site
  | .frame room name connection bytes =>
    let (hub, shared) := t.hub.handle t.shared room name connection bytes
    { hub, shared }
  | .disconnect connection =>
    let (hub, shared) := t.hub.unregister t.shared connection
    { hub, shared }
  | .connect user capacity => { t with shared := (t.shared.connect user capacity).1 }
  | .connection id change => { t with shared := t.shared.modifyConnection id change }

/-- A hub with another wiring to another bus. -/
def rewired (t : Site) (wiring : Wiring) (bus : Bus.MemoryBus) : Site :=
  ⟨{ t.hub with wiring }, { t.shared with bus }⟩

/-- Carries out what an operation has to say. -/
def carry (t : Site) (o : Outbox) : Site := { t with shared := t.shared.carry t.hub.wiring.isLive o }

/-- What a frame has to say, and to whom. -/
inductive FrameReaction (t : Site) (room name : String) (connection : ConnectionId) (bytes : Bytes) :
    Hub → Outbox → Prop
  | ignored : t.FrameReaction room name connection bytes t.hub {}
  /-- The room is full, and the sender is told so. -/
  | refused (message : String) :
    t.FrameReaction room name connection bytes t.hub { posts := [(connection, (Signal.error room message).text)] }
  /-- The sender has joined, and is told who else is there. -/
  | joined (given : String) {hub : Hub} (others : List PeerSummary)
    (rooms : hub.rooms = t.hub.rooms.register room (t.shared.userOf connection) { name := given, connection }) :
    t.FrameReaction room name connection bytes hub
      { posts := [(connection, (Signal.roomUsers room others).text)]
        bulletins := [hub.bulletin room (.userJoined room (t.shared.userOf connection) given)] }
  /-- The sender has left. -/
  | left {peer : Peer} (present : t.hub.rooms.get? room (t.shared.userOf connection) = some peer) :
    t.FrameReaction room name connection bytes (t.hub.without room (t.shared.userOf connection))
      { bulletins := [(t.hub.without room (t.shared.userOf connection)).bulletin room
          (.userLeft room (t.shared.userOf connection))] }
  /-- A signal for a peer is handed on with the room, the sender and the target. -/
  | relayed {sent : Signal} {target : UserId} {peer : Peer} (decoded : Signal.decode bytes = .ok sent)
    (kind : sent.kind.isRelayed = true) (named : sent.target = some target)
    (present : t.hub.rooms.get? room target = some peer) :
    t.FrameReaction room name connection bytes t.hub
      { posts := [(peer.connection, Signal.text { sent with
          room := some room, user := some (t.shared.userOf connection), target := some target })] }
  /-- A signal for a peer who is not here goes to the bus only. -/
  | searched {sent : Signal} {target : UserId} (decoded : Signal.decode bytes = .ok sent)
    (kind : sent.kind.isRelayed = true) (named : sent.target = some target)
    (absent : t.hub.rooms.get? room target = none) :
    t.FrameReaction room name connection bytes t.hub
      { bulletins := [Hub.search room { sent with
          room := some room, user := some (t.shared.userOf connection), target := some target }] }

end Site

/-- A command to relay is a signal of a kind that is relayed, with its target. -/
theorem Command.relay_cases {s signal : Signal} {target : UserId} (h : ofSignal s = .ok (.relay target signal)) :
    s.kind.isRelayed = true ∧ s.target = some target ∧ signal = s := by
  unfold ofSignal at h
  split at h
  case isTrue hrelayed =>
    split at h
    case h_1 found hfound =>
      obtain ⟨rfl, rfl⟩ : found = target ∧ s = signal := by simpa using h
      exact ⟨hrelayed, hfound, rfl⟩
    case h_2 => simp at h
  case isFalse =>
    split at h <;> simp at h

namespace Site

/-- A frame changes who is in the room, and has something to say, whatever is on the bus. -/
theorem frame_reacts (t : Site) (room name : String) (connection : ConnectionId) (bytes : Bytes) :
    ∃ hub o, t.FrameReaction room name connection bytes hub o ∧ ∀ wiring bus,
      Hub.handle { t.hub with wiring } { t.shared with bus } room name connection bytes =
        ({ hub with wiring }, { t.shared with bus }.carry wiring.isLive o) := by
  have huser (bus : Bus.MemoryBus) : Shared.userOf { t.shared with bus } connection = t.shared.userOf connection := rfl
  have hignored (h : ∀ wiring bus, Hub.handle { t.hub with wiring } { t.shared with bus } room name connection bytes =
      ({ t.hub with wiring }, { t.shared with bus })) : ∃ hub o, t.FrameReaction room name connection bytes hub o ∧
      ∀ wiring bus, Hub.handle { t.hub with wiring } { t.shared with bus } room name connection bytes =
        ({ hub with wiring }, { t.shared with bus }.carry wiring.isLive o) := ⟨t.hub, {}, .ignored, h⟩
  cases hdecode : Signal.decode bytes with
  | error fault => exact hignored fun wiring bus => by simp only [Hub.handle, hdecode]
  | ok sent =>
    cases hcommand : Command.ofSignal sent with
    | error fault => exact hignored fun wiring bus => by simp only [Hub.handle, hdecode, hcommand]
    | ok command =>
      cases command with
      | unknown kind => exact hignored fun wiring bus => by simp only [Hub.handle, hdecode, hcommand, Hub.execute]
      | join given =>
        by_cases hfull : (!t.hub.rooms.contains room (t.shared.userOf connection) &&
            decide (t.hub.maxPeers ≤ t.hub.rooms.scopeSize room)) = true
        · refine ⟨t.hub, _, .refused (Failure.peerLimit room t.hub.maxPeers).clientMessage, fun wiring bus => ?_⟩
          simp only [Hub.handle, hdecode, hcommand, Hub.execute, huser, Hub.join, if_pos hfull]
          rfl
        · refine ⟨{ t.hub with rooms :=
              t.hub.rooms.register room (t.shared.userOf connection) { name := given.getD name, connection } }, _,
            .joined (given.getD name) ((t.hub.peers room).filter (·.user != t.shared.userOf connection)) rfl,
            fun wiring bus => ?_⟩
          simp only [Hub.handle, hdecode, hcommand, Hub.execute, huser, Hub.join, if_neg hfull, Hub.fanOut_eq]
          rfl
      | leave =>
        have hleave (wiring : Wiring) (bus : Bus.MemoryBus) :
            Hub.handle { t.hub with wiring } { t.shared with bus } room name connection bytes =
              Hub.remove { t.hub with wiring } { t.shared with bus } room (t.shared.userOf connection)
                fun _ => true := by
          simp only [Hub.handle, hdecode, hcommand, Hub.execute, huser, Hub.leave]
        cases hpeer : t.hub.rooms.get? room (t.shared.userOf connection) with
        | none =>
          refine hignored fun wiring bus => ?_
          rw [hleave, Hub.remove_eq]
          simp only [Hub.removal, hpeer]
          rfl
        | some peer =>
          refine ⟨_, _, .left hpeer, fun wiring bus => ?_⟩
          rw [hleave, Hub.remove_eq]
          simp only [Hub.removal, hpeer, if_true]
      | relay target signal =>
        obtain ⟨hkind, hnamed, rfl⟩ := Command.relay_cases hcommand
        cases hpeer : t.hub.rooms.get? room target with
        | some peer =>
          refine ⟨t.hub, _, .relayed hdecode hkind hnamed hpeer, fun wiring bus => ?_⟩
          simp only [Hub.handle, hdecode, hcommand, Hub.execute, huser, Hub.relay, Hub.deliver, hpeer]
          rfl
        | none =>
          refine ⟨t.hub, _, .searched hdecode hkind hnamed hpeer, fun wiring bus => ?_⟩
          simp only [Hub.handle, hdecode, hcommand, Hub.execute, huser, Hub.relay, Hub.deliver, hpeer,
            Hub.announce_search]
          rfl

end Site

end Parlor.Signaling
