import Parlor.Proofs.Game.Operations
import Parlor.Proofs.Game.Seats

/-!
# Whose words the players hear

Whatever bytes a player sends, nobody hears words of another user because of them, or of another room. The
others hear a chat, or the state of the room as it is stored, and nothing else. That is so for what is told at
once, and for what any hub takes from the bus later.
-/

namespace Parlor.Game

open Json

/-! ## States of a hub -/

namespace Site

/-- A state of a hub, with all that others may do in the meantime to what it shares. -/
inductive Reachable : Site → Prop
  | start (grace : Text.Nanos) (winPoints : Int64) (shared : Shared) (clock : String) :
    Reachable (opening grace winPoints shared clock)
  | applied {t : Site} {op : Operation} (before : t.Reachable) (keeps : op.KeepsStore) : (t.apply op).Reachable
  /-- Others use the store as they may, and everything else as they like. -/
  | elsewhere {t : Site} {shared : Shared} (before : t.Reachable) (served : t.store.Served shared.storage.store) :
    Reachable { t with shared }

/-- An operation does to the store what its reaction says. -/
theorem Reacts.store {t next : Site} {op : Operation} {o : Outbox} (h : t.Reacts op next o) :
    (t.apply op).store = next.store := by
  rw [show t.apply op = _ from h.applied t.hub.wiring t.shared.bus]
  exact congrArg Storage.store (Shared.carry_storage _ _ o)

/-- Whatever happens to a hub leads to states of it. -/
theorem Reachable.run {t : Site} (h : t.Reachable) (happenings : List Happening) : (t.run happenings).Reachable := by
  induction happenings generalizing t with
  | nil => exact h
  | cons e happenings ih => exact ih (h.applied (show (Operation.happening e).KeepsStore from trivial))

/-- The store of a hub is sound. -/
theorem Reachable.sound {t : Site} (h : t.Reachable) : t.store.Sound := by
  induction h with
  | start grace winPoints shared clock => exact Store.sound_empty clock
  | @applied t op before keeps ih =>
    have hreaction (hop : op.KeepsWiring) : (t.apply op).store.Sound := by
      obtain ⟨next, o, hreacts⟩ := t.apply_reacts hop
      exact hreacts.store ▸ hreacts.reaction.sound ih keeps
    cases op with
    | happening e => exact ih.served (t.meet_served e)
    | join | move | broadcast | storage | connection => exact hreaction trivial
  | elsewhere before served ih => exact ih.served served

end Site

/-! ## What may be heard -/

/-- A chat with the payload of some bytes, as it was read, or read again after it was on the bus. -/
def Action.IsChatOf (bytes : Bytes) (a : Action) : Prop :=
  a.kind = .chat ∧ ∃ sent, decode bytes = .ok sent ∧ sent.kind = .chat ∧
    (a.payload = sent.payload ∨ sent.payload.reread = .ok a.payload)

/-- The start of a game or its state, as it is stored. -/
def Action.IsReport (s : Store) (room : RoomId) (a : Action) : Prop :=
  ∃ r, s.room room = .ok (some r) ∧
    (a.kind = .gameStarted ∧ a.payload = r.startedPayload ∨ a.kind = .gameState ∧ a.payload = r.statePayload)

/--
A frame that a connection may get because a user has sent some bytes in a room: it names the room, and no
other user; the sender alone is told of failures, and those who are seated hear a chat or a report.
-/
def Says (user : UserId) (sender : ConnectionId) (bytes : Bytes) (room : RoomId) (s : Store)
    (seats : List ConnectionId) (id : ConnectionId) (frame : String) : Prop :=
  ∃ a : Action, frame = a.text ∧ a.room = some room ∧ (a.user = none ∨ a.user = some user) ∧
    (id = sender ∧ a.kind = .error ∨ id ∈ seats ∧ (a.IsChatOf bytes ∨ a.IsReport s room))

/-- Rooms that agree up to their times have the same state. -/
theorem Room.statePayload_of_untimed {r r' : Room} (h : r.untimed = r'.untimed) :
    r.statePayload = r'.statePayload ∧ r.startedPayload = r'.startedPayload := by
  rw [eq_of_untimed h]
  exact ⟨rfl, rfl⟩

/-- The announcements of a call that a user has made are reports of the room that was written. -/
theorem Call.isReport_announcements {call : Call} {user : UserId} (hasked : call.AskedBy user) {s : Store} {r : Room}
    (hr : s.Keeps r.id r) {a : Action} (ha : a ∈ call.announcements r) :
    a.room = some r.id ∧ (a.user = none ∨ a.user = some user) ∧ a.IsReport s r.id := by
  obtain ⟨r', hroom, hsame⟩ := hr.room
  obtain ⟨hstate, hstarted⟩ := Room.statePayload_of_untimed hsame
  cases call with
  | join other =>
    simp only [announcements, List.mem_cons, List.not_mem_nil, or_false] at ha
    rcases ha with rfl | rfl
    · exact ⟨rfl, .inl rfl, r', hroom, .inl ⟨rfl, hstarted.symm⟩⟩
    · exact ⟨rfl, .inl rfl, r', hroom, .inr ⟨rfl, hstate.symm⟩⟩
  | move other move =>
    rw [announcements, List.mem_singleton] at ha
    subst ha
    exact ⟨rfl, .inr (congrArg some hasked), r', hroom, .inr ⟨rfl, hstate.symm⟩⟩
  | forfeit | cancel => exact hasked.elim

/-- What a hub has to say to a room because a user has sent some bytes. -/
structure Action.IsSaid (user : UserId) (bytes : Bytes) (room : RoomId) (s : Store) (a : Action) : Prop where
  inRoom : a.room = some room
  byUser : a.user = none ∨ a.user = some user
  content : (∃ sent, decode bytes = .ok sent ∧ sent.kind = .chat ∧ a.kind = .chat ∧ a.payload = sent.payload) ∨
    a.IsCanonical ∧ a.IsReport s room

section Words

variable {user : UserId} {sender : ConnectionId} {bytes : Bytes} {room : RoomId} {s : Store}

/-- A failure may be heard by the sender. -/
theorem says_error (seats : List ConnectionId) (message : String) :
    Says user sender bytes room s seats sender (Action.error room message).text :=
  ⟨_, rfl, rfl, .inl rfl, .inl ⟨rfl, rfl⟩⟩

/-- What is said to a room may be heard by those who are seated there. -/
theorem Action.IsSaid.heard {a : Action} (ha : a.IsSaid user bytes room s) {seats : List ConnectionId}
    {id : ConnectionId} (hid : id ∈ seats) : Says user sender bytes room s seats id a.text := by
  refine ⟨a, rfl, ha.inRoom, ha.byUser, .inr ⟨hid, ?_⟩⟩
  rcases ha.content with ⟨sent, hdecode, hkind, hchat, hpayload⟩ | ⟨-, hreport⟩
  · exact .inl ⟨hchat, sent, hdecode, hkind, .inl hpayload⟩
  · exact .inr hreport

/-- What is said to a room may be heard, too, when it comes from the bus. -/
theorem Action.IsSaid.heard_echo {a : Action} (ha : a.IsSaid user bytes room s) (h : Hub) :
    ∀ p ∈ ((h.bulletin room a).echo decode text).posts,
      Says user sender bytes room s (h.seats.snapshot room) p.1 p.2 := by
  intro p hp
  rcases ha.content with ⟨sent, hdecode, hkind, hchat, hpayload⟩ | ⟨hcanonical, -⟩
  · -- of a chat there is left what the decoder makes of it
    obtain ⟨hid, v, hreread, -, hp⟩ := h.echo_posts room (hpayload ▸ (decode_within hdecode).2) p hp
    exact ⟨_, hp, ha.inRoom, ha.byUser,
      .inr ⟨hid, .inl ⟨by rw [hchat]; rfl, sent, hdecode, hkind, .inr (hpayload ▸ hreread)⟩⟩⟩
  · rw [Hub.echo_bulletin h room hcanonical] at hp
    obtain ⟨id, hid, rfl⟩ := List.mem_map.mp hp
    exact ha.heard hid

/-- A hub lets hear nothing else when it takes what was said to a room from the bus. -/
theorem Action.IsSaid.receive {a : Action} (ha : a.IsSaid user bytes room s) (h other : Hub) (shared : Shared) :
    shared.OnlyQueues (Says user sender bytes room s (h.seats.snapshot room))
      (h.receive shared (other.bulletin room a).message) := by
  rw [show (other.bulletin room a).message = (h.bulletin room a).message from rfl, Hub.receive_bulletin]
  exact .of_postAll (ha.heard_echo h) rfl

end Words

namespace Site

/-- What a hub has to say because of a frame. -/
theorem Reaction.isSaid {t next : Site} {room : RoomId} {connection : ConnectionId} {bytes : Bytes} {o : Outbox}
    (h : t.Reaction (.happening (.frame room connection bytes)) next o) (hs : t.store.Sound) :
    (∀ p ∈ o.posts, ∃ message, p = (connection, (Action.error room message).text)) ∧
      ∀ b ∈ o.bulletins, ∃ a : Action, b = t.hub.bulletin room a ∧
        a.IsSaid (t.shared.userOf connection) bytes room next.store := by
  cases h with
  | quiet => simp
  | refused message => exact ⟨fun p hp => ⟨message, List.mem_singleton.mp hp⟩, by simp⟩
  | @chatted _ _ _ sent hdecode hkind =>
    refine ⟨by simp, fun b hb => ⟨_, List.mem_singleton.mp hb, rfl, .inr rfl, .inl ⟨sent, hdecode, hkind, hkind, rfl⟩⟩⟩
  | called hasked hloaded hwrite haccepted =>
    obtain ⟨rfl, huser⟩ := hasked room connection bytes rfl
    obtain ⟨-, hkeeps, -⟩ := hs.landed hloaded hwrite haccepted
    refine ⟨by simp, fun b hb => ?_⟩
    obtain ⟨a, ha, rfl⟩ := List.mem_map.mp hb
    have hid := hkeeps.id
    obtain ⟨hroom, huser, hreport⟩ := Call.isReport_announcements huser (hid.symm ▸ hkeeps) ha
    exact ⟨a, rfl, hid ▸ hroom, huser, .inr ⟨Call.canonical_announcements _ _ a ha, hid ▸ hreport⟩⟩

/-- What a frame of a user may bring about, for those who are here and for those who hear of it over the bus. -/
structure OwnWords (t : Site) (room : RoomId) (connection : ConnectionId) (bytes : Bytes) : Prop where
  /-- What comes into the queues at once may be heard by those who are seated in the room. -/
  here : t.shared.OnlyQueues
    (Says (t.shared.userOf connection) connection bytes room (t.meet (.frame room connection bytes)).store
      (t.hub.seats.snapshot room))
    (t.meet (.frame room connection bytes)).shared
  /-- Of what has been published, any hub lets hear what may be heard in the room. -/
  elsewhere : ∃ messages : List Bus.Message,
    (t.meet (.frame room connection bytes)).shared.bus = messages.foldl (·.deliver ·) t.shared.bus ∧
      ∀ m ∈ messages, ∀ (h : Hub) (shared : Shared),
        shared.OnlyQueues
          (Says (t.shared.userOf connection) connection bytes room (t.meet (.frame room connection bytes)).store
            (h.seats.snapshot room))
          (h.receive shared m)
  /-- Bytes that are no action, or one that players do not send, change nothing; no room is created. -/
  ignored : (∃ sent, Action.decode bytes = .ok sent ∧ sent.kind ∈ [.joinRoom, .makeMove, .chat]) ∨
    (∃ sent, Action.decode bytes = .ok sent ∧ sent.kind = .createRoom ∧
      t.meet (.frame room connection bytes) =
        { t with shared := t.shared.post connection (Action.error room Failure.createOverSocket.clientMessage).text }) ∨
    t.meet (.frame room connection bytes) = t

/-- Whatever bytes a user sends in a room, they are taken for the user's own words. -/
theorem ownWords {t : Site} (hs : t.store.Sound) (room : RoomId) (connection : ConnectionId) (bytes : Bytes) :
    t.OwnWords room connection bytes := by
  obtain ⟨next, o, hreacts⟩ := t.apply_reacts
    (show Operation.KeepsWiring (.happening (.frame room connection bytes)) from trivial)
  have happly : (t.meet (.frame room connection bytes)).shared =
      Shared.carry t.hub.wiring.isLive { next.shared with bus := t.shared.bus } o :=
    congrArg shared (hreacts.applied t.hub.wiring t.shared.bus)
  have hstore : (t.meet (.frame room connection bytes)).store = next.store := hreacts.store
  obtain ⟨hposts, hbulletins⟩ := hreacts.reaction.isSaid hs
  obtain ⟨honly, sent, hsent, hbus⟩ := Shared.carry_only t.hub.wiring.isLive { next.shared with bus := t.shared.bus }
    (o := o) (P := Says (t.shared.userOf connection) connection bytes room next.store (t.hub.seats.snapshot room))
    (fun p hp => by
      obtain ⟨message, rfl⟩ := hposts p hp
      exact says_error _ message)
    (fun b hb p hp => by
      obtain ⟨a, rfl, ha⟩ := hbulletins b hb
      obtain ⟨id, hid, rfl⟩ := List.mem_map.mp hp
      exact ha.heard hid)
  refine ⟨?_, ⟨sent.map (·.message), ?_, fun m hm h shared => ?_⟩, ?_⟩
  · rw [hstore, happly]
    exact honly.of_start (hreacts.queues trivial)
  · rw [happly]
    exact hbus
  · rw [hstore]
    obtain ⟨b, hb, rfl⟩ := List.mem_map.mp hm
    obtain ⟨a, rfl, ha⟩ := hbulletins b (hsent.subset hb)
    exact ha.receive h t.hub shared
  · cases hdecode : Action.decode bytes with
    | error fault => exact .inr (.inr (by simp only [meet, Hub.handle, hdecode]))
    | ok sent =>
      cases hkind : sent.kind with
      | joinRoom | makeMove | chat => exact .inl ⟨sent, rfl, by simp [hkind]⟩
      | createRoom =>
        refine .inr (.inl ⟨sent, rfl, hkind, ?_⟩)
        simp only [meet, Hub.handle, hdecode, Hub.perform, Command.ofAction, hkind, Hub.execute]
      | gameStarted | gameState | error | serverShutdown | other =>
        refine .inr (.inr ?_)
        simp only [meet, Hub.handle, hdecode, Hub.perform, Command.ofAction, hkind, Hub.execute]

end Site

end Parlor.Game
