import Parlor.Proofs.Signaling.Views

/-!
# Connections that were replaced

Whoever joins a room again on another connection takes the place of the old one, which stays open. When the
old connection goes away the user stays in the room on the new one, and nobody hears that the user has left.
Whatever comes in on the old connection has as little effect, with one exception: a frame that asks to leave
takes the user out of the room, whatever the connection.
-/

namespace Parlor

open Json

/-! ## What is not said -/

namespace Shared

/-- A frame has come into no queue since, and onto the bus in no message. -/
structure Unsaid (frame : String) (s s' : Shared) : Prop where
  queues : OnlyQueues (fun _ other => other ≠ frame) s s'
  bus : ∃ messages : List Bus.Message, s'.bus = messages.foldl (·.deliver ·) s.bus ∧ ∀ m ∈ messages, m.payload ≠ frame

/-- Nothing is said where an outbox does not hold it. -/
theorem unsaid_carry (wired : Bool) (s : Shared) {o : Outbox} {frame : String} (hposts : ∀ p ∈ o.posts, p.2 ≠ frame)
    (hbulletins : ∀ b ∈ o.bulletins, b.payload ≠ frame) : s.Unsaid frame (s.carry wired o) := by
  have htold : ∀ b ∈ o.bulletins, ∀ p ∈ b.posts, p.2 ≠ frame := by
    intro b hb p hp
    obtain ⟨id, -, rfl⟩ := List.mem_map.mp hp
    exact hbulletins b hb
  obtain ⟨honly, sent, hsent, hbus⟩ := s.carry_only wired (P := fun _ other => other ≠ frame) hposts htold
  refine ⟨honly, sent.map (·.message), hbus, fun m hm => ?_⟩
  obtain ⟨b, hb, rfl⟩ := List.mem_map.mp hm
  exact hbulletins b (hsent.subset hb)

end Shared

namespace Signaling

/-- A signal of some kind is in some bytes. -/
def Signal.Asks (kind : Kind) (bytes : Bytes) : Prop := ∃ sent, decode bytes = .ok sent ∧ sent.kind = kind

/-- That a user has left one room is not said by saying it of another room. -/
theorem userLeft_text_ne {room other : String} (h : other ≠ room) (user : UserId) :
    (Signal.userLeft other user).text ≠ (Signal.userLeft room user).text := by
  intro htext
  have hsame := (Signal.isCanonical_userLeft other user).decode_text
  rw [htext, (Signal.isCanonical_userLeft room user).decode_text] at hsame
  have hroom : some room = some other := congrArg Signal.room (Except.ok.inj hsame)
  exact h (Option.some.inj hroom).symm

/-- That a user has left a room is not said by a signal that is handed on. -/
theorem stamped_text_ne {signal : Signal} (hkind : signal.kind.isRelayed = true)
    (hread : ∃ bytes, Signal.decode bytes = .ok signal) (room other : String) (sender target user : UserId) :
    (Hub.stamped room sender target signal).text ≠ (Signal.userLeft other user).text := by
  intro htext
  obtain ⟨bytes, hdecode⟩ := hread
  have hwithin := Signal.decode_within hdecode
  have hpayload : Signal.PayloadWithin Number.Fits (Hub.stamped room sender target signal).payload := hwithin.2
  have hleft := (Signal.isCanonical_userLeft other user).decode_text
  rw [← htext] at hleft
  rcases Hub.decode_text_cases hpayload with ⟨f, hfault⟩ | ⟨v, hsignal⟩
  · rw [hfault] at hleft
    contradiction
  · rw [hsignal, show (Hub.stamped room sender target signal).kind = signal.kind from rfl,
      Kind.ofName_name hwithin.1] at hleft
    have hleave : signal.kind = .userLeft := congrArg Signal.kind (Except.ok.inj hleft)
    rw [hleave] at hkind
    contradiction

/-! ## What a frame asks for -/

/-- Bytes that ask for something hold a signal of its kind. -/
theorem Call.ofFrame?_cases {room name : String} {connection : ConnectionId} {user : UserId} {bytes : Bytes}
    {call : Call} (h : ofFrame? room name connection user bytes = some call) :
    Signal.Asks .join bytes ∨ call = .leave room user ∧ Signal.Asks .leave bytes ∨
      ∃ target signal, call = .relay room user target signal ∧ signal.kind.isRelayed = true ∧
        Signal.decode bytes = .ok signal := by
  unfold ofFrame? at h
  split at h
  · contradiction
  rename_i sent hdecode
  split at h
  · rename_i given hcommand
    refine .inl ⟨sent, hdecode, ?_⟩
    cases hkind : sent.kind <;> simp [Command.ofSignal, hkind, Kind.isRelayed] at hcommand ⊢ <;> grind
  · rename_i hcommand
    refine .inr (.inl ⟨(Option.some.inj h).symm, sent, hdecode, ?_⟩)
    cases hkind : sent.kind <;> simp [Command.ofSignal, hkind, Kind.isRelayed] at hcommand ⊢ <;> grind
  · rename_i target signal hcommand
    obtain ⟨hkind, -, rfl⟩ := Command.relay_cases hcommand
    exact .inr (.inr ⟨target, signal, (Option.some.inj h).symm, hkind, hdecode⟩)
  · contradiction
  · contradiction

/-- Whoever asks to leave leaves the room of the socket. -/
theorem Call.ofFrame?_leave {bytes : Bytes} (h : Signal.Asks .leave bytes) (room name : String)
    (connection : ConnectionId) (user : UserId) :
    ofFrame? room name connection user bytes = some (.leave room user) := by
  obtain ⟨sent, hdecode, hkind⟩ := h
  simp [ofFrame?, hdecode, Command.ofSignal, hkind, Kind.isRelayed]

/-! ## What becomes of the others -/

namespace Hub

/-- Handing a signal on says nothing else. -/
theorem unsaid_relay (h : Hub) (s : Shared) {room : String} {sender target : UserId} {signal : Signal} {frame : String}
    (hframe : (stamped room sender target signal).text ≠ frame) :
    s.Unsaid frame (h.relay s room sender target signal) := by
  cases hpeer : h.rooms.get? room target with
  | some peer =>
    have hrelay : h.relay s room sender target signal =
        s.carry h.wiring.isLive { posts := [(peer.connection, (stamped room sender target signal).text)] } := by
      simp only [relay, deliver, hpeer]
      rfl
    rw [hrelay]
    exact s.unsaid_carry _ (fun p hp => List.mem_singleton.mp hp ▸ hframe) (by simp)
  | none =>
    have hrelay : h.relay s room sender target signal =
        s.carry h.wiring.isLive { bulletins := [search room (stamped room sender target signal)] } := by
      simp only [relay, deliver, hpeer, announce_search]
      rfl
    rw [hrelay]
    exact s.unsaid_carry _ (by simp) fun b hb => List.mem_singleton.mp hb ▸ hframe

/-- Whoever is in a room stays there when the condition is not satisfied, or the room is another one. -/
theorem removal_keeps {h : Hub} {room other : String} {user : UserId} {peer : Peer} {condition : ConnectionId → Bool}
    (hpeer : h.rooms.get? room user = some peer) (hstays : room = other → condition peer.connection = false) :
    (h.removal other user condition).1.rooms.get? room user = some peer := by
  unfold removal
  split
  case h_1 found hfound =>
    split
    case isTrue htrue =>
      rw [without, Registry.get?_setMembers_erase, if_neg, hpeer]
      rintro ⟨rfl, -⟩
      obtain rfl := Option.some.inj (hfound.symm.trans hpeer)
      simp [hstays rfl] at htrue
    case isFalse => exact hpeer
  case h_2 => exact hpeer

/-- Only of rooms in which a user was on a connection that satisfies the condition it is said that the user has left. -/
theorem removal_said {h : Hub} {room : String} {user : UserId} {condition : ConnectionId → Bool} {b : Bulletin}
    (hb : b ∈ (h.removal room user condition).2) :
    b.payload = (Signal.userLeft room user).text ∧
      ∃ peer, h.rooms.get? room user = some peer ∧ condition peer.connection = true := by
  unfold removal at hb
  split at hb
  case h_1 peer hpeer =>
    split at hb
    case isTrue hcondition => exact ⟨List.mem_singleton.mp hb ▸ rfl, peer, hpeer, hcondition⟩
    case isFalse => contradiction
  case h_2 => contradiction

/-- Whoever is in a room that is not left, or not by that connection, stays, and nobody is told otherwise. -/
theorem removals_spare {h : Hub} {room : String} {rooms : List String} {user : UserId} {peer : Peer}
    {condition : ConnectionId → Bool} (hpeer : h.rooms.get? room user = some peer)
    (hstays : room ∈ rooms → condition peer.connection = false) :
    (h.removals user condition rooms).1.rooms.get? room user = some peer ∧
      ∀ b ∈ (h.removals user condition rooms).2, b.payload ≠ (Signal.userLeft room user).text := by
  induction rooms generalizing h with
  | nil => exact ⟨hpeer, by simp [removals]⟩
  | cons other rest ih =>
    have hfirst : room = other → condition peer.connection = false :=
      fun hroom => hstays (hroom ▸ List.mem_cons_self)
    obtain ⟨hkept, hunsaid⟩ := ih (removal_keeps hpeer hfirst) fun hroom => hstays (List.mem_cons_of_mem other hroom)
    refine ⟨hkept, fun b hb => ?_⟩
    rcases List.mem_append.mp hb with hb | hb
    · obtain ⟨hpayload, found, hfound, htrue⟩ := removal_said hb
      rw [hpayload]
      refine userLeft_text_ne ?_ user
      rintro rfl
      obtain rfl := Option.some.inj (hfound.symm.trans hpeer)
      simp [hfirst rfl] at htrue
    · exact hunsaid b hb

end Hub

namespace Site

/-- A user is still in a room as before, and nobody has heard or will hear that the user has left it. -/
structure Spares (t t' : Site) (room : String) (user : UserId) : Prop where
  entry : t'.hub.rooms.get? room user = t.hub.rooms.get? room user
  unsaid : t.shared.Unsaid (Signal.userLeft room user).text t'.shared

/-- Where a hub takes a user out of several rooms, and tells the others. -/
def parted (t : Site) (user : UserId) (condition : ConnectionId → Bool) (rooms : List String) : Site :=
  ⟨{ (t.hub.removals user condition rooms).1 with wiring := t.hub.wiring },
    t.shared.carry t.hub.wiring.isLive { bulletins := (t.hub.removals user condition rooms).2 }⟩

/-- A connection that goes away takes its user out of its rooms. -/
theorem apply_disconnect (t : Site) (connection : ConnectionId) :
    t.apply (.disconnect connection) = t.parted (t.shared.userOf connection) (· == connection)
      (t.hub.roomsOf (t.shared.userOf connection) connection) :=
  congrArg (fun p : Hub × Shared => Site.mk p.1 p.2) (t.hub.foldl_remove_eq t.hub.wiring t.shared _ _ _)

/-- A call to leave takes the user out of the room, whatever the connection. -/
theorem serve_leave (t : Site) (room : String) (user : UserId) :
    t.serve (.leave room user) = t.parted user (fun _ => true) [room] :=
  congrArg (fun p : Hub × Shared => Site.mk p.1 p.2)
    (t.hub.foldl_remove_eq t.hub.wiring t.shared user (fun _ => true) [room])

section Entry

variable {t : Site} {room : String} {user : UserId} {peer : Peer} (hpeer : t.hub.rooms.get? room user = some peer)

include hpeer

/-- Whoever is in a room that is not among those left, or not by that connection, is spared. -/
theorem spares_parted {condition : ConnectionId → Bool} {rooms : List String}
    (hstays : room ∈ rooms → condition peer.connection = false) :
    t.Spares (t.parted user condition rooms) room user := by
  obtain ⟨hkept, hunsaid⟩ := Hub.removals_spare hpeer hstays
  exact ⟨hkept.trans hpeer.symm, t.shared.unsaid_carry _ (by simp) hunsaid⟩

/-- Whoever is in a room is taken out by a call to leave it, and the others are told. -/
theorem serve_leave_evicts :
    t.serve (.leave room user) = ⟨t.hub.without room user,
      t.shared.spread t.hub.wiring.isLive ((t.hub.without room user).bulletin room (.userLeft room user))⟩ := by
  simp only [serve_leave, parted, Hub.removals, Hub.removal, hpeer, if_true]
  rfl

/-- Whoever is taken out by a call to leave is not spared. -/
theorem not_spares_leave : ¬ t.Spares (t.serve (.leave room user)) room user := by
  intro hspares
  have hentry := hspares.entry
  rw [serve_leave_evicts hpeer, Hub.without, Registry.get?_setMembers_erase, if_pos ⟨rfl, rfl⟩, hpeer] at hentry
  contradiction

/-- A frame that does not ask to join spares a user of its own, unless it asks to leave the room. -/
theorem frame_spares_iff {connection : ConnectionId} (howner : t.shared.userOf connection = user) {socketRoom : String}
    {bytes : Bytes} (hjoin : ¬ Signal.Asks .join bytes) (name : String) :
    t.Spares (t.apply (.frame socketRoom name connection bytes)) room user ↔
      ¬ (socketRoom = room ∧ Signal.Asks .leave bytes) := by
  have happly : t.apply (.frame socketRoom name connection bytes) =
      (Call.ofFrame? socketRoom name connection user bytes).elim t t.serve := by
    simp only [apply, Hub.handle_eq, howner]
    cases Call.ofFrame? socketRoom name connection user bytes <;> rfl
  constructor
  · rintro hspares ⟨rfl, hleave⟩
    rw [happly, Call.ofFrame?_leave hleave] at hspares
    exact not_spares_leave hpeer hspares
  · intro hstays
    rw [happly]
    cases hcall : Call.ofFrame? socketRoom name connection user bytes with
    | none => exact ⟨rfl, t.shared.unsaid_carry false (o := {}) (by simp) (by simp)⟩
    | some call =>
      rcases Call.ofFrame?_cases hcall with hasked | ⟨rfl, hleave⟩ | ⟨target, signal, rfl, hkind, hdecode⟩
      · exact absurd hasked hjoin
      · rw [Option.elim_some, serve_leave]
        exact spares_parted hpeer fun hroom => absurd ⟨(List.mem_singleton.mp hroom).symm, hleave⟩ hstays
      · exact ⟨rfl, t.hub.unsaid_relay t.shared (stamped_text_ne hkind ⟨bytes, hdecode⟩ _ _ _ _ _)⟩

end Entry

/--
A user is in a room on one connection. Whatever comes in on another connection of the user, as long as it does
not ask to join: the user stays in the room as before, and nobody hears that the user has left it, exactly if it
is no frame on a socket of the room that asks to leave; by such a frame the user is taken out, and the others
are told. When the other connection goes away, the user always stays and nobody hears otherwise.
-/
theorem stale_connection_evicts_iff {t : Site} {room : String} {user : UserId} {peer : Peer}
    (hpeer : t.hub.rooms.get? room user = some peer) {connection : ConnectionId}
    (howner : t.shared.userOf connection = user) (hstale : connection ≠ peer.connection) :
    t.Spares (t.apply (.disconnect connection)) room user ∧
      ∀ socketRoom name bytes, ¬ Signal.Asks .join bytes →
        (t.Spares (t.apply (.frame socketRoom name connection bytes)) room user ↔
          ¬ (socketRoom = room ∧ Signal.Asks .leave bytes)) ∧
        (socketRoom = room → Signal.Asks .leave bytes → t.apply (.frame socketRoom name connection bytes) =
          ⟨t.hub.without room user, t.shared.spread t.hub.wiring.isLive
            ((t.hub.without room user).bulletin room (.userLeft room user))⟩) := by
  have hother : (peer.connection == connection) = false := by simpa using Ne.symm hstale
  refine ⟨?_, fun socketRoom name bytes hjoin => ⟨frame_spares_iff hpeer howner hjoin name, fun hroom hleave => ?_⟩⟩
  · rw [apply_disconnect, howner]
    exact spares_parted hpeer fun _ => hother
  · subst hroom
    rw [← serve_leave_evicts hpeer]
    simp only [apply, Hub.handle_eq, howner, Call.ofFrame?_leave hleave, serve]

/-- A user joins a call, and joins it again on a second connection; another user joins too. -/
def rejoined : Site :=
  hall.run [.connect 1 8, .connect 1 8, .connect 2 8, .join "hall" "ann" 0, .join "hall" "ann" 1, .join "hall" "bob" 2]

/-- A frame that asks to leave. -/
def farewellBytes : Bytes := encodeUtf8 (Signal.text { kind := .leave })

/-- The connection that was replaced takes the user out by a frame that asks to leave, and not by going away. -/
theorem rejoined_leaves :
    rejoined.hub.rooms.get? "hall" 1 = some ⟨"ann", 1⟩ ∧ rejoined.shared.userOf 0 = 1 ∧
      Signal.Asks .leave farewellBytes ∧ ¬ Signal.Asks .join farewellBytes ∧
      rejoined.Spares (rejoined.apply (.disconnect 0)) "hall" 1 ∧
      ¬ rejoined.Spares (rejoined.apply (.frame "hall" "ann" 0 farewellBytes)) "hall" 1 := by
  have hpeer : rejoined.hub.rooms.get? "hall" 1 = some ⟨"ann", 1⟩ := by decide +kernel
  have howner : rejoined.shared.userOf 0 = 1 := by decide +kernel
  have hdecode : Signal.decode farewellBytes = .ok { kind := .leave } :=
    Signal.IsCanonical.decode_text ⟨by simp [Kind.IsCanonical], by simp [Signal.PayloadWithin]⟩
  have hleave : Signal.Asks .leave farewellBytes := ⟨_, hdecode, rfl⟩
  have hjoin : ¬ Signal.Asks .join farewellBytes := by
    rintro ⟨sent, hsent, hkind⟩
    rw [hdecode] at hsent
    rw [← Except.ok.inj hsent] at hkind
    contradiction
  obtain ⟨hspares, hframe⟩ := stale_connection_evicts_iff hpeer howner (by decide)
  exact ⟨hpeer, howner, hleave, hjoin, hspares, fun hstays =>
    (hframe "hall" "ann" farewellBytes hjoin).1.mp hstays ⟨rfl, hleave⟩⟩

/-- The connection that was replaced asks to leave: the user is taken out, and the other one hears of it. -/
theorem replaced_connection_evicts :
    rejoined.hub.rooms.get? "hall" 1 = some ⟨"ann", 1⟩ ∧ rejoined.shared.userOf 0 = 1 ∧
      (Signal.decode farewellBytes).map (·.kind) = .ok .leave ∧
      (rejoined.meet (.frame "hall" "ann" 0 farewellBytes)).hub.rooms.get? "hall" 1 = none ∧
      rejoined.shared.gained (rejoined.meet (.frame "hall" "ann" 0 farewellBytes)).shared 2 =
        [(Signal.userLeft "hall" 1).text] := by
  decide +kernel

end Site

end Signaling

end Parlor
