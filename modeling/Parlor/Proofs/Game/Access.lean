import Parlor.Proofs.Game.Attempts

/-!
# Access without trouble

What the operations of a hub do when nothing is wrong with the access to the store: each makes exactly
one attempt at a room, or leaves the store as it is. As long as the bus answers, none of them takes time.
-/

namespace Parlor

open Text (Nanos)

/-! ## Time -/

/-- Nobody takes messages from a bus. -/
def Bus.MemoryBus.Unheard (bus : Bus.MemoryBus) : Prop := bus.subscriptions = []

/-- What the servers share has changed without taking time, and nobody has subscribed. -/
structure Shared.Instant (s s' : Shared) : Prop where
  now : s'.now = s.now
  mode : s'.bus.mode = s.bus.mode
  unheard : s.bus.Unheard → s'.bus.Unheard

namespace Shared

/-- Nothing takes no time. -/
theorem Instant.refl (s : Shared) : s.Instant s := ⟨rfl, rfl, id⟩

/-- What takes no time twice takes no time. -/
theorem Instant.trans {s s' s'' : Shared} (h : s.Instant s') (h' : s'.Instant s'') : s.Instant s'' :=
  ⟨h'.now.trans h.now, h'.mode.trans h.mode, h'.unheard ∘ h.unheard⟩

/-- Sending takes no time. -/
theorem send_instant (s : Shared) (id : ConnectionId) (frame : String) : s.Instant (s.send id frame).1 := by
  unfold send
  split <;> exact ⟨rfl, rfl, fun hunheard => hunheard⟩

/-- Sending to several connections takes no time. -/
theorem sendAll_instant (s : Shared) (frame : String) (ids : List ConnectionId) :
    s.Instant (s.sendAll frame ids).1 := by
  induction ids generalizing s with
  | nil => exact .refl s
  | cons id rest ih =>
    rw [sendAll]
    exact (s.send_instant id frame).trans (ih _)

/-- Dismissing connections takes no time. -/
theorem dismiss_instant (s : Shared) (farewells : List (ConnectionId × String)) : s.Instant (s.dismiss farewells) := by
  unfold dismiss
  induction farewells generalizing s with
  | nil => exact .refl s
  | cons farewell rest ih =>
    have hpost : s.Instant ((s.post farewell.1 farewell.2).close farewell.1) :=
      (s.send_instant farewell.1 farewell.2).trans ⟨rfl, rfl, id⟩
    exact hpost.trans (ih _)

/-- Publishing takes no time on a bus that answers. -/
theorem announce_instant {s : Shared} (h : s.bus.mode ≠ .stalled) (wired : Bool) (channel payload : String) :
    s.Instant (s.announce wired channel payload).1 := by
  have hbus : (s.bus.publish s.patience ⟨channel, payload⟩).1.mode = s.bus.mode ∧
      (s.bus.Unheard → (s.bus.publish s.patience ⟨channel, payload⟩).1.Unheard) := by
    unfold Bus.MemoryBus.publish
    split
    · exact ⟨rfl, id⟩
    · exact ⟨rfl, id⟩
    all_goals exact ⟨rfl, fun hunheard => List.map_eq_nil_iff.mpr hunheard⟩
  unfold announce
  split
  · exact ⟨by simp only [publish, if_neg h], hbus.1, hbus.2⟩
  · exact .refl s

end Shared

namespace Wiring

/-- Collecting messages takes no time. -/
theorem collect_instant (s : Shared) (ids : List Bus.SubscriptionId) : s.Instant (collect s ids).1 := by
  induction ids generalizing s with
  | nil => exact .refl s
  | cons id rest ih =>
    have hread : s.Instant { s with bus := (s.bus.read id).1 } := by
      unfold Bus.MemoryBus.read
      split
      case h_1 => exact .refl s
      case h_2 subscription hsubscription =>
        refine ⟨rfl, rfl, fun hunheard => ?_⟩
        rw [show s.bus.subscriptions = [] from hunheard] at hsubscription
        contradiction
    rw [collect]
    exact hread.trans (ih _)

/-- Pulling takes no time if receiving does not. -/
theorem pull_instant {receive : Shared → Bus.Message → Shared} (hreceive : ∀ (s : Shared) m, s.Instant (receive s m))
    (w : Wiring) (s : Shared) : s.Instant (w.pull receive s) := by
  have hfold (messages : List Bus.Message) (s : Shared) : s.Instant (messages.foldl receive s) := by
    induction messages generalizing s with
    | nil => exact .refl s
    | cons m rest ih => exact (hreceive s m).trans (ih _)
  rw [pull]
  exact (collect_instant s w.subscriptions).trans (hfold _ _)

end Wiring

namespace Game

namespace Hub

/-- Telling a room takes no time on a bus that answers. -/
theorem fanOut_instant (h : Hub) {s : Shared} (hs : s.bus.mode ≠ .stalled) (room : RoomId) (action : Action) :
    s.Instant (h.fanOut s room action) := by
  have hannounce := Shared.announce_instant hs h.wiring.isLive (Channel.game room) action.text
  unfold fanOut
  split <;> rename_i hcase <;> rw [hcase] at hannounce
  · exact hannounce
  · exact hannounce.trans (Shared.sendAll_instant _ _ _)

/-- Taking in what waits on the bus takes no time. -/
theorem pull_instant (h : Hub) (s : Shared) : s.Instant (h.pull s) := by
  refine Wiring.pull_instant (fun s m => ?_) _ _
  unfold receive
  split
  · exact s.sendAll_instant _ _
  · exact .refl s

/-- A call takes no time. -/
theorem call_instant {α : Type} (s : Shared) (request : Storage → Storage × Except StorageFault α) :
    s.Instant (s.call request).1 := ⟨rfl, rfl, id⟩

/-- Loading a room takes no time. -/
theorem room_instant (s : Shared) (id : RoomId) : s.Instant (room s id).1 := by
  have hcall := call_instant s (·.room id)
  unfold room
  split <;> rename_i hcase <;> rw [hcase] at hcall <;> exact hcall

/-- Joining takes no time on a bus that answers. -/
theorem joinRoom_instant (h : Hub) {s : Shared} (hs : s.bus.mode ≠ .stalled) (id : RoomId) (user : UserId) :
    s.Instant (h.joinRoom s id user).1 := by
  have hroom := room_instant s id
  rcases hload : room s id with ⟨t, f | r⟩ <;> rw [hload] at hroom
  · simpa only [joinRoom, hload] using hroom
  · rcases hjoin : r.join user with ⟨next, f | ⟨⟩⟩
    · simpa only [joinRoom, hload, hjoin] using hroom
    · have hcall := hroom.trans (call_instant t (·.updateRoom next .pending))
      rcases hwrite : t.call (·.updateRoom next .pending) with ⟨u, f | _ | _⟩ <;> rw [hwrite] at hcall
      · simpa only [joinRoom, hload, hjoin, hwrite] using hcall
      · simpa only [joinRoom, hload, hjoin, hwrite] using hcall
      · simp only [joinRoom, hload, hjoin, hwrite]
        have hstarted := hcall.trans (h.fanOut_instant (hcall.mode ▸ hs) id (startedAction next))
        exact hstarted.trans (h.fanOut_instant (hstarted.mode ▸ hs) id (stateAction next))

/-- Moving takes no time on a bus that answers. -/
theorem makeMove_instant (h : Hub) {s : Shared} (hs : s.bus.mode ≠ .stalled) (id : RoomId) (user : UserId)
    (move : Move) (payload : Json.Value) : s.Instant (h.makeMove s id user move payload).1 := by
  have hroom := room_instant s id
  rcases hload : room s id with ⟨t, f | r⟩ <;> rw [hload] at hroom
  · simpa only [makeMove, hload] using hroom
  · rcases hmove : r.applyMove user move with ⟨next, f | outcome⟩
    · simpa only [makeMove, hload, hmove] using hroom
    · have hcall := hroom.trans
        (call_instant t (·.commitMove next user payload.text next.finish? h.winPoints))
      rcases hwrite : t.call (·.commitMove next user payload.text next.finish? h.winPoints) with
        ⟨u, f | _ | _⟩ <;> rw [hwrite] at hcall
      · simpa only [makeMove, hload, hmove, hwrite] using hcall
      · simpa only [makeMove, hload, hmove, hwrite] using hcall
      · simp only [makeMove, hload, hmove, hwrite]
        exact hcall.trans (h.fanOut_instant (hcall.mode ▸ hs) id _)

/-- Giving up a room takes no time. -/
theorem cancelPending_instant (s : Shared) (id : RoomId) (creator : UserId) :
    s.Instant (cancelPending s id creator) := by
  have hroom := room_instant s id
  rcases hload : room s id with ⟨t, f | r⟩ <;> rw [hload] at hroom
  · simpa only [cancelPending, hload] using hroom
  · simp only [cancelPending, hload]
    split
    · rcases r.cancel with ⟨next, f | ⟨⟩⟩
      · exact hroom
      · exact hroom.trans (call_instant t (·.updateRoom next .pending))
    · exact hroom

/-- A forfeit takes no time on a bus that answers. -/
theorem forfeitIfAbsent_instant (h : Hub) {s : Shared} (hs : s.bus.mode ≠ .stalled) (id : RoomId)
    (user : UserId) : s.Instant (h.forfeitIfAbsent s id user).1 := by
  have hroom := room_instant s id
  unfold forfeitIfAbsent
  split
  · exact .refl s
  rcases hload : room s id with ⟨t, f | r⟩ <;> rw [hload] at hroom
  · exact hroom
  · dsimp only
    split
    · rcases r.forfeit user with ⟨next, f | finish⟩
      · exact hroom
      · have hcall := hroom.trans (call_instant t (·.finishRoom next finish h.winPoints))
        dsimp only
        rcases hwrite : t.call (·.finishRoom next finish h.winPoints) with ⟨u, f | _ | _⟩ <;> rw [hwrite] at hcall
        · exact hcall
        · exact hcall
        · exact hcall.trans (h.fanOut_instant (hcall.mode ▸ hs) id _)
    · exact hroom

/-- Leaving takes no time. -/
theorem unregister_instant (h : Hub) (s : Shared) (id : RoomId) (connection : ConnectionId) :
    s.Instant (h.unregister s id connection).2 := by
  have hleaving (h : Hub) (user : UserId) : s.Instant (h.afterLeaving s id user).2 := by
    have hcall := call_instant s (·.room id)
    rcases hload : s.call (·.room id) with ⟨t, f | _ | r⟩ <;> rw [hload] at hcall <;>
      simp only [afterLeaving, hload]
    · exact hcall
    · exact hcall
    · split
      · exact hcall.trans (cancelPending_instant t id user)
      · split
        · unfold arm
          split
          · exact hcall
          · exact ⟨hcall.now, hcall.mode, hcall.unheard⟩
        · exact hcall
  unfold unregister
  dsimp only
  split
  · exact .refl s
  · exact hleaving _ _

/-- A frame takes no time on a bus that answers. -/
theorem handle_instant (h : Hub) {s : Shared} (hs : s.bus.mode ≠ .stalled) (room : RoomId)
    (connection : ConnectionId) (frame : Json.Bytes) : s.Instant (h.handle s room connection frame) := by
  have hperform (user : UserId) (action : Action) : s.Instant (h.perform s room user action).1 := by
    unfold perform
    split
    case h_1 command _ =>
      cases command with
      | joinRoom => exact h.joinRoom_instant hs room user
      | makeMove move => exact h.makeMove_instant hs room user move action.payload
      | chat payload => exact h.fanOut_instant hs room action
      | createRoom | unknown => exact .refl s
    case h_2 => exact .refl s
  cases hdecode : Action.decode frame with
  | error fault => simpa only [handle, hdecode] using Shared.Instant.refl s
  | ok action =>
    have hdone := hperform (s.userOf connection)
      { action with room := some room, user := some (s.userOf connection) }
    simp only [handle, hdecode]
    split <;> rename_i hcase <;> rw [hcase] at hdone
    · exact hdone
    · exact hdone.trans (Shared.send_instant _ _ _)

end Hub

end Game

/-! ## The store without trouble -/

namespace Game

namespace Storage

variable {s : Storage}

/-- Without trouble a call meets none. -/
theorem call_of_untroubled (h : s.trouble = .none) : s.call = (s, .none) := by
  unfold call
  split <;> simp_all

/-- Without trouble a call that reads is answered. -/
theorem read_of_untroubled (h : s.trouble = .none) {α : Type} (query : Store → Except StorageFault α) :
    s.read query = (s, query s.store) := by rw [read, call_of_untroubled h]

/-- Without trouble a call that inserts makes its write. -/
theorem insert_of_untroubled (h : s.trouble = .none) {α : Type} (write : Store → Store × Except StorageFault α) :
    s.insert write = ({ s with store := (write s.store).1 }, (write s.store).2) := by
  rw [insert, call_of_untroubled h]

/-- Without trouble a call that writes makes its write. -/
theorem write_of_untroubled (h : s.trouble = .none) {α : Type} (lost : α) (write : Store → Store × α) :
    s.write lost write = ({ s with store := (write s.store).1 }, .ok (write s.store).2) := by
  rw [Storage.write, call_of_untroubled h]

end Storage

namespace Hub

variable {s : Shared} (hs : s.storage.trouble = .none)

include hs

/-- Without trouble a look at a room is answered by the store. -/
theorem call_room (id : RoomId) :
    s.call (·.room id) = (s, (s.storage.store.room id).mapError Failure.storage) := by
  simp only [Shared.call, Storage.room, Storage.read_of_untroubled hs]

/-- Without trouble a room is loaded as it is stored. -/
theorem room_eq (id : RoomId) :
    room s id = (s, match s.storage.store.room id with
      | .ok (some r) => .ok r
      | .ok none => .error (.roomNotFound id)
      | .error fault => .error (.storage fault)) := by
  rw [room, call_room hs]
  cases s.storage.store.room id with
  | error fault => rfl
  | ok found => cases found <;> rfl

/-- Without trouble a write is made. -/
theorem call_write {α : Type} (lost : α) (write : Store → Store × α) :
    s.call (·.write lost write) = ({ s with storage := { s.storage with store := (write s.storage.store).1 } },
      .ok (write s.storage.store).2) := by
  simp only [Shared.call, Storage.write_of_untroubled hs, Except.mapError]

/-- A join is one attempt. -/
theorem joinRoom_storage (h : Hub) (id : RoomId) (user : UserId) (data : String) :
    (h.joinRoom s id user).1.storage =
      { s.storage with store := s.storage.store.attempt id (.join user) data h.winPoints } := by
  rw [joinRoom, room_eq hs, Store.attempt]
  rcases s.storage.store.room id with fault | _ | r
  · rfl
  · rfl
  · rcases hjoin : r.join user with ⟨next, f | ⟨⟩⟩
    · simp only [Room.write?, hjoin]
    · simp only [Room.write?, hjoin, Storage.updateRoom, call_write hs, Write.land]
      rcases s.storage.store.updateRoom next .pending with ⟨store, _ | _⟩ <;> simp

/-- A move is one attempt, with its payload as the data. -/
theorem makeMove_storage (h : Hub) (id : RoomId) (user : UserId) (move : Move) (payload : Json.Value) :
    (h.makeMove s id user move payload).1.storage =
      { s.storage with store := s.storage.store.attempt id (.move user move) payload.text h.winPoints } := by
  rw [makeMove, room_eq hs, Store.attempt]
  rcases s.storage.store.room id with fault | _ | r
  · rfl
  · rfl
  · rcases hmove : r.applyMove user move with ⟨next, f | outcome⟩
    · simp only [Room.write?, hmove]
    · simp only [Room.write?, hmove, Storage.commitMove, call_write hs, Write.land]
      rcases s.storage.store.commitMove next user payload.text next.finish? h.winPoints with ⟨store, _ | _⟩ <;> simp

/-- Giving up a room that waits is one attempt, for its creator. -/
theorem cancelPending_of_waits {id : RoomId} {creator : UserId} {r : Room}
    (hroom : s.storage.store.room id = .ok (some r)) (hwaits : r.status = .pending ∧ r.creator = creator)
    (data : String) (winPoints : Int64) :
    cancelPending s id creator =
      { s with storage := { s.storage with store := s.storage.store.attempt id .cancel data winPoints } } := by
  rw [cancelPending, room_eq hs, Store.attempt, hroom]
  simp only [if_pos hwaits]
  rcases hcancel : r.cancel with ⟨next, f | ⟨⟩⟩
  · simp only [Room.write?, hcancel]
  · simp only [Room.write?, hcancel, Storage.updateRoom, call_write hs, Write.land]

/-- Giving up a room is one attempt at most. -/
theorem cancelPending_storage (id : RoomId) (creator : UserId) (data : String) (winPoints : Int64) :
    (cancelPending s id creator).storage = s.storage ∨
      (cancelPending s id creator).storage =
        { s.storage with store := s.storage.store.attempt id .cancel data winPoints } := by
  rcases hroom : s.storage.store.room id with fault | _ | r
  · exact .inl (by rw [cancelPending, room_eq hs, hroom])
  · exact .inl (by rw [cancelPending, room_eq hs, hroom])
  · by_cases hwaits : r.status = .pending ∧ r.creator = creator
    · exact .inr (congrArg Shared.storage (cancelPending_of_waits hs hroom hwaits data winPoints))
    · refine .inl ?_
      rw [cancelPending, room_eq hs, hroom]
      simp only [if_neg hwaits]

/-- The forfeit of somebody who is not seated here is one attempt. -/
theorem forfeitIfAbsent_storage (h : Hub) (id : RoomId) (user : UserId) (data : String) :
    (h.forfeitIfAbsent s id user).1.storage =
      if h.isRegistered id user then s.storage
      else { s.storage with store := s.storage.store.attempt id (.forfeit user) data h.winPoints } := by
  rw [forfeitIfAbsent]
  split
  · rfl
  rw [room_eq hs, Store.attempt]
  rcases s.storage.store.room id with fault | _ | r
  · rfl
  · rfl
  · dsimp only
    split
    case isTrue hguard =>
      rcases hforfeit : r.forfeit user with ⟨next, f | finish⟩
      · simp only [Room.write?, hforfeit]
      · simp only [Room.write?, hforfeit, Storage.finishRoom, call_write hs, Write.land]
        rcases s.storage.store.finishRoom next finish h.winPoints with ⟨store, _ | _⟩ <;> simp
    case isFalse hguard =>
      -- where the guard fails, the forfeit would fail as well
      rcases r.forfeit_cases user with ⟨winner, hactive, hother, -⟩ | ⟨f, hforfeit⟩
      · exact absurd ⟨hactive, Room.isParticipant_of_opponentOf?_eq_some hother⟩ hguard
      · simp only [Room.write?, hforfeit]

/-- Leaving is an attempt to give the room up, at most. -/
theorem unregister_storage (h : Hub) (id : RoomId) (connection : ConnectionId) (data : String) (winPoints : Int64) :
    (h.unregister s id connection).2.storage = s.storage ∨
      (h.unregister s id connection).2.storage =
        { s.storage with store := s.storage.store.attempt id .cancel data winPoints } := by
  have hleaving (h : Hub) (user : UserId) : (h.afterLeaving s id user).2.storage = s.storage ∨
      (h.afterLeaving s id user).2.storage =
        { s.storage with store := s.storage.store.attempt id .cancel data winPoints } := by
    rw [afterLeaving, call_room hs]
    split
    case h_1 t r hanswer =>
      obtain ⟨rfl, -⟩ := Prod.mk.inj hanswer
      split
      · exact cancelPending_storage hs id user data winPoints
      · refine .inl ?_
        split
        · unfold arm
          split <;> rfl
        · rfl
    case h_2 t answer _ hanswer =>
      obtain ⟨rfl, -⟩ := Prod.mk.inj hanswer
      exact .inl rfl
  unfold unregister
  dsimp only
  split
  · exact .inl rfl
  · exact hleaving _ _

end Hub

/-- A call that a user may ask for over a socket. -/
def Call.AskedBy (user : UserId) : Call → Prop
  | .join other | .move other _ => other = user
  | .forfeit _ | .cancel => False

/-- A frame is an attempt to do what its sender asks for, at most. -/
theorem Hub.handle_storage {s : Shared} (hs : s.storage.trouble = .none) (h : Hub) (room : RoomId)
    (connection : ConnectionId) (frame : Json.Bytes) :
    (h.handle s room connection frame).storage = s.storage ∨
      ∃ call data, call.AskedBy (s.userOf connection) ∧ (h.handle s room connection frame).storage =
        { s.storage with store := s.storage.store.attempt room call data h.winPoints } := by
  have hperform (user : UserId) (action : Action) : (h.perform s room user action).1.storage = s.storage ∨
      ∃ call data, call.AskedBy user ∧ (h.perform s room user action).1.storage =
        { s.storage with store := s.storage.store.attempt room call data h.winPoints } := by
    unfold perform
    split
    case h_1 command _ =>
      cases command with
      | joinRoom => exact .inr ⟨.join user, "", rfl, joinRoom_storage hs h room user ""⟩
      | makeMove move =>
        exact .inr ⟨.move user move, action.payload.text, rfl, makeMove_storage hs h room user move action.payload⟩
      | chat payload => exact .inl (h.fanOut_storage s room action)
      | createRoom | unknown => exact .inl rfl
    case h_2 => exact .inl rfl
  cases hdecode : Action.decode frame with
  | error fault => exact .inl (by simp only [handle, hdecode])
  | ok action =>
    have hdone := hperform (s.userOf connection)
      { action with room := some room, user := some (s.userOf connection) }
    simp only [handle, hdecode]
    split <;> rename_i hcase <;> rw [hcase] at hdone
    · exact hdone
    · simpa only [Shared.post_storage] using hdone

/-! ## A hub without trouble -/

/-- A happening may make a call on a room. -/
def Site.Asks (t : Site) (id : RoomId) (call : Call) : Happening → Prop
  | .frame room connection _ => room = id ∧ call.AskedBy (t.shared.userOf connection)
  | .leave room _ => room = id ∧ call = .cancel
  | .expire f => f.room = id ∧ call = .forfeit f.user ∧ t.hub.isRegistered f.room f.user = false
  | .forfeit room user => room = id ∧ call = .forfeit user ∧ t.hub.isRegistered room user = false
  | .connect .. | .create .. | .register .. | .wire | .pull | .shutdown | .pass .. => False

/-- What a happening may do to a store that is within reach. -/
inductive Site.StoreChange (t : Site) (e : Happening) (store : Store) : Prop
  | kept (eq : store = t.store)
  | ticked (now : Nanos) (clock : String) (event : e = .pass now clock) (eq : store = { t.store with clock })
  | created (creator : UserId) (gameType : GameType) (eq : store = (t.store.createRoom creator gameType).1)
  | attempted (id : RoomId) (call : Call) (data : String) (asked : t.Asks id call e)
    (eq : store = t.store.attempt id call data t.hub.winPoints)

namespace Site

/-- Whatever happens leaves the store within reach, and does to it what it may. -/
theorem meet_storage {t : Site} (h : t.shared.storage.trouble = .none) (e : Happening) :
    (t.meet e).shared.storage.trouble = .none ∧ t.StoreChange e (t.meet e).store := by
  have hkept {storage : Storage} (hstorage : storage = t.shared.storage) :
      storage.trouble = .none ∧ t.StoreChange e storage.store := by
    rw [hstorage]
    exact ⟨h, .kept rfl⟩
  have hattempt {storage : Storage} {id : RoomId} {call : Call} {data : String} (hasked : t.Asks id call e)
      (hstorage : storage = { t.shared.storage with store := t.store.attempt id call data t.hub.winPoints }) :
      storage.trouble = .none ∧ t.StoreChange e storage.store := by
    rw [hstorage]
    exact ⟨h, .attempted id call data hasked rfl⟩
  cases e with
  | connect user capacity => exact hkept rfl
  | create creator gameType =>
    have hcreate : (t.meet (.create creator gameType)).shared.storage =
        { t.shared.storage with store := (t.store.createRoom creator gameType).1 } :=
      congrArg Prod.fst (Storage.insert_of_untroubled h (·.createRoom creator gameType))
    exact ⟨by rw [hcreate]; exact h, .created creator gameType (congrArg Storage.store hcreate)⟩
  | register user room connection =>
    refine hkept ?_
    simp only [meet]
    split <;> rfl
  | frame room connection bytes =>
    rcases Hub.handle_storage h t.hub room connection bytes with hsame | ⟨call, data, hasked, hstorage⟩
    · exact hkept hsame
    · exact hattempt ⟨rfl, hasked⟩ hstorage
  | leave room connection =>
    rcases Hub.unregister_storage h t.hub room connection "" t.hub.winPoints with hsame | hstorage
    · exact hkept hsame
    · exact hattempt ⟨rfl, rfl⟩ hstorage
  | expire f =>
    have hfire := Hub.forfeitIfAbsent_storage h { t.hub with forfeits := t.hub.forfeits.erase f } f.room f.user ""
    by_cases hseated : t.hub.isRegistered f.room f.user
    · exact hkept (hfire.trans (if_pos hseated))
    · exact hattempt ⟨rfl, rfl, by simpa using hseated⟩ (hfire.trans (if_neg hseated))
  | forfeit room user =>
    have hforfeit := Hub.forfeitIfAbsent_storage h t.hub room user ""
    by_cases hseated : t.hub.isRegistered room user
    · exact hkept (hforfeit.trans (if_pos hseated))
    · exact hattempt ⟨rfl, rfl, by simpa using hseated⟩ (hforfeit.trans (if_neg hseated))
  | wire => exact hkept (t.hub.wire_storage t.shared)
  | pull => exact hkept (t.hub.pull_storage t.shared)
  | shutdown => exact hkept (t.shared.dismiss_storage _)
  | pass now clock => exact ⟨h, .ticked now clock rfl rfl⟩

/-- Only the passing of time changes the clock of a store within reach. -/
theorem meet_clock {t : Site} (h : t.shared.storage.trouble = .none) {e : Happening}
    (hpass : ∀ now clock, e ≠ .pass now clock) : (t.meet e).store.clock = t.store.clock := by
  cases (meet_storage h e).2 with
  | kept heq => rw [heq]
  | ticked now clock hevent => exact absurd hevent (hpass now clock)
  | created creator gameType heq =>
    rw [heq]
    rcases t.store.createRoom_cases creator gameType with ⟨-, row, -, hstore⟩ | hstore <;> rw [hstore]
  | attempted id call data _ heq => rw [heq, Store.clock_attempt]

/-- A forfeit that is due is one attempt, if the player is not seated. -/
theorem meet_expire_store {t : Site} (h : t.shared.storage.trouble = .none) {f : Forfeit}
    (habsent : t.hub.isRegistered f.room f.user = false) :
    (t.meet (.expire f)).store = t.store.attempt f.room (.forfeit f.user) "" t.hub.winPoints := by
  have hfire := Hub.forfeitIfAbsent_storage h { t.hub with forfeits := t.hub.forfeits.erase f } f.room f.user ""
  rw [if_neg (show ¬ _ = true by rw [Bool.not_eq_true]; exact habsent)] at hfire
  exact congrArg Storage.store hfire

/-- Only the passing of time takes time on a bus that answers, and only a hub that is wired subscribes. -/
theorem meet_instant {t : Site} (h : t.shared.bus.mode ≠ .stalled) {e : Happening}
    (hpass : ∀ now clock, e ≠ .pass now clock) (hwire : e ≠ .wire) : t.shared.Instant (t.meet e).shared := by
  cases e with
  | connect | create => exact ⟨rfl, rfl, id⟩
  | register user room connection =>
    simp only [meet]
    split <;> exact .refl _
  | frame room connection bytes => exact t.hub.handle_instant h room connection bytes
  | leave room connection => exact t.hub.unregister_instant t.shared room connection
  | expire f =>
    exact Hub.forfeitIfAbsent_instant { t.hub with forfeits := t.hub.forfeits.erase f } h f.room f.user
  | forfeit room user => exact t.hub.forfeitIfAbsent_instant h room user
  | wire => exact absurd rfl hwire
  | pull => exact t.hub.pull_instant t.shared
  | shutdown => exact t.shared.dismiss_instant _
  | pass now clock => exact absurd rfl (hpass now clock)

/-- Only the passing of time takes time on a bus that answers, which goes on to answer. -/
theorem meet_moment {t : Site} (h : t.shared.bus.mode ≠ .stalled) {e : Happening}
    (hpass : ∀ now clock, e ≠ .pass now clock) :
    (t.meet e).shared.now = t.shared.now ∧ (t.meet e).shared.bus.mode = t.shared.bus.mode := by
  by_cases hwire : e = .wire
  · subst hwire
    have hmode : (t.shared.bus.subscribe (Channel.allUnder Channel.gameStem)).1.mode = t.shared.bus.mode := by
      unfold Bus.MemoryBus.subscribe
      split <;> rfl
    simp only [meet, Hub.wire, Wiring.connect]
    rcases hsubscribe : t.shared.bus.subscribe (Channel.allUnder Channel.gameStem) with
      ⟨bus, fault | _ | subscription⟩ <;>
      rw [hsubscribe] at hmode <;> exact ⟨rfl, hmode⟩
  · have hinstant := meet_instant h hpass hwire
    exact ⟨hinstant.now, hinstant.mode⟩

end Site

end Game

end Parlor
