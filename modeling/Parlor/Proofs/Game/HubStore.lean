import Parlor.Game.Hub
import Parlor.Proofs.Game.Interleaving
import Parlor.Proofs.Game.MoveText

/-!
# A hub and its store

What the operations of a hub do to the store, whatever is wrong with the access to it and whoever
listens. Frames and the bus leave it alone. An operation on a room loads it, and then makes the write
that a call leads to, or none. The data of a logged move is the move that has been made.
-/

namespace Parlor

/-! ## What leaves the storage alone -/

namespace Shared

/-- Sending leaves the storage alone. -/
@[simp] theorem send_storage (s : Shared) (id : ConnectionId) (frame : String) :
    (s.send id frame).1.storage = s.storage := by
  unfold send
  split <;> rfl

/-- Posting leaves the storage alone. -/
@[simp] theorem post_storage (s : Shared) (id : ConnectionId) (frame : String) :
    (s.post id frame).storage = s.storage := s.send_storage id frame

/-- Sending to several connections leaves the storage alone. -/
@[simp] theorem sendAll_storage (s : Shared) (frame : String) (ids : List ConnectionId) :
    (s.sendAll frame ids).1.storage = s.storage := by
  induction ids generalizing s with
  | nil => rfl
  | cons id rest ih =>
    rw [sendAll]
    exact (ih _).trans (s.send_storage id frame)

/-- Dismissing connections leaves the storage alone. -/
@[simp] theorem dismiss_storage (s : Shared) (farewells : List (ConnectionId × String)) :
    (s.dismiss farewells).storage = s.storage := by
  unfold dismiss
  induction farewells generalizing s with
  | nil => rfl
  | cons farewell rest ih => exact (ih _).trans (s.post_storage farewell.1 farewell.2)

/-- Announcing leaves the storage alone. -/
@[simp] theorem announce_storage (s : Shared) (wired : Bool) (channel payload : String) :
    (s.announce wired channel payload).1.storage = s.storage := by
  unfold announce
  split <;> rfl

end Shared

namespace Wiring

/-- Connecting leaves the storage alone. -/
@[simp] theorem connect_storage (w : Wiring) (s : Shared) (pattern : String) :
    (w.connect s pattern).1.storage = s.storage := by
  unfold connect
  split <;> rfl

/-- Collecting messages leaves the storage alone. -/
theorem collect_storage (s : Shared) (ids : List Bus.SubscriptionId) : (collect s ids).1.storage = s.storage := by
  induction ids generalizing s with
  | nil => rfl
  | cons id rest ih =>
    rw [collect]
    exact ih _

/-- Pulling leaves the storage alone if receiving does. -/
theorem pull_storage {receive : Shared → Bus.Message → Shared}
    (hreceive : ∀ s m, (receive s m).storage = s.storage) (w : Wiring) (s : Shared) :
    (w.pull receive s).storage = s.storage := by
  have hfold (messages : List Bus.Message) (s : Shared) : (messages.foldl receive s).storage = s.storage := by
    induction messages generalizing s with
    | nil => rfl
    | cons m rest ih => exact (ih _).trans (hreceive s m)
  rw [pull]
  exact (hfold _ _).trans (collect_storage s w.subscriptions)

end Wiring

namespace Game

/-! ## Access under trouble -/

namespace Storage

/-- Counting a call leaves the store as it is. -/
theorem call_store (s : Storage) : s.call.1.store = s.store := by
  unfold call
  split <;> rfl

/-- A call that reads leaves the store as it is, and answers what it has read if it does not fail. -/
theorem read_cases {α : Type} (s : Storage) (query : Store → Except StorageFault α) :
    (s.read query).1.store = s.store ∧
      ((s.read query).2 = query s.store ∨ (s.read query).2 = .error offlineFault) := by
  have hstore := s.call_store
  unfold read
  split <;> rename_i hcall <;> rw [hcall] at hstore
  · exact ⟨hstore, .inr rfl⟩
  · exact ⟨hstore, .inl (by rw [hstore])⟩
  · exact ⟨hstore, .inl (by rw [hstore])⟩

/-- A call that inserts makes its write, or nothing happens to the store. -/
theorem insert_cases {α : Type} (s : Storage) (write : Store → Store × Except StorageFault α) :
    (s.insert write).1.store = s.store ∨ (s.insert write).1.store = (write s.store).1 := by
  have hstore := s.call_store
  unfold insert
  split <;> rename_i hcall <;> rw [hcall] at hstore
  · exact .inl hstore
  · exact .inr (by rw [hstore])
  · exact .inr (by rw [hstore])

/-- A call that writes makes its write, or nothing happens to the store. -/
theorem write_cases {α : Type} (s : Storage) (lost : α) (write : Store → Store × α) :
    (s.write lost write).1.store = s.store ∨ (s.write lost write).1.store = (write s.store).1 := by
  have hstore := s.call_store
  unfold Storage.write
  split <;> rename_i hcall <;> rw [hcall] at hstore
  · exact .inl hstore
  · exact .inl hstore
  · exact .inr (by rw [hstore])

end Storage

end Game

/-- A call that writes makes its write, or nothing happens to the store, and is answered either way. -/
theorem Shared.call_write_cases {α : Type} (s : Shared) (lost : α) (write : Game.Store → Game.Store × α) :
    ∃ t answer, s.call (·.write lost write) = (t, answer) ∧
      (t.storage.store = s.storage.store ∨ t.storage.store = (write s.storage.store).1) :=
  ⟨_, _, rfl, s.storage.write_cases lost write⟩

namespace Game

/-! ## One attempt at a room -/

/-- The store after an attempt to make a call on a room: one that was loaded is written, or nothing is. -/
inductive Store.Attempted (s : Store) (id : RoomId) (call : Call) (data : String) (winPoints : Int64) :
    Store → Prop
  | idle : s.Attempted id call data winPoints s
  | landed {r : Room} {w : Write} (loaded : s.room id = .ok (some r)) (write : r.write? data call = some w) :
    s.Attempted id call data winPoints (w.land s winPoints).1

/-- A write that was made or not is an attempt. -/
theorem Store.attempted_of_write {s s' : Store} {id : RoomId} {call : Call} {data : String} {winPoints : Int64}
    {r : Room} {w : Write} (hloaded : s.room id = .ok (some r)) (hwrite : r.write? data call = some w)
    (hs : s' = s ∨ s' = (w.land s winPoints).1) : s.Attempted id call data winPoints s' := by
  rcases hs with rfl | rfl
  · exact .idle
  · exact .landed hloaded hwrite

namespace Hub

/-- Delivering leaves the storage alone. -/
@[simp] theorem deliver_storage (h : Hub) (s : Shared) (room : RoomId) (frame : String) :
    (h.deliver s room frame).1.storage = s.storage := s.sendAll_storage frame _

/-- Telling a room leaves the storage alone. -/
@[simp] theorem fanOut_storage (h : Hub) (s : Shared) (room : RoomId) (action : Action) :
    (h.fanOut s room action).storage = s.storage := by
  have hannounce := s.announce_storage h.wiring.isLive (Channel.game room) action.text
  unfold fanOut
  split <;> rename_i hcase <;> rw [hcase] at hannounce
  · exact hannounce
  · rw [deliver_storage, hannounce]

/-- What comes from the bus leaves the storage alone. -/
@[simp] theorem pull_storage (h : Hub) (s : Shared) : (h.pull s).storage = s.storage := by
  refine Wiring.pull_storage (fun s m => ?_) _ _
  unfold receive
  split
  · exact deliver_storage _ _ _ _
  · rfl

/-- Subscribing leaves the storage alone. -/
@[simp] theorem wire_storage (h : Hub) (s : Shared) : (h.wire s).2.1.storage = s.storage := by
  have hconnect := h.wiring.connect_storage s (Channel.allUnder Channel.gameStem)
  unfold wire
  split <;> rename_i hcase <;> rw [hcase] at hconnect <;> exact hconnect

/-- Loading a room for a call leaves the store as it is. -/
theorem room_cases (s : Shared) (id : RoomId) :
    ∃ t : Shared, t.storage.store = s.storage.store ∧
      ((∃ f, room s id = (t, .error f)) ∨
        ∃ r, s.storage.store.room id = .ok (some r) ∧ room s id = (t, .ok r)) := by
  obtain ⟨hstore, hread⟩ := s.storage.read_cases (·.room id)
  refine ⟨(s.call (·.room id)).1, hstore, ?_⟩
  have hcall : s.call (·.room id) =
      ((s.call (·.room id)).1, (s.storage.room id).2.mapError Failure.storage) := rfl
  rw [room, hcall]
  rcases hread with hread | hread
  · rw [Storage.room, hread]
    cases hroom : s.storage.store.room id with
    | error fault => exact .inl ⟨_, rfl⟩
    | ok found =>
      cases found with
      | none => exact .inl ⟨_, rfl⟩
      | some r => exact .inr ⟨r, rfl, rfl⟩
  · rw [Storage.room, hread]
    exact .inl ⟨_, rfl⟩

/-- A join is attempted. -/
theorem joinRoom_attempted (h : Hub) (s : Shared) (id : RoomId) (user : UserId) (data : String) :
    s.storage.store.Attempted id (.join user) data h.winPoints (h.joinRoom s id user).1.storage.store := by
  obtain ⟨t, hstore, ⟨f, hroom⟩ | ⟨r, hloaded, hroom⟩⟩ := room_cases s id
  · simp only [joinRoom, hroom, hstore]
    exact .idle
  · rcases r.join_cases user with ⟨-, -, hjoin⟩ | ⟨f, hjoin⟩
    · obtain ⟨u, answer, hcall : t.call (·.updateRoom (r.joinedBy user) .pending) = _, hu⟩ :=
        t.call_write_cases false (·.updateRoom (r.joinedBy user) .pending)
      have hjoined : (h.joinRoom s id user).1.storage = u.storage := by
        simp only [joinRoom, hroom, hjoin, hcall]
        rcases answer with f | _ | _ <;> simp
      rw [hjoined]
      exact Store.attempted_of_write hloaded (w := .update (r.joinedBy user)) (by simp only [Room.write?, hjoin])
        (hstore ▸ hu)
    · simp only [joinRoom, hroom, hjoin, hstore]
      exact .idle

/-- A move is attempted, with its payload as the data. -/
theorem makeMove_attempted (h : Hub) (s : Shared) (id : RoomId) (user : UserId) (move : Move)
    (payload : Json.Value) :
    s.storage.store.Attempted id (.move user move) payload.text h.winPoints
      (h.makeMove s id user move payload).1.storage.store := by
  obtain ⟨t, hstore, ⟨f, hroom⟩ | ⟨r, hloaded, hroom⟩⟩ := room_cases s id
  · simp only [makeMove, hroom, hstore]
    exact .idle
  · rcases hmove : r.applyMove user move with ⟨next, f | outcome⟩
    · simp only [makeMove, hroom, hmove, hstore]
      exact .idle
    · obtain ⟨u, answer,
          hcall : t.call (·.commitMove next user payload.text next.finish? h.winPoints) = _, hu⟩ :=
        t.call_write_cases none (·.commitMove next user payload.text next.finish? h.winPoints)
      have hmoved : (h.makeMove s id user move payload).1.storage = u.storage := by
        simp only [makeMove, hroom, hmove, hcall]
        rcases answer with f | _ | _ <;> simp
      rw [hmoved]
      exact Store.attempted_of_write hloaded (w := .commit next user payload.text)
        (by simp only [Room.write?, hmove]) (hstore ▸ hu)

/-- Giving up a room that waits is attempted. -/
theorem cancelPending_attempted (s : Shared) (id : RoomId) (creator : UserId) (data : String) (winPoints : Int64) :
    s.storage.store.Attempted id .cancel data winPoints (cancelPending s id creator).storage.store := by
  obtain ⟨t, hstore, ⟨f, hroom⟩ | ⟨r, hloaded, hroom⟩⟩ := room_cases s id
  · simp only [cancelPending, hroom, hstore]
    exact .idle
  · by_cases hguard : r.status = .pending ∧ r.creator = creator
    · rcases hcancel : r.cancel with ⟨next, f | _⟩
      · simp only [cancelPending, hroom, if_pos hguard, hcancel, hstore]
        exact .idle
      · obtain ⟨u, answer, hcall : t.call (·.updateRoom next .pending) = _, hu⟩ :=
          t.call_write_cases false (·.updateRoom next .pending)
        simp only [cancelPending, hroom, if_pos hguard, hcancel, hcall]
        exact Store.attempted_of_write hloaded (w := .update next) (by simp only [Room.write?, hcancel])
          (hstore ▸ hu)
    · simp only [cancelPending, hroom, if_neg hguard, hstore]
      exact .idle

/-- A forfeit is attempted. -/
theorem forfeitIfAbsent_attempted (h : Hub) (s : Shared) (id : RoomId) (user : UserId) (data : String) :
    s.storage.store.Attempted id (.forfeit user) data h.winPoints
      (h.forfeitIfAbsent s id user).1.storage.store := by
  by_cases hseated : h.isRegistered id user
  · simp only [forfeitIfAbsent, if_pos hseated]
    exact .idle
  · obtain ⟨t, hstore, ⟨f, hroom⟩ | ⟨r, hloaded, hroom⟩⟩ := room_cases s id
    · simp only [forfeitIfAbsent, if_neg hseated, hroom, hstore]
      exact .idle
    · by_cases hguard : r.status = .active ∧ r.isParticipant user
      · rcases hforfeit : r.forfeit user with ⟨next, f | finish⟩
        · simp only [forfeitIfAbsent, if_neg hseated, hroom, if_pos hguard, hforfeit, hstore]
          exact .idle
        · obtain ⟨u, answer, hcall : t.call (·.finishRoom next finish h.winPoints) = _, hu⟩ :=
            t.call_write_cases false (·.finishRoom next finish h.winPoints)
          have hended : (h.forfeitIfAbsent s id user).1.storage = u.storage := by
            simp only [forfeitIfAbsent, if_neg hseated, hroom, if_pos hguard, hforfeit, hcall]
            rcases answer with f | _ | _ <;> simp
          rw [hended]
          exact Store.attempted_of_write hloaded (w := .conclude next finish)
            (by simp only [Room.write?, hforfeit]) (hstore ▸ hu)
      · simp only [forfeitIfAbsent, if_neg hseated, hroom, if_neg hguard, hstore]
        exact .idle

/-- A player who leaves a seat attempts to give the room up, at most. -/
theorem unregister_attempted (h : Hub) (s : Shared) (id : RoomId) (connection : ConnectionId) (data : String)
    (winPoints : Int64) :
    s.storage.store.Attempted id .cancel data winPoints (h.unregister s id connection).2.storage.store := by
  have hleaving (h : Hub) (user : UserId) :
      s.storage.store.Attempted id .cancel data winPoints (h.afterLeaving s id user).2.storage.store := by
    obtain ⟨hstore, -⟩ := s.storage.read_cases (·.room id)
    rcases hcall : s.call (·.room id) with ⟨t, answer⟩
    have ht : t.storage.store = s.storage.store := by
      rw [← hstore]
      exact congrArg (fun result => result.1.storage.store) hcall.symm
    have hidle : s.storage.store.Attempted id .cancel data winPoints t.storage.store := by
      rw [ht]
      exact .idle
    unfold afterLeaving
    rw [hcall]
    rcases answer with fault | _ | r
    · exact hidle
    · exact hidle
    · dsimp only
      split
      · exact ht ▸ cancelPending_attempted t id user data winPoints
      · split
        · unfold arm
          split <;> exact hidle
        · exact hidle
  unfold unregister
  dsimp only
  split
  · exact .idle
  · exact hleaving _ _

end Hub

/-! ## Frames -/

/-- The data of a move is read as the move. -/
def Call.ToldBy (data : String) : Call → Prop
  | .move _ m => Move.ofText data = .ok m
  | .join _ | .forfeit _ | .cancel => True

/-- A command that is a move is the move in the payload of its action. -/
theorem Command.ofAction_makeMove {a : Action} {move : Move} (h : ofAction a = .ok (.makeMove move)) :
    Move.ofValue a.payload = .ok move := by
  unfold ofAction at h
  split at h
  case h_3 =>
    split at h
    case h_1 found hfound =>
      rw [Except.ok.injEq, Command.makeMove.injEq] at h
      rw [hfound, h]
    case h_2 => contradiction
  all_goals simp at h

namespace Hub

/-- A frame attempts at most one call, and the data of a move is read as the move. -/
theorem handle_attempted (h : Hub) (s : Shared) (room : RoomId) (connection : ConnectionId) (frame : Json.Bytes) :
    ∃ call data, call.ToldBy data ∧
      s.storage.store.Attempted room call data h.winPoints (h.handle s room connection frame).storage.store := by
  have hidle : ∃ call data, call.ToldBy data ∧
      s.storage.store.Attempted room call data h.winPoints s.storage.store := ⟨.cancel, "", trivial, .idle⟩
  cases hdecode : Action.decode frame with
  | error fault => simpa only [handle, hdecode] using hidle
  | ok action =>
    -- what is told to the sender afterwards does not reach the store
    have hhandle : (h.handle s room connection frame).storage =
        (h.perform s room (s.userOf connection)
          { action with room := some room, user := some (s.userOf connection) }).1.storage := by
      simp only [handle, hdecode]
      split <;> rename_i hcase <;> simp [hcase]
    rw [hhandle]
    generalize s.userOf connection = user
    cases hcommand : Command.ofAction { action with room := some room, user := some user } with
    | error fault => simpa only [perform, hcommand] using hidle
    | ok command =>
      simp only [perform, hcommand]
      cases command with
      | joinRoom => exact ⟨.join user, "", trivial, h.joinRoom_attempted s room user ""⟩
      | makeMove move =>
        have hmove := Command.ofAction_makeMove hcommand
        exact ⟨.move user move, action.payload.text,
          Move.ofText_text hmove fun members hmembers => Action.decode_payload hdecode hmembers,
          h.makeMove_attempted s room user move action.payload⟩
      | chat payload => simpa only [execute, fanOut_storage] using hidle
      | createRoom => exact hidle
      | unknown kind => exact hidle

end Hub

/-! ## The course of a hub -/

/-- What happens to a hub. -/
inductive Happening where
  | connect (user : UserId) (capacity : Nat)
  | create (creator : UserId) (gameType : GameType)
  | register (user : UserId) (room : RoomId) (connection : ConnectionId)
  /-- Any bytes come from a connection. -/
  | frame (room : RoomId) (connection : ConnectionId) (bytes : Json.Bytes)
  | leave (room : RoomId) (connection : ConnectionId)
  /-- A forfeit is due. -/
  | expire (forfeit : Forfeit)
  | forfeit (room : RoomId) (user : UserId)
  | wire
  | pull
  | shutdown
  | pass (now : Text.Nanos) (clock : String)

/-- A hub, and what it shares. -/
structure Site where
  hub : Hub
  shared : Shared

namespace Site

/-- The store of the games. -/
def store (t : Site) : Store := t.shared.storage.store

/-- What a happening leads to. -/
def meet (t : Site) : Happening → Site
  | .connect user capacity => { t with shared := (t.shared.connect user capacity).1 }
  | .create creator gameType => { t with shared := (Hub.createRoom t.shared creator gameType).1 }
  | .register user room connection =>
    match t.hub.register user room connection with
    | .ok hub => { t with hub }
    | .error _ => t
  | .frame room connection bytes => { t with shared := t.hub.handle t.shared room connection bytes }
  | .leave room connection =>
    let (hub, shared) := t.hub.unregister t.shared room connection
    { hub, shared }
  | .expire forfeit =>
    let (hub, shared) := t.hub.fire t.shared forfeit
    { hub, shared }
  | .forfeit room user => { t with shared := (t.hub.forfeitIfAbsent t.shared room user).1 }
  | .wire =>
    let (hub, shared, _) := t.hub.wire t.shared
    { hub, shared }
  | .pull => { t with shared := t.hub.pull t.shared }
  | .shutdown =>
    let (hub, shared, _) := t.hub.shutdown t.shared
    { hub, shared }
  | .pass now clock =>
    let storage := { t.shared.storage with store := { t.store with clock } }
    { t with shared := { t.shared with now, storage } }

/-- What several happenings lead to, one after the other. -/
def run (t : Site) (happenings : List Happening) : Site := happenings.foldl meet t

@[simp] theorem run_nil (t : Site) : t.run [] = t := rfl

@[simp] theorem run_cons (t : Site) (e : Happening) (happenings : List Happening) :
    t.run (e :: happenings) = (t.meet e).run happenings := rfl

end Site

/-- What a happening may do to a store. -/
inductive Store.Served (s : Store) : Store → Prop
  | ticked (clock : String) : s.Served { s with clock }
  | created (creator : UserId) (gameType : GameType) : s.Served (s.createRoom creator gameType).1
  | attempted {id : RoomId} {call : Call} {data : String} {winPoints : Int64} {s' : Store}
    (told : call.ToldBy data) (attempt : s.Attempted id call data winPoints s') : s.Served s'

/-- Whatever happens, it does to the store what it may. -/
theorem Site.meet_served (t : Site) (e : Happening) : t.store.Served (t.meet e).store := by
  have hidle {s : Store} (hs : s = t.store) : t.store.Served s := by
    rw [hs]
    exact .ticked t.store.clock
  cases e with
  | connect user capacity => exact hidle rfl
  | create creator gameType =>
    have hcreate : (t.meet (.create creator gameType)).store = t.store ∨
        (t.meet (.create creator gameType)).store = (t.store.createRoom creator gameType).1 :=
      t.shared.storage.insert_cases (·.createRoom creator gameType)
    rcases hcreate with hcreate | hcreate
    · exact hidle hcreate
    · exact hcreate ▸ .created creator gameType
  | register user room connection =>
    refine hidle ?_
    simp only [meet]
    split <;> rfl
  | frame room connection bytes =>
    obtain ⟨call, data, htold, hattempt⟩ := t.hub.handle_attempted t.shared room connection bytes
    exact .attempted htold hattempt
  | leave room connection =>
    exact .attempted (show Call.ToldBy "" .cancel from trivial)
      (t.hub.unregister_attempted t.shared room connection "" t.hub.winPoints)
  | expire forfeit =>
    exact .attempted (show Call.ToldBy "" (.forfeit forfeit.user) from trivial)
      (Hub.forfeitIfAbsent_attempted { t.hub with forfeits := t.hub.forfeits.erase forfeit } t.shared
        forfeit.room forfeit.user "")
  | forfeit room user =>
    exact .attempted (show Call.ToldBy "" (.forfeit user) from trivial)
      (t.hub.forfeitIfAbsent_attempted t.shared room user "")
  | wire => exact hidle (congrArg Storage.store (t.hub.wire_storage t.shared))
  | pull => exact hidle (congrArg Storage.store (t.hub.pull_storage t.shared))
  | shutdown => exact hidle (congrArg Storage.store (t.shared.dismiss_storage _))
  | pass now clock => exact .ticked clock

end Game

end Parlor
