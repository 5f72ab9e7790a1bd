import Parlor.Proofs.Game.Announcing
import Parlor.Proofs.Game.Access

/-!
# Operations of a hub

An operation changes what is stored first, and then has something to say. Neither depends on the bus, which
only decides how the outbox of the operation reaches the connections. One lemma says what each operation can
do to the store and what it has to say about it.
-/

namespace Parlor

namespace Game

/-! ## Calls that are stored -/

/-- What comes of a call on a room: nothing at all, or a write that is accepted and announced. -/
inductive Store.Outcome (s : Store) (id : RoomId) (call : Call) (data : String) (winPoints : Int64) :
    Store → List Action → Prop
  | refused : s.Outcome id call data winPoints s []
  | landed {r : Room} {w : Write} {s' : Store} (loaded : s.room id = .ok (some r))
    (write : r.write? data call = some w) (accepted : w.land s winPoints = (s', true)) :
    s.Outcome id call data winPoints s' (call.announcements w.room)

/-- The store after a write that was accepted is the one after an attempt. -/
theorem Store.eq_attempt {s s' : Store} {id : RoomId} {call : Call} {data : String} {winPoints : Int64} {r : Room}
    {w : Write} (hloaded : s.room id = .ok (some r)) (hwrite : r.write? data call = some w)
    (haccepted : w.land s winPoints = (s', true)) : s' = s.attempt id call data winPoints := by
  simp only [Store.attempt, hloaded, hwrite, haccepted]

/-- A write that was accepted keeps a store sound, and the store then keeps the room that was written. -/
theorem Store.Sound.landed {s s' : Store} (h : s.Sound) {id : RoomId} {call : Call} {data : String}
    {winPoints : Int64} {r : Room} {w : Write} (hloaded : s.room id = .ok (some r))
    (hwrite : r.write? data call = some w) (haccepted : w.land s winPoints = (s', true)) :
    s'.Sound ∧ s'.Keeps id w.room ∧ ∀ other r', other ≠ id → (s'.Keeps other r' ↔ s.Keeps other r') := by
  have hstore := Store.eq_attempt hloaded hwrite haccepted
  have hkeeps := h.attempt_keeps hloaded hwrite winPoints
  have hsound := Traffic.Sound.run h (attemptSteps id call data winPoints)
  rw [attempt_eq_run, ← hstore] at hsound
  rw [← hstore] at hkeeps
  exact ⟨hsound, (hkeeps id w.room).mpr (by rw [if_pos rfl]), fun other r' hother => by rw [hkeeps, if_neg hother]⟩

/-- A call of a user that has nothing to announce was refused. -/
theorem Store.Outcome.eq_of_nil {s s' : Store} {id : RoomId} {call : Call} {data : String} {winPoints : Int64}
    (h : s.Outcome id call data winPoints s' []) {user : UserId} (hasked : call.AskedBy user) : s' = s := by
  generalize hactions : ([] : List Action) = actions at h
  cases h with
  | refused => rfl
  | landed =>
    cases call with
    | join | move => simp [Call.announcements] at hactions
    | forfeit | cancel => exact hasked.elim

/-- A conditional write is accepted and answered so, or the store stays as it is. -/
theorem Storage.write_land {α : Type} (s : Storage) {lost : α} {write : Store → Store × α} {accepts : α → Bool}
    {w : Write} {winPoints : Int64}
    (hland : ∀ store, w.land store winPoints = ((write store).1, accepts (write store).2))
    (hlost : accepts lost = false) :
    (∃ a, (s.write lost write).2 = .ok a ∧ accepts a = true ∧
        w.land s.store winPoints = ((s.write lost write).1.store, true)) ∨
      (s.write lost write).1.store = s.store ∧ ∀ a, (s.write lost write).2 = .ok a → accepts a = false := by
  have hstore := s.call_store
  unfold Storage.write
  split <;> rename_i hcall <;> rw [hcall] at hstore
  · exact .inr ⟨hstore, by simp⟩
  · exact .inr ⟨hstore, by simpa using hlost⟩
  · rename_i t
    rcases w.land_cases s.store winPoints with ⟨_, -, -, haccepted⟩ | hrefused
    · have hboth := (hland s.store).symm.trans haccepted
      refine .inl ⟨_, rfl, ?_, ?_⟩
      · rw [hstore]
        exact congrArg Prod.snd hboth
      · rw [hland, hstore]
        exact congrArg (Prod.mk _) (congrArg Prod.snd hboth)
    · have hboth := (hland s.store).symm.trans hrefused
      rw [← hstore] at hboth
      refine .inr ⟨?_, fun a ha => ?_⟩
      · exact (congrArg Prod.fst hboth).trans hstore
      · obtain rfl := Except.ok.inj ha
        exact congrArg Prod.snd hboth

namespace Hub

/-- Loading a room takes a call of the storage, whatever is on the bus. -/
theorem room_loads (s : Shared) (id : RoomId) :
    ∃ storage result, storage.store = s.storage.store ∧
      (∀ bus, room { s with bus } id = ({ s with bus, storage }, result)) ∧
      ∀ r, result = .ok r → s.storage.store.room id = .ok (some r) := by
  obtain ⟨hstore, hread⟩ := s.storage.read_cases (·.room id)
  have hcall (bus : Bus.MemoryBus) : Shared.call { s with bus } (·.room id) =
      ({ s with bus, storage := (s.storage.room id).1 }, (s.storage.room id).2.mapError Failure.storage) := rfl
  cases hanswer : (s.storage.room id).2 with
  | error fault =>
    refine ⟨_, .error (.storage fault), hstore, fun bus => ?_, by simp⟩
    simp only [room, hcall, hanswer, Except.mapError]
    rfl
  | ok found =>
    cases found with
    | none =>
      refine ⟨_, .error (.roomNotFound id), hstore, fun bus => ?_, by simp⟩
      simp only [room, hcall, hanswer, Except.mapError]
      rfl
    | some r =>
      refine ⟨_, .ok r, hstore, fun bus => ?_, fun r' hr' => ?_⟩
      · simp only [room, hcall, hanswer, Except.mapError]
        rfl
      · obtain rfl := Except.ok.inj hr'
        rcases hread with hread | hread
        · exact hread.symm.trans hanswer
        · rw [show (s.storage.room id).2 = _ from hread] at hanswer
          contradiction

/-- A conditional write takes a call of the storage, whatever is on the bus. -/
theorem call_lands {α : Type} (s : Shared) (lost : α) (write : Store → Store × α) (accepts : α → Bool) (w : Write)
    (winPoints : Int64) (hland : ∀ store, w.land store winPoints = ((write store).1, accepts (write store).2))
    (hlost : accepts lost = false) :
    ∃ storage answer, (∀ bus, Shared.call { s with bus } (·.write lost write) = ({ s with bus, storage }, answer)) ∧
      ((∃ a, answer = .ok a ∧ accepts a = true ∧ w.land s.storage.store winPoints = (storage.store, true)) ∨
        storage.store = s.storage.store ∧ ∀ a, answer = .ok a → accepts a = false) := by
  refine ⟨(s.storage.write lost write).1, (s.storage.write lost write).2.mapError Failure.storage, fun bus => rfl, ?_⟩
  have hok {a : α} : (s.storage.write lost write).2.mapError Failure.storage = .ok a ↔
      (s.storage.write lost write).2 = .ok a := by
    cases (s.storage.write lost write).2 <;> simp [Except.mapError]
  simpa only [hok] using s.storage.write_land hland hlost

variable (h : Hub) (s : Shared)

/-- Taking a seat has nothing to do with the wiring. -/
theorem register_rewired (wiring : Wiring) (user : UserId) (room : RoomId) (connection : ConnectionId) :
    { h with wiring }.register user room connection =
      (h.register user room connection).map fun hub => { hub with wiring } := by
  have hfree : canRegister { h with wiring } user room = h.canRegister user room := rfl
  rw [register, register, hfree]
  split <;> rfl

/-- A join is refused, or stored and announced. -/
theorem joinRoom_outcome (id : RoomId) (user : UserId) :
    ∃ storage actions result,
      s.storage.store.Outcome id (.join user) "" h.winPoints storage.store actions ∧
      ((∃ f, result = .error f) ↔ actions = []) ∧
      ∀ wiring bus, { h with wiring }.joinRoom { s with bus } id user =
        ({ s with bus, storage }.carry wiring.isLive { bulletins := actions.map (h.bulletin id) }, result) := by
  obtain ⟨storage, loaded, hstore, hroom, hfound⟩ := room_loads s id
  rcases loaded with f | r
  · exact ⟨storage, [], .error f, hstore ▸ .refused, by simp, fun wiring bus => by simp only [joinRoom, hroom]; rfl⟩
  rcases hjoin : r.join user with ⟨next, f | ⟨⟩⟩
  · exact ⟨storage, [], .error f, hstore ▸ .refused, by simp,
      fun wiring bus => by simp only [joinRoom, hroom, hjoin]; rfl⟩
  obtain ⟨after, answer, hcall, hanswer⟩ := call_lands { s with storage } false (·.updateRoom next .pending)
    (fun taken => taken) (.update next) h.winPoints (fun _ => rfl) rfl
  rcases hanswer with ⟨accepted, rfl, rfl, hland⟩ | ⟨hsame, hrefused⟩
  · refine ⟨after, _, .ok (), .landed (hfound r rfl) (by simp only [Room.write?, hjoin]) (hstore ▸ hland),
      by simp [Call.announcements], fun wiring bus => ?_⟩
    simp only [joinRoom, hroom, hjoin, Storage.updateRoom, hcall, fanOut_eq]
    rfl
  · have hkept : after.store = s.storage.store := hsame.trans hstore
    rcases answer with f | ⟨_ | _⟩
    · exact ⟨after, [], .error f, hkept ▸ .refused, by simp,
        fun wiring bus => by simp only [joinRoom, hroom, hjoin, Storage.updateRoom, hcall]; rfl⟩
    · exact ⟨after, [], .error .notJoinable, hkept ▸ .refused, by simp,
        fun wiring bus => by simp only [joinRoom, hroom, hjoin, Storage.updateRoom, hcall]; rfl⟩
    · exact absurd (hrefused true rfl) (by simp)

/-- A move is refused, or stored and announced. -/
theorem makeMove_outcome (id : RoomId) (user : UserId) (move : Move) (payload : Json.Value) :
    ∃ storage actions result,
      s.storage.store.Outcome id (.move user move) payload.text h.winPoints storage.store actions ∧
      ((∃ f, result = .error f) ↔ actions = []) ∧
      ∀ wiring bus, { h with wiring }.makeMove { s with bus } id user move payload =
        ({ s with bus, storage }.carry wiring.isLive { bulletins := actions.map (h.bulletin id) }, result) := by
  obtain ⟨storage, loaded, hstore, hroom, hfound⟩ := room_loads s id
  rcases loaded with f | r
  · exact ⟨storage, [], .error f, hstore ▸ .refused, by simp, fun wiring bus => by simp only [makeMove, hroom]; rfl⟩
  rcases hmove : r.applyMove user move with ⟨next, f | outcome⟩
  · exact ⟨storage, [], .error f, hstore ▸ .refused, by simp,
      fun wiring bus => by simp only [makeMove, hroom, hmove]; rfl⟩
  obtain ⟨after, answer, hcall, hanswer⟩ := call_lands { s with storage } none
    (·.commitMove next user payload.text next.finish? h.winPoints) Option.isSome (.commit next user payload.text)
    h.winPoints (fun _ => rfl) rfl
  rcases hanswer with ⟨accepted, rfl, hsome, hland⟩ | ⟨hsame, hrefused⟩
  · obtain ⟨record, rfl⟩ := Option.isSome_iff_exists.mp hsome
    refine ⟨after, _, .ok (), .landed (hfound r rfl) (by simp only [Room.write?, hmove]) (hstore ▸ hland),
      by simp [Call.announcements], fun wiring bus => ?_⟩
    simp only [makeMove, hroom, hmove, Storage.commitMove, hcall, fanOut_eq]
    rfl
  · have hkept : after.store = s.storage.store := hsame.trans hstore
    rcases answer with f | _ | record
    · exact ⟨after, [], .error f, hkept ▸ .refused, by simp,
        fun wiring bus => by simp only [makeMove, hroom, hmove, Storage.commitMove, hcall]; rfl⟩
    · exact ⟨after, [], .error .notYourTurn, hkept ▸ .refused, by simp,
        fun wiring bus => by simp only [makeMove, hroom, hmove, Storage.commitMove, hcall]; rfl⟩
    · exact absurd (hrefused _ rfl) (by simp)

/-- A forfeit is refused, or stored and announced. -/
theorem forfeitIfAbsent_outcome (id : RoomId) (user : UserId) :
    ∃ storage actions result,
      s.storage.store.Outcome id (.forfeit user) "" h.winPoints storage.store actions ∧
      ∀ wiring bus, { h with wiring }.forfeitIfAbsent { s with bus } id user =
        ({ s with bus, storage }.carry wiring.isLive { bulletins := actions.map (h.bulletin id) }, result) := by
  by_cases hseated : h.isRegistered id user
  · refine ⟨s.storage, [], .ok false, .refused, fun wiring bus => ?_⟩
    have hpresent : isRegistered { h with wiring } id user = true := hseated
    simp only [forfeitIfAbsent, if_pos hpresent]
    rfl
  have habsent (wiring : Wiring) : ¬ isRegistered { h with wiring } id user = true := hseated
  obtain ⟨storage, loaded, hstore, hroom, hfound⟩ := room_loads s id
  rcases loaded with f | r
  · exact ⟨storage, [], .error f, hstore ▸ .refused,
      fun wiring bus => by simp only [forfeitIfAbsent, if_neg (habsent wiring), hroom]; rfl⟩
  by_cases hguard : r.status = .active ∧ r.isParticipant user
  case neg =>
    exact ⟨storage, [], .ok false, hstore ▸ .refused,
      fun wiring bus => by simp only [forfeitIfAbsent, if_neg (habsent wiring), hroom, if_neg hguard]; rfl⟩
  rcases hforfeit : r.forfeit user with ⟨next, f | finish⟩
  · exact ⟨storage, [], .error f, hstore ▸ .refused,
      fun wiring bus => by simp only [forfeitIfAbsent, if_neg (habsent wiring), hroom, if_pos hguard, hforfeit]; rfl⟩
  obtain ⟨after, answer, hcall, hanswer⟩ := call_lands { s with storage } false
    (·.finishRoom next finish h.winPoints) (fun taken => taken) (.conclude next finish) h.winPoints (fun _ => rfl) rfl
  rcases hanswer with ⟨accepted, rfl, rfl, hland⟩ | ⟨hsame, hrefused⟩
  · refine ⟨after, _, .ok true, .landed (hfound r rfl) (by simp only [Room.write?, hforfeit]) (hstore ▸ hland),
      fun wiring bus => ?_⟩
    simp only [forfeitIfAbsent, if_neg (habsent wiring), hroom, if_pos hguard, hforfeit, Storage.finishRoom, hcall,
      fanOut_eq]
    rfl
  · have hkept : after.store = s.storage.store := hsame.trans hstore
    rcases answer with f | ⟨_ | _⟩
    · exact ⟨after, [], .error f, hkept ▸ .refused, fun wiring bus => by
        simp only [forfeitIfAbsent, if_neg (habsent wiring), hroom, if_pos hguard, hforfeit, Storage.finishRoom,
          hcall]
        rfl⟩
    · exact ⟨after, [], .ok false, hkept ▸ .refused, fun wiring bus => by
        simp only [forfeitIfAbsent, if_neg (habsent wiring), hroom, if_pos hguard, hforfeit, Storage.finishRoom,
          hcall]
        rfl⟩
    · exact absurd (hrefused true rfl) (by simp)

/-- Giving up a room is refused, or stored, and nobody is told. -/
theorem cancelPending_outcome (id : RoomId) (creator : UserId) (winPoints : Int64) :
    ∃ storage, s.storage.store.Outcome id .cancel "" winPoints storage.store [] ∧
      ∀ bus, cancelPending { s with bus } id creator = { s with bus, storage } := by
  obtain ⟨storage, loaded, hstore, hroom, hfound⟩ := room_loads s id
  rcases loaded with f | r
  · exact ⟨storage, hstore ▸ .refused, fun bus => by simp only [cancelPending, hroom]⟩
  by_cases hguard : r.status = .pending ∧ r.creator = creator
  case neg => exact ⟨storage, hstore ▸ .refused, fun bus => by simp only [cancelPending, hroom, if_neg hguard]⟩
  rcases hcancel : r.cancel with ⟨next, f | ⟨⟩⟩
  · exact ⟨storage, hstore ▸ .refused, fun bus => by simp only [cancelPending, hroom, if_pos hguard, hcancel]⟩
  obtain ⟨after, answer, hcall, hanswer⟩ := call_lands { s with storage } false (·.updateRoom next .pending)
    (fun taken => taken) (.update next) winPoints (fun _ => rfl) rfl
  have heq (bus : Bus.MemoryBus) : cancelPending { s with bus } id creator = { s with bus, storage := after } := by
    simp only [cancelPending, hroom, if_pos hguard, hcancel, Storage.updateRoom, hcall]
  refine ⟨after, ?_, heq⟩
  rcases hanswer with ⟨accepted, rfl, rfl, hland⟩ | ⟨hsame, hrefused⟩
  · exact .landed (hfound r rfl) (by simp only [Room.write?, hcancel]) (hstore ▸ hland)
  · exact (hsame.trans hstore) ▸ .refused

/-- What follows when somebody has left a seat has nothing to do with the bus, and gives the room up at most. -/
theorem afterLeaving_outcome (id : RoomId) (user : UserId) :
    ∃ (hub : Hub) (shared : Shared), s.storage.store.Outcome id .cancel "" h.winPoints shared.storage.store [] ∧
      shared.connections = s.connections ∧
      ∀ wiring bus, { h with wiring }.afterLeaving { s with bus } id user =
        ({ hub with wiring }, { shared with bus }) := by
  have hstore : (s.storage.room id).1.store = s.storage.store := (s.storage.read_cases (·.room id)).1
  have hcall (bus : Bus.MemoryBus) : Shared.call { s with bus } (·.room id) =
      ({ s with bus, storage := (s.storage.room id).1 }, (s.storage.room id).2.mapError Failure.storage) := rfl
  rcases hanswer : (s.storage.room id).2.mapError Failure.storage with f | _ | r
  · exact ⟨h, { s with storage := (s.storage.room id).1 }, hstore ▸ .refused, rfl,
      fun wiring bus => by simp only [afterLeaving, hcall, hanswer]⟩
  · exact ⟨h, { s with storage := (s.storage.room id).1 }, hstore ▸ .refused, rfl,
      fun wiring bus => by simp only [afterLeaving, hcall, hanswer]⟩
  by_cases hwaits : r.status = .pending ∧ r.creator = user
  · obtain ⟨after, houtcome, heq⟩ :=
      cancelPending_outcome { s with storage := (s.storage.room id).1 } id user h.winPoints
    exact ⟨h, { s with storage := after }, hstore ▸ houtcome, rfl,
      fun wiring bus => by simp only [afterLeaving, hcall, hanswer, if_pos hwaits, heq]⟩
  by_cases hplays : r.status = .active ∧ r.isParticipant user
  · refine ⟨(h.arm { s with storage := (s.storage.room id).1 } id user).1,
      (h.arm { s with storage := (s.storage.room id).1 } id user).2, ?_, ?_, fun wiring bus => ?_⟩
    · unfold arm
      split <;> exact hstore ▸ .refused
    · unfold arm
      split <;> rfl
    · simp only [afterLeaving, hcall, hanswer, if_neg hwaits, if_pos hplays]
      unfold arm
      dsimp only
      split <;> rfl
  · exact ⟨h, { s with storage := (s.storage.room id).1 }, hstore ▸ .refused, rfl,
      fun wiring bus => by simp only [afterLeaving, hcall, hanswer, if_neg hwaits, if_neg hplays]⟩

/-- Leaving has nothing to do with the bus, and gives the room up at most. -/
theorem unregister_outcome (id : RoomId) (connection : ConnectionId) :
    ∃ (hub : Hub) (shared : Shared), s.storage.store.Outcome id .cancel "" h.winPoints shared.storage.store [] ∧
      shared.connections = s.connections ∧
      ∀ wiring bus, { h with wiring }.unregister { s with bus } id connection =
        ({ hub with wiring }, { shared with bus }) := by
  rcases hseats : h.seats.unregisterIf id (s.userOf connection) (· == connection) with ⟨seats, _ | value⟩
  · refine ⟨h, s, .refused, rfl, fun wiring bus => ?_⟩
    have huser : Shared.userOf { s with bus } connection = s.userOf connection := rfl
    simp only [unregister, unseat, huser, hseats]
  · obtain ⟨hub, shared, houtcome, hconnections, heq⟩ := afterLeaving_outcome
      { h with seats, userRooms := (h.userRooms.unregister (s.userOf connection) id).1 } s id (s.userOf connection)
    refine ⟨hub, shared, houtcome, hconnections, fun wiring bus => ?_⟩
    have huser : Shared.userOf { s with bus } connection = s.userOf connection := rfl
    simp only [unregister, unseat, huser, hseats]
    exact heq wiring bus

end Hub

/-- A command to chat is a chat. -/
theorem Command.kind_of_chat {a : Action} {payload : Json.Value} (h : ofAction a = .ok (.chat payload)) :
    a.kind = .chat := by
  unfold ofAction at h
  split at h
  case h_4 hkind => exact hkind
  case h_3 => split at h <;> simp at h
  all_goals simp at h

/-! ## Operations -/

/-- What is asked of a hub, or happens around it. -/
inductive Operation where
  | happening (e : Happening)
  /-- A join and a move that come by another way than a frame. -/
  | join (room : RoomId) (user : UserId)
  | move (room : RoomId) (user : UserId) (move : Move) (payload : Json.Value)
  /-- An action is told to the seats of this hub only. -/
  | broadcast (room : RoomId) (action : Action)
  /-- The storage is changed by somebody else, or the access to it. -/
  | storage (change : Storage → Storage)
  /-- A connection is read or closed. -/
  | connection (id : ConnectionId) (change : Connection → Connection)

namespace Operation

/-- An operation that has nothing to do with the wiring of the hub. -/
def KeepsWiring : Operation → Prop
  | .happening .wire | .happening .pull => False
  | _ => True

/-- An operation that does not change what is stored behind the back of the hub. -/
def KeepsStore : Operation → Prop
  | .storage change => ∀ s, (change s).store = s.store
  | _ => True

/-- An operation that does nothing to the connections beside what it has to say. -/
def LeavesQueues : Operation → Prop
  | .happening (.connect ..) | .happening .shutdown | .connection .. => False
  | _ => True

end Operation

/-- The stored rooms stay as they are. -/
inductive Store.Grows (s : Store) : Store → Prop
  | same : s.Grows s
  | ticked (clock : String) : s.Grows { s with clock }
  | created (creator : UserId) (gameType : GameType) : s.Grows (s.createRoom creator gameType).1

/-- A store to which nothing happens grows by nothing. -/
theorem Store.Grows.of_eq {s s' : Store} (h : s' = s) : s.Grows s' := h ▸ .same

/-- A room that is stored stays stored in a store that grows. -/
theorem Store.Grows.keeps {s s' : Store} (h : s.Grows s') (hs : s.Sound) {id : RoomId} {r : Room}
    (hr : s.Keeps id r) : s'.Keeps id r := by
  cases h with
  | same => exact hr
  | ticked clock => exact hr
  | created creator gameType => exact hs.createRoom_keeps hr creator gameType

/-- A store that grows stays sound. -/
theorem Store.Grows.sound {s s' : Store} (h : s.Grows s') (hs : s.Sound) : s'.Sound := by
  cases h with
  | same => exact hs
  | ticked clock => exact hs.served (.ticked clock)
  | created creator gameType => exact hs.served (.created creator gameType)

namespace Site

/-- What an operation leads to. -/
def apply (t : Site) : Operation → Site
  | .happening e => t.meet e
  | .join room user => { t with shared := (t.hub.joinRoom t.shared room user).1 }
  | .move room user move payload => { t with shared := (t.hub.makeMove t.shared room user move payload).1 }
  | .broadcast room action => { t with shared := (t.hub.broadcast t.shared room action).1 }
  | .storage change => { t with shared := { t.shared with storage := change t.shared.storage } }
  | .connection id change => { t with shared := t.shared.modifyConnection id change }

/-- A hub with another wiring to another bus. -/
def rewired (t : Site) (wiring : Wiring) (bus : Bus.MemoryBus) : Site :=
  ⟨{ t.hub with wiring }, { t.shared with bus }⟩

/-- Carries out what an operation has to say. -/
def carry (t : Site) (o : Outbox) : Site := { t with shared := t.shared.carry t.hub.wiring.isLive o }

/-- What each operation can do to the store, and what it has to say about it. -/
inductive Reaction (t : Site) : Operation → Site → Outbox → Prop
  /-- The stored rooms stay as they are, and there is nothing to be said. -/
  | quiet {op : Operation} {next : Site} (grows : t.store.Grows next.store) : t.Reaction op next {}
  /-- Somebody else changes the storage. -/
  | elsewhere (change : Storage → Storage) :
    t.Reaction (.storage change) { t with shared := { t.shared with storage := change t.shared.storage } } {}
  /-- A frame is answered to its sender by a failure. -/
  | refused {room : RoomId} {connection : ConnectionId} {bytes : Json.Bytes} {next : Site} (message : String)
    (store : next.store = t.store) :
    t.Reaction (.happening (.frame room connection bytes)) next
      { posts := [(connection, (Action.error room message).text)] }
  /-- A chat is handed on with the room and the user of its sender. -/
  | chatted {room : RoomId} {connection : ConnectionId} {bytes : Json.Bytes} {sent : Action}
    (decoded : Action.decode bytes = .ok sent) (kind : sent.kind = .chat) :
    t.Reaction (.happening (.frame room connection bytes)) t
      { bulletins :=
          [t.hub.bulletin room { sent with room := some room, user := some (t.shared.userOf connection) }] }
  /-- An action is told as it is. -/
  | broadcast (room : RoomId) (action : Action) :
    t.Reaction (.broadcast room action) t { posts := (t.hub.seats.snapshot room).map (·, action.text) }
  /-- A call is stored and announced. -/
  | called {op : Operation} {next : Site} {id : RoomId} {call : Call} {data : String} {r : Room} {w : Write}
    (asked : ∀ room connection bytes, op = .happening (.frame room connection bytes) →
      id = room ∧ call.AskedBy (t.shared.userOf connection))
    (loaded : t.store.room id = .ok (some r)) (write : r.write? data call = some w)
    (accepted : w.land t.store t.hub.winPoints = (next.store, true))
    (seats : call ≠ .cancel → next.hub.seats = t.hub.seats) (leaves : op.LeavesQueues) :
    t.Reaction op next { bulletins := (call.announcements w.room).map (t.hub.bulletin id) }

/-- An operation that does something else to the connections has nothing to say. -/
theorem Reaction.silent {t next : Site} {op : Operation} {o : Outbox} (h : t.Reaction op next o)
    (hop : ¬ op.LeavesQueues) : o = {} := by
  cases h with
  | quiet | elsewhere => rfl
  | refused | chatted | broadcast => exact absurd trivial hop
  | called _ _ _ _ _ hleaves => exact absurd hleaves hop

/-- The store stays sound, whatever the hub does. -/
theorem Reaction.sound {t next : Site} {op : Operation} {o : Outbox} (h : t.Reaction op next o) (hs : t.store.Sound)
    (hop : op.KeepsStore) : next.store.Sound := by
  cases h with
  | quiet hgrows => exact hgrows.sound hs
  | elsewhere change => exact (congrArg Store.Sound (hop t.shared.storage)).mpr hs
  | refused message hstore => exact hstore ▸ hs
  | chatted | broadcast => exact hs
  | called _ hloaded hwrite haccepted => exact (hs.landed hloaded hwrite haccepted).1

/-- An operation leads to a site up to its outbox, on whatever bus. -/
structure Reacts (t : Site) (op : Operation) (next : Site) (o : Outbox) : Prop where
  reaction : t.Reaction op next o
  queues : op.LeavesQueues → next.shared.connections = t.shared.connections
  applied : ∀ wiring bus, (t.rewired wiring bus).apply op = (next.rewired wiring bus).carry o

/-- What comes of a call is a reaction, if the call has been told to the seats of the hub that it was made at. -/
theorem Reaction.of_outcome {t next : Site} {op : Operation} {id : RoomId} {call : Call} {data : String}
    {actions : List Action}
    (hasked : ∀ room connection bytes, op = .happening (.frame room connection bytes) →
      id = room ∧ call.AskedBy (t.shared.userOf connection))
    (houtcome : t.store.Outcome id call data t.hub.winPoints next.store actions)
    (hseats : call ≠ .cancel → next.hub.seats = t.hub.seats) (hleaves : op.LeavesQueues) :
    t.Reaction op next { bulletins := actions.map (t.hub.bulletin id) } := by
  generalize hstore : next.store = store at houtcome
  cases houtcome with
  | refused => exact .quiet (.of_eq hstore)
  | landed hloaded hwrite haccepted => exact .called hasked hloaded hwrite (hstore ▸ haccepted) hseats hleaves

/-- A frame that changes no stored room is ignored, or answered by a failure. -/
theorem reacts_idle_frame {t : Site} {room : RoomId} {connection : ConnectionId} {bytes : Json.Bytes} {sent : Action}
    {storage : Storage} {result : Except Failure Unit} (hdecode : Action.decode bytes = .ok sent)
    (hstore : storage.store = t.store)
    (hperform : ∀ wiring bus, Hub.perform { t.hub with wiring } { t.shared with bus } room
        (t.shared.userOf connection) { sent with room := some room, user := some (t.shared.userOf connection) } =
      ({ t.shared with bus, storage }, result)) :
    ∃ next o, t.Reacts (.happening (.frame room connection bytes)) next o := by
  have huser (bus : Bus.MemoryBus) : Shared.userOf { t.shared with bus } connection = t.shared.userOf connection := rfl
  cases result with
  | ok u =>
    refine ⟨{ t with shared := { t.shared with storage } }, {}, .quiet (.of_eq hstore), fun _ => rfl,
      fun wiring bus => ?_⟩
    simp only [apply, meet, rewired, Hub.handle, hdecode, huser, hperform]
    rfl
  | error f =>
    refine ⟨{ t with shared := { t.shared with storage } }, _, .refused f.clientMessage hstore, fun _ => rfl,
      fun wiring bus => ?_⟩
    simp only [apply, meet, rewired, Hub.handle, hdecode, huser, hperform]
    rfl

/-- A call that comes with a frame is carried out, or its failure is told to the sender. -/
theorem reacts_call_frame {t : Site} {room : RoomId} {connection : ConnectionId} {bytes : Json.Bytes} {sent : Action}
    {call : Call} {data : String} {storage : Storage} {actions : List Action} {result : Except Failure Unit}
    (hdecode : Action.decode bytes = .ok sent) (hasked : call.AskedBy (t.shared.userOf connection))
    (houtcome : t.store.Outcome room call data t.hub.winPoints storage.store actions)
    (hfailed : (∃ f, result = .error f) ↔ actions = [])
    (hperform : ∀ wiring bus, Hub.perform { t.hub with wiring } { t.shared with bus } room
        (t.shared.userOf connection) { sent with room := some room, user := some (t.shared.userOf connection) } =
      ({ t.shared with bus, storage }.carry wiring.isLive { bulletins := actions.map (t.hub.bulletin room) }, result)) :
    ∃ next o, t.Reacts (.happening (.frame room connection bytes)) next o := by
  have huser (bus : Bus.MemoryBus) : Shared.userOf { t.shared with bus } connection = t.shared.userOf connection := rfl
  cases result with
  | ok u =>
    refine ⟨{ t with shared := { t.shared with storage } }, _,
      Reaction.of_outcome (fun room' connection' bytes' heq => ?_) houtcome (fun _ => rfl) trivial, fun _ => rfl,
      fun wiring bus => ?_⟩
    · obtain ⟨rfl, rfl, -⟩ : room = room' ∧ connection = connection' ∧ bytes = bytes' := by simpa using heq
      exact ⟨rfl, hasked⟩
    · simp only [apply, meet, rewired, Hub.handle, hdecode, huser, hperform]
      rfl
  | error f =>
    obtain rfl := hfailed.mp ⟨f, rfl⟩
    exact reacts_idle_frame hdecode (houtcome.eq_of_nil hasked) hperform

/-- What a frame leads to. -/
theorem reacts_frame (t : Site) (room : RoomId) (connection : ConnectionId) (bytes : Json.Bytes) :
    ∃ next o, t.Reacts (.happening (.frame room connection bytes)) next o := by
  have huser (bus : Bus.MemoryBus) : Shared.userOf { t.shared with bus } connection = t.shared.userOf connection := rfl
  cases hdecode : Action.decode bytes with
  | error fault =>
    refine ⟨t, {}, .quiet .same, fun _ => rfl, fun wiring bus => ?_⟩
    simp only [apply, meet, rewired, Hub.handle, hdecode]
    rfl
  | ok sent =>
    cases hcommand : Command.ofAction { sent with room := some room, user := some (t.shared.userOf connection) } with
    | error fault =>
      exact reacts_idle_frame hdecode (show t.shared.storage.store = t.store from rfl) fun wiring bus => by
        simp only [Hub.perform, hcommand]
        rfl
    | ok command =>
      cases command with
      | joinRoom =>
        obtain ⟨storage, actions, result, houtcome, hfailed, hjoin⟩ :=
          t.hub.joinRoom_outcome t.shared room (t.shared.userOf connection)
        exact reacts_call_frame hdecode (show Call.AskedBy _ (.join _) from rfl) houtcome hfailed fun wiring bus => by
          simp only [Hub.perform, hcommand, Hub.execute, hjoin]
      | makeMove move =>
        obtain ⟨storage, actions, result, houtcome, hfailed, hmove⟩ :=
          t.hub.makeMove_outcome t.shared room (t.shared.userOf connection) move sent.payload
        exact reacts_call_frame hdecode (show Call.AskedBy _ (.move _ move) from rfl) houtcome hfailed
          fun wiring bus => by simp only [Hub.perform, hcommand, Hub.execute, hmove]
      | chat payload =>
        refine ⟨t, _, .chatted hdecode (Command.kind_of_chat hcommand), fun _ => rfl, fun wiring bus => ?_⟩
        simp only [apply, meet, rewired, Hub.handle, hdecode, huser, Hub.perform, hcommand, Hub.execute, Hub.fanOut_eq]
        rfl
      | createRoom =>
        exact reacts_idle_frame hdecode (show t.shared.storage.store = t.store from rfl) fun wiring bus => by
          simp only [Hub.perform, hcommand, Hub.execute]
          rfl
      | unknown kind =>
        exact reacts_idle_frame hdecode (show t.shared.storage.store = t.store from rfl) fun wiring bus => by
          simp only [Hub.perform, hcommand, Hub.execute]
          rfl

/-- Everything that happens but has nothing to do with the wiring leads to a site up to its outbox. -/
theorem meet_reacts (t : Site) {e : Happening} (he : (Operation.happening e).KeepsWiring) :
    ∃ next o, t.Reacts (.happening e) next o := by
  cases e with
  | connect user capacity =>
    exact ⟨t.meet (.connect user capacity), {}, .quiet .same, False.elim, fun _ _ => rfl⟩
  | create creator gameType =>
    refine ⟨t.meet (.create creator gameType), {}, .quiet ?_, fun _ => rfl, fun _ _ => rfl⟩
    rcases t.shared.storage.insert_cases (·.createRoom creator gameType) with hcreate | hcreate
    · exact .of_eq hcreate
    · exact (show (t.meet (.create creator gameType)).store = _ from hcreate) ▸ .created creator gameType
  | register user room connection =>
    refine ⟨t.meet (.register user room connection), {}, .quiet (.of_eq ?_), fun _ => ?_, fun wiring bus => ?_⟩
    · simp only [meet]
      split <;> rfl
    · simp only [meet]
      split <;> rfl
    · simp only [apply, meet, rewired, Hub.register_rewired]
      cases t.hub.register user room connection <;> rfl
  | frame room connection bytes => exact t.reacts_frame room connection bytes
  | leave room connection =>
    obtain ⟨hub, shared, houtcome, hconnections, heq⟩ := t.hub.unregister_outcome t.shared room connection
    refine ⟨⟨hub, shared⟩, _, .of_outcome (by simp) houtcome (by simp) trivial, fun _ => hconnections,
      fun wiring bus => ?_⟩
    simp only [apply, meet, rewired, heq]
    rfl
  | expire f =>
    obtain ⟨storage, actions, result, houtcome, heq⟩ :=
      Hub.forfeitIfAbsent_outcome { t.hub with forfeits := t.hub.forfeits.erase f } t.shared f.room f.user
    refine ⟨⟨{ t.hub with forfeits := t.hub.forfeits.erase f }, { t.shared with storage }⟩, _,
      .of_outcome (by simp) houtcome (fun _ => rfl) trivial, fun _ => rfl, fun wiring bus => ?_⟩
    have hfire := heq wiring bus
    simp only [apply, meet, rewired, Hub.fire]
    rw [hfire]
    rfl
  | forfeit room user =>
    obtain ⟨storage, actions, result, houtcome, heq⟩ := t.hub.forfeitIfAbsent_outcome t.shared room user
    refine ⟨⟨t.hub, { t.shared with storage }⟩, _, .of_outcome (by simp) houtcome (fun _ => rfl) trivial,
      fun _ => rfl, fun wiring bus => ?_⟩
    simp only [apply, meet, rewired, heq]
    rfl
  | wire => exact he.elim
  | pull => exact he.elim
  | shutdown =>
    refine ⟨t.meet .shutdown, {}, .quiet (.of_eq ?_), False.elim, fun wiring bus => ?_⟩
    · exact congrArg Storage.store (t.shared.dismiss_storage _)
    · simp only [apply, meet, rewired, Hub.shutdown, Shared.dismiss_bus]
      rfl
  | pass now clock => exact ⟨t.meet (.pass now clock), {}, .quiet (.ticked clock), fun _ => rfl, fun _ _ => rfl⟩

/-- Every operation that leaves the wiring alone leads to a site up to its outbox. -/
theorem apply_reacts (t : Site) {op : Operation} (hop : op.KeepsWiring) : ∃ next o, t.Reacts op next o := by
  cases op with
  | happening e => exact t.meet_reacts hop
  | join room user =>
    obtain ⟨storage, actions, result, houtcome, -, heq⟩ := t.hub.joinRoom_outcome t.shared room user
    refine ⟨⟨t.hub, { t.shared with storage }⟩, _, .of_outcome (by simp) houtcome (fun _ => rfl) trivial, fun _ => rfl,
      fun wiring bus => ?_⟩
    simp only [apply, rewired, heq]
    rfl
  | move room user move payload =>
    obtain ⟨storage, actions, result, houtcome, -, heq⟩ := t.hub.makeMove_outcome t.shared room user move payload
    refine ⟨⟨t.hub, { t.shared with storage }⟩, _, .of_outcome (by simp) houtcome (fun _ => rfl) trivial, fun _ => rfl,
      fun wiring bus => ?_⟩
    simp only [apply, rewired, heq]
    rfl
  | broadcast room action =>
    refine ⟨t, _, .broadcast room action, fun _ => rfl, fun wiring bus => ?_⟩
    simp only [apply, rewired, Hub.broadcast, Hub.deliver, Shared.sendAll_eq]
    rfl
  | storage change => exact ⟨_, {}, .elsewhere change, fun _ => rfl, fun _ _ => rfl⟩
  | connection id change => exact ⟨t.apply (.connection id change), {}, .quiet .same, False.elim, fun _ _ => rfl⟩

end Site

end Game

end Parlor
