import Parlor.Proofs.Game.Access

/-!
# Requests under the lock of a room

Four operations of a hub change a stored room, and they have one form: load the room, decide on it what
to answer or what to write, write, and answer. Here the form is taken apart, so that the steps of several
requests can be told from each other, and put together again: a request that is served on its own does to
the store what the hub does, and gives the same answer.
-/

namespace Parlor.Game

open Json (Value)

/-- A request that is carried out under the lock of its room. A forfeit comes after the look at the seats. -/
inductive Request where
  | join (user : UserId)
  /-- The payload is the move as it was sent. -/
  | move (user : UserId) (target : Move) (payload : Value)
  | forfeit (absent : UserId)
  | cancel (creator : UserId)

/-- What comes of a loaded room: an answer at once, or a write. -/
inductive Decision where
  | answer (result : Except Failure Bool)
  | write (w : Write)

namespace Request

/-- What a request decides on a room. -/
def decideOn (r : Room) : Request → Decision
  | .join user =>
    match r.join user with
    | (_, .error f) => .answer (.error f)
    | (next, .ok ()) => .write (.update next)
  | .move user target payload =>
    match r.applyMove user target with
    | (_, .error f) => .answer (.error f)
    | (next, .ok _) => .write (.commit next user payload.text)
  | .forfeit absent =>
    if r.status = .active ∧ r.isParticipant absent then
      match r.forfeit absent with
      | (_, .error f) => .answer (.error f)
      | (next, .ok finish) => .write (.conclude next finish)
    else .answer (.ok false)
  | .cancel creator =>
    if r.status = .pending ∧ r.creator = creator then
      match r.cancel with
      | (_, .error f) => .answer (.error f)
      | (next, .ok ()) => .write (.update next)
    else .answer (.ok true)

/-- What a request decides on what was loaded of its room. -/
def decide (id : RoomId) (loaded : Except StorageFault (Option Room)) (q : Request) : Decision :=
  match loaded with
  | .error fault => .answer (.error (.storage fault))
  | .ok none => .answer (.error (.roomNotFound id))
  | .ok (some r) => q.decideOn r

/-- What a request answers after its write. Only a forfeit tells whether it was carried out; the others answer
true unless they fail, and giving a room up never fails here. -/
def settle : Request → Bool → Except Failure Bool
  | _, true => .ok true
  | .join _, false => .error .notJoinable
  | .move _ _ _, false => .error .notYourTurn
  | .forfeit _, false => .ok false
  | .cancel _, false => .ok true

/-- A request takes the lock of its room out of use after a write that has ended the room. -/
def closes (w : Write) : Request → Bool
  | .join _ => false
  | .move _ _ _ => w.room.status.isTerminal
  | .forfeit _ | .cancel _ => true

end Request

/-- Serves a request without interruption. -/
def Store.serve (s : Store) (winPoints : Int64) (id : RoomId) (q : Request) : Store × Except Failure Bool :=
  match q.decide id (s.room id) with
  | .answer result => (s, result)
  | .write w => ((w.land s winPoints).1, q.settle (w.land s winPoints).2)

/-! ## What a decision has found -/

/-- A room is loaded under its own identifier, with the status of its row. -/
theorem Store.row_of_room {s : Store} {id : RoomId} {r : Room} (h : s.room id = .ok (some r)) :
    r.id = id ∧ ∃ row, s.row? id = some row ∧ row.status = r.status := by
  unfold Store.room at h
  split at h
  case h_1 => simp at h
  case h_2 row hrow =>
    unfold StoredRoom.load at h
    split at h
    · simp [Functor.map, Except.map] at h
    · split at h
      · simp [Functor.map, Except.map] at h
      · simp only [Functor.map, Except.map, Except.ok.injEq, Option.some.injEq] at h
        subst h
        exact ⟨by simp [Store.row?_id hrow], row, hrow, rfl⟩

namespace Request

/-- The call on the loaded room that a request makes. -/
def call : Request → Call
  | .join user => .join user
  | .move user target _ => .move user target
  | .forfeit absent => .forfeit absent
  | .cancel _ => .cancel

/-- What a request records with its write. -/
def data : Request → String
  | .move _ _ payload => payload.text
  | .join _ | .forfeit _ | .cancel _ => ""

/-- The write of a request is what its call leads to. -/
theorem decideOn_leads {r : Room} {q : Request} {w : Write} (h : q.decideOn r = .write w) :
    r.Leads q.data q.call w := by
  cases q with
  | join user =>
    rcases r.join_cases user with ⟨hstatus, hcreator, hjoin⟩ | ⟨f, hjoin⟩
    · simp only [decideOn, hjoin, Decision.write.injEq] at h
      exact h ▸ .join hstatus hcreator
    · simp [decideOn, hjoin] at h
  | move user target payload =>
    rcases r.applyMove_cases user target with ⟨m, other, c, hlegal, hmove⟩ | ⟨f, hmove⟩
    · simp only [decideOn, hmove, Decision.write.injEq] at h
      exact h ▸ .move hlegal
    · simp [decideOn, hmove] at h
  | forfeit absent =>
    simp only [decideOn] at h
    split at h
    · rcases r.forfeit_cases absent with ⟨winner, hstatus, hother, hforfeit⟩ | ⟨f, hforfeit⟩
      · simp only [hforfeit, Decision.write.injEq] at h
        exact h ▸ .forfeit hstatus hother
      · simp [hforfeit] at h
    · simp at h
  | cancel creator =>
    simp only [decideOn] at h
    split at h
    · rcases r.cancel_cases with ⟨hstatus, hcancel⟩ | ⟨f, hcancel⟩
      · simp only [hcancel, Decision.write.injEq] at h
        exact h ▸ .cancel hstatus
      · simp [hcancel] at h
    · simp at h

/-- A request writes the room that it has loaded, which has not ended; one that takes the lock out of use writes a
room that has ended. -/
theorem decide_write {q : Request} {id : RoomId} {s : Store} {w : Write} (h : q.decide id (s.room id) = .write w) :
    w.room.id = id ∧ (∃ row, s.row? id = some row ∧ row.status.isTerminal = false) ∧
      (q.closes w = true → w.room.status.isTerminal = true) := by
  rcases hroom : s.room id with fault | _ | r <;> rw [hroom, decide] at h
  · contradiction
  · contradiction
  · obtain ⟨hid, row, hrow, hstatus⟩ := Store.row_of_room hroom
    have hleads := decideOn_leads h
    rw [← hid]
    cases q with
    | join user =>
      cases hleads with
      | join hlive => exact ⟨rfl, ⟨row, hid ▸ hrow, by rw [hstatus, hlive]; rfl⟩, fun hcloses => nomatch hcloses⟩
    | move user target payload =>
      cases hleads with
      | move hlegal =>
        exact ⟨(r.afterMove_frame _ _ _ _).1, ⟨row, hid ▸ hrow, by rw [hstatus, hlegal.active]; rfl⟩,
          fun hcloses => hcloses⟩
    | forfeit absent =>
      cases hleads with
      | forfeit hlive => exact ⟨rfl, ⟨row, hid ▸ hrow, by rw [hstatus, hlive]; rfl⟩, fun _ => rfl⟩
    | cancel creator =>
      cases hleads with
      | cancel hlive => exact ⟨rfl, ⟨row, hid ▸ hrow, by rw [hstatus, hlive]; rfl⟩, fun _ => rfl⟩

end Request

/-! ## Requests of a hub -/

/-- A request comes after the look at the seats: the player who is to forfeit has none. -/
def Request.Absent (h : Hub) (id : RoomId) (q : Request) : Prop :=
  ∀ absent, q = .forfeit absent → h.isRegistered id absent = false

/-- Puts a request to a hub. -/
def Hub.ask (h : Hub) (s : Shared) (id : RoomId) : Request → Shared × Except Failure Bool
  | .join user => ((h.joinRoom s id user).1, (h.joinRoom s id user).2.map fun _ => true)
  | .move user target payload =>
    ((h.makeMove s id user target payload).1, (h.makeMove s id user target payload).2.map fun _ => true)
  | .forfeit absent => h.forfeitIfAbsent s id absent
  -- giving a room up answers nothing, and fails if the room cannot be loaded
  | .cancel creator => (Hub.cancelPending s id creator, (Hub.room s id).2.map fun _ => true)

/-- Without trouble a hub serves a request as the store does. -/
theorem Hub.ask_eq {s : Shared} (hs : s.storage.trouble = .none) (h : Hub) {id : RoomId} {q : Request}
    (habsent : q.Absent h id) :
    (h.ask s id q).1.storage = { s.storage with store := (s.storage.store.serve h.winPoints id q).1 } ∧
      (h.ask s id q).2 = (s.storage.store.serve h.winPoints id q).2 := by
  cases q with
  | join user =>
    simp only [ask, joinRoom, room_eq hs, Store.serve, Request.decide]
    rcases s.storage.store.room id with fault | _ | r
    · exact ⟨rfl, rfl⟩
    · exact ⟨rfl, rfl⟩
    · simp only [Request.decideOn]
      rcases hjoin : r.join user with ⟨next, f | ⟨⟩⟩
      · exact ⟨rfl, rfl⟩
      · simp only [Storage.updateRoom, call_write hs, Write.land]
        rcases s.storage.store.updateRoom next .pending with ⟨store, _ | _⟩ <;> simp [Request.settle, Except.map]
  | move user target payload =>
    simp only [ask, makeMove, room_eq hs, Store.serve, Request.decide]
    rcases s.storage.store.room id with fault | _ | r
    · exact ⟨rfl, rfl⟩
    · exact ⟨rfl, rfl⟩
    · simp only [Request.decideOn]
      rcases hmove : r.applyMove user target with ⟨next, f | outcome⟩
      · exact ⟨rfl, rfl⟩
      · simp only [Storage.commitMove, call_write hs, Write.land]
        rcases s.storage.store.commitMove next user payload.text next.finish? h.winPoints with ⟨store, _ | _⟩ <;>
          simp [Request.settle, Except.map]
  | forfeit absent =>
    have hseat : h.isRegistered id absent = false := habsent absent rfl
    simp only [ask, forfeitIfAbsent, hseat, room_eq hs, Store.serve, Request.decide]
    rcases s.storage.store.room id with fault | _ | r
    · exact ⟨rfl, rfl⟩
    · exact ⟨rfl, rfl⟩
    · simp only [Request.decideOn]
      by_cases hplays : r.status = .active ∧ r.isParticipant absent = true
      · simp only [if_pos hplays]
        rcases hforfeit : r.forfeit absent with ⟨next, f | finish⟩
        · exact ⟨rfl, rfl⟩
        · simp only [Storage.finishRoom, call_write hs, Write.land]
          rcases s.storage.store.finishRoom next finish h.winPoints with ⟨store, _ | _⟩ <;> simp [Request.settle]
      · simp only [if_neg hplays]
        exact ⟨rfl, rfl⟩
  | cancel creator =>
    simp only [ask, cancelPending, room_eq hs, Store.serve, Request.decide]
    rcases s.storage.store.room id with fault | _ | r
    · exact ⟨rfl, rfl⟩
    · exact ⟨rfl, rfl⟩
    · simp only [Request.decideOn]
      by_cases hwaits : r.status = .pending ∧ r.creator = creator
      · simp only [if_pos hwaits]
        rcases r.cancel_cases with ⟨-, hcancel⟩ | ⟨f, hcancel⟩
        · simp only [hcancel, Storage.updateRoom, call_write hs, Write.land]
          rcases s.storage.store.updateRoom { r with status := .cancelled } .pending with ⟨store, _ | _⟩ <;>
            simp [Request.settle, Except.map]
        · simp [Room.cancel, Room.become, hwaits.1, Status.canBecome] at hcancel
      · simp [if_neg hwaits, Except.map]

end Parlor.Game
