import Parlor.Proofs.Game.Authorship

/-!
# Rulings on frames

What a hub makes of the bytes that a connection sends. It accepts a join, a move or a chat; or it tells the
sender, and nobody else, that something went wrong; or it drops the frame. What is not accepted leaves no
trace: not in the store, not in the seats, and in no queue but that of the sender.

A join or a move is accepted exactly if the stored room allows it, and every chat is.
-/

namespace Parlor.Game

open Json

/-- What a hub makes of a frame. -/
inductive Verdict where
  | accepted
  | refused
  | ignored
  deriving DecidableEq, Repr

/-! ## What is asked of a room -/

/-- A user asks for a call with an action, and for the data that are recorded with it. -/
def Action.Asks (sent : Action) (user : UserId) (data : String) : Call → Prop
  | .join other => sent.kind = .joinRoom ∧ other = user
  | .move other move =>
    sent.kind = .makeMove ∧ Move.ofValue sent.payload = .ok move ∧ data = sent.payload.text ∧ other = user
  | .forfeit _ | .cancel => False

/-- What a user asks for with an action is the user's own call. -/
theorem Action.Asks.askedBy {sent : Action} {user : UserId} {data : String} {call : Call}
    (h : sent.Asks user data call) : call.AskedBy user := by
  cases call with
  | join => exact h.2
  | move => exact h.2.2.2
  | forfeit | cancel => exact h

/-- Only an action of two kinds asks for a call. -/
theorem Action.Asks.kind {sent : Action} {user : UserId} {data : String} {call : Call}
    (h : sent.Asks user data call) : sent.kind = .joinRoom ∨ sent.kind = .makeMove := by
  cases call with
  | join => exact .inl h.1
  | move => exact .inr h.1
  | forfeit | cancel => exact h.elim

/-- A room allows what a user asks for: it waits for somebody else, or it is the user's turn to move into a free
cell of the board. -/
def Room.Allows (r : Room) (user : UserId) (sent : Action) : Prop :=
  sent.kind = .joinRoom ∧ r.status = .pending ∧ r.creator ≠ user ∨
    sent.kind = .makeMove ∧ r.status = .active ∧ r.nextTurn = some user ∧
      ∃ x y : Fin 3, Move.ofValue sent.payload = .ok { x := x.val, y := y.val } ∧ r.board.get (x, y) = none

/-- A number is the index of a row or column on the board. -/
theorem Board.coordinate?_eq_some_iff {n : Int} {i : Fin 3} : coordinate? n = some i ↔ n = i.val := by
  unfold coordinate?
  split
  · rw [Option.some.injEq, Fin.ext_iff]
    simp only
    omega
  · simp only [reduceCtorEq, false_iff]
    omega

/-- A row and a column are those of a cell on the board. -/
theorem Board.cell?_eq_some_iff {x y : Int} {c : Cell} : cell? x y = some c ↔ x = c.1.val ∧ y = c.2.val := by
  obtain ⟨i, j⟩ := c
  rw [← coordinate?_eq_some_iff, ← coordinate?_eq_some_iff, cell?]
  cases coordinate? x <;> cases coordinate? y <;> simp

/-- Whoever has the turn in an active room has a marker and another player. -/
theorem Room.Lawful.mover {r : Room} (h : r.Lawful) (hactive : r.status = .active) {user : UserId}
    (hturn : r.nextTurn = some user) : ∃ m other, r.markerOf? user = some m ∧ r.opponentOf? user = some other := by
  obtain ⟨rival, hplay⟩ := h.inPlay hactive
  rcases hplay.turn with ⟨-, hnext⟩ | ⟨-, hnext⟩ <;> rw [hnext, Option.some.injEq] at hturn <;> subst hturn
  · exact ⟨_, rival, r.markerOf?_creator, (opponentOf?_eq_some_iff hplay.opponent).mpr (.inl ⟨rfl, rfl⟩)⟩
  · exact ⟨_, r.creator, hplay.markerOf?_rival,
      (opponentOf?_eq_some_iff hplay.opponent).mpr (.inr ⟨hplay.distinct, rfl, rfl⟩)⟩

/-- A lawful room allows what a user asks for exactly if the call leads to a write. -/
theorem Room.allows_iff {r : Room} (hr : r.Lawful) {user : UserId} {sent : Action} :
    r.Allows user sent ↔ ∃ data call w, sent.Asks user data call ∧ r.write? data call = some w := by
  constructor
  · rintro (⟨hkind, hpending, hcreator⟩ | ⟨hkind, hactive, hturn, x, y, hmove, hfree⟩)
    · exact ⟨"", .join user, .update (r.joinedBy user), ⟨hkind, rfl⟩, write?_join hpending hcreator ""⟩
    · obtain ⟨m, other, hmarker, hother⟩ := hr.mover hactive hturn
      have hlegal : r.LegalMove user { x := x.val, y := y.val } m other (x, y) :=
        ⟨hactive, hturn, hmarker, hother, Board.cell?_eq_some_iff.mpr ⟨rfl, rfl⟩, hfree⟩
      exact ⟨sent.payload.text, .move user _, .commit (r.afterMove user other (x, y) m).1 user sent.payload.text,
        ⟨hkind, hmove, rfl, rfl⟩, by simp only [write?, hlegal.applyMove]⟩
  · rintro ⟨data, call, w, hasks, hwrite⟩
    cases leads_of_write? hwrite with
    | join hpending hcreator => exact .inl ⟨hasks.1, hpending, hasks.2 ▸ hcreator⟩
    | @move other _ move m c hlegal =>
      obtain ⟨hkind, hmove, -, rfl⟩ := hasks
      obtain ⟨hx, hy⟩ := Board.cell?_eq_some_iff.mp hlegal.cell
      exact .inr ⟨hkind, hlegal.active, hlegal.turn, c.1, c.2, by rw [← hx, ← hy]; exact hmove, hlegal.free⟩
    | forfeit | cancel => exact hasks.elim

/-- A write that a user asks for changes the store. -/
theorem Write.landed_ne {s : Store} {winPoints : Int64} {r : Room} {data : String} {call : Call} {w : Write}
    (hleads : r.Leads data call w) {user : UserId} (hasked : call.AskedBy user) {row : StoredRoom}
    (hrow : s.row? w.room.id = some row) (hadmits : w.Admits row) : w.landed s winPoints ≠ s := by
  intro hsame
  cases hleads with
  | @join joiner =>
    -- the room does not wait any longer
    have hafter := Write.row?_landed s winPoints (.update (r.joinedBy joiner)) (r.joinedBy joiner).id
    rw [hsame, show s.row? (r.joinedBy joiner).id = some row from hrow, Option.map_some, Option.some.injEq,
      if_pos (show (r.joinedBy joiner).id = (update (r.joinedBy joiner)).room.id from rfl)] at hafter
    have hstatus : row.status = .active := congrArg StoredRoom.status hafter
    rw [show row.status = .pending from hadmits] at hstatus
    contradiction
  | move =>
    -- the log is longer
    have hlog := congrArg (·.moves.length) hsame
    simp [landed, entries] at hlog
  | forfeit | cancel => exact hasked

/-- What a user asks for, and the room leads to, changes a sound store. -/
theorem Store.Sound.attempt_ne {s : Store} (h : s.Sound) {id : RoomId} {data : String} {call : Call} {r : Room}
    {w : Write} (hloaded : s.room id = .ok (some r)) (hwrite : r.write? data call = some w) {user : UserId}
    (hasked : call.AskedBy user) (winPoints : Int64) : s.attempt id call data winPoints ≠ s := by
  obtain ⟨hkeeps, hlawful⟩ := h.of_room hloaded
  have hleads := Room.leads_of_write? hwrite
  have hid : w.room.id = id := (hleads.lawful hlawful).2.id.trans hkeeps.id
  obtain ⟨row, hrow, hholds⟩ := hkeeps
  have hadmits := hleads.admits hholds
  have hland := Write.land_of_admits (hid.symm ▸ hrow) hadmits winPoints
  simpa only [attempt, hloaded, hwrite, hland] using Write.landed_ne hleads hasked (hid.symm ▸ hrow) hadmits

namespace Site

/-- How a hub rules on a frame, and what comes of it. -/
inductive Ruling (t : Site) (room : RoomId) (connection : ConnectionId) (bytes : Bytes) : Verdict → Site → Prop
  /-- A call is stored, and announced to the seats of the room. -/
  | called {sent : Action} {data : String} {call : Call} {r : Room} {w : Write} (storage : Storage)
    (decoded : Action.decode bytes = .ok sent) (asks : sent.Asks (t.shared.userOf connection) data call)
    (loaded : t.store.room room = .ok (some r)) (write : r.write? data call = some w)
    (stored : w.land t.store t.hub.winPoints = (storage.store, true)) :
    t.Ruling room connection bytes .accepted
      (carry { t with shared := { t.shared with storage } }
        { bulletins := (call.announcements w.room).map (t.hub.bulletin room) })
  /-- A chat is handed on with the room and the user of its sender. -/
  | chatted {sent : Action} (decoded : Action.decode bytes = .ok sent) (kind : sent.kind = .chat) :
    t.Ruling room connection bytes .accepted
      (t.carry { bulletins :=
        [t.hub.bulletin room { sent with room := some room, user := some (t.shared.userOf connection) }] })
  /-- The sender is told of a failure. -/
  | refused {sent : Action} (storage : Storage) (f : Failure) (decoded : Action.decode bytes = .ok sent)
    (kind : sent.kind ∈ [.createRoom, .joinRoom, .makeMove]) (store : storage.store = t.store) :
    t.Ruling room connection bytes .refused
      { t with shared := { t.shared with storage }.post connection (Action.error room f.clientMessage).text }
  /-- The bytes are no action, or one that players do not send. -/
  | ignored (kind : ∀ sent, Action.decode bytes = .ok sent →
      sent.kind ∉ [.createRoom, .joinRoom, .makeMove, .chat]) :
    t.Ruling room connection bytes .ignored t

section

variable {t : Site} {room : RoomId} {connection : ConnectionId} {bytes : Bytes} {sent : Action} {shared : Shared}

/-- What is asked for in a frame is done. -/
theorem meet_frame_ok (hdecode : Action.decode bytes = .ok sent)
    (hperform : t.hub.perform t.shared room (t.shared.userOf connection)
      { sent with room := some room, user := some (t.shared.userOf connection) } = (shared, .ok ())) :
    t.meet (.frame room connection bytes) = { t with shared } := by
  simp only [meet, Hub.handle, hdecode, hperform]

/-- What is asked for in a frame fails, and the sender is told so. -/
theorem meet_frame_error (hdecode : Action.decode bytes = .ok sent) {f : Failure}
    (hperform : t.hub.perform t.shared room (t.shared.userOf connection)
      { sent with room := some room, user := some (t.shared.userOf connection) } = (shared, .error f)) :
    t.meet (.frame room connection bytes) =
      { t with shared := shared.post connection (Action.error room f.clientMessage).text } := by
  simp only [meet, Hub.handle, hdecode, hperform]

end

/-- A call that a user asks for in a frame is accepted or refused. -/
theorem ruling_of_call {t : Site} {room : RoomId} {connection : ConnectionId} {bytes : Bytes} {sent : Action}
    (call : Call) {data : String} {storage : Storage} {actions : List Action} {result : Except Failure Unit}
    (hdecode : Action.decode bytes = .ok sent) (hasks : sent.Asks (t.shared.userOf connection) data call)
    (houtcome : t.store.Outcome room call data t.hub.winPoints storage.store actions)
    (hfailed : (∃ f, result = .error f) ↔ actions = [])
    (hperform : t.hub.perform t.shared room (t.shared.userOf connection)
        { sent with room := some room, user := some (t.shared.userOf connection) } =
      (Shared.carry t.hub.wiring.isLive { t.shared with storage }
        { bulletins := actions.map (t.hub.bulletin room) }, result)) :
    ∃ v, t.Ruling room connection bytes v (t.meet (.frame room connection bytes)) := by
  generalize hstore : storage.store = store at houtcome
  cases houtcome with
  | refused =>
    obtain ⟨f, rfl⟩ := hfailed.mpr rfl
    rw [meet_frame_error hdecode hperform]
    exact ⟨.refused, .refused storage f hdecode (by rcases hasks.kind with h | h <;> simp [h]) hstore⟩
  | landed hloaded hwrite haccepted =>
    cases result with
    | ok =>
      rw [meet_frame_ok hdecode hperform]
      exact ⟨.accepted, .called storage hdecode hasks hloaded hwrite (hstore ▸ haccepted)⟩
    | error f =>
      have hnone := hfailed.mp ⟨f, rfl⟩
      cases call with
      | join | move => simp [Call.announcements] at hnone
      | forfeit | cancel => exact hasks.elim

/-- Every frame is ruled on. -/
theorem exists_ruling (t : Site) (room : RoomId) (connection : ConnectionId) (bytes : Bytes) :
    ∃ v, t.Ruling room connection bytes v (t.meet (.frame room connection bytes)) := by
  cases hdecode : Action.decode bytes with
  | error fault =>
    have hsame : t.meet (.frame room connection bytes) = t := by simp only [meet, Hub.handle, hdecode]
    refine ⟨.ignored, hsame.symm ▸ .ignored fun sent hsent => ?_⟩
    rw [hdecode] at hsent
    contradiction
  | ok sent =>
    have hignored (hkind : sent.kind ∉ [.createRoom, .joinRoom, .makeMove, .chat])
        (hperform : t.hub.perform t.shared room (t.shared.userOf connection)
          { sent with room := some room, user := some (t.shared.userOf connection) } = (t.shared, .ok ())) :
        ∃ v, t.Ruling room connection bytes v (t.meet (.frame room connection bytes)) := by
      refine ⟨.ignored, (meet_frame_ok hdecode hperform).symm ▸ .ignored fun sent' hsent => ?_⟩
      rw [hdecode, Except.ok.injEq] at hsent
      exact hsent ▸ hkind
    have hrefused {f : Failure} (hkind : sent.kind ∈ [.createRoom, .joinRoom, .makeMove])
        (hperform : t.hub.perform t.shared room (t.shared.userOf connection)
          { sent with room := some room, user := some (t.shared.userOf connection) } = (t.shared, .error f)) :
        ∃ v, t.Ruling room connection bytes v (t.meet (.frame room connection bytes)) :=
      ⟨.refused, (meet_frame_error hdecode hperform).symm ▸ .refused t.shared.storage f hdecode hkind rfl⟩
    cases hkind : sent.kind with
    | createRoom =>
      have hperform : t.hub.perform t.shared room (t.shared.userOf connection)
            { sent with room := some room, user := some (t.shared.userOf connection) } =
          (t.shared, .error .createOverSocket) := by
        simp only [Hub.perform, Command.ofAction, hkind, Hub.execute]
      exact hrefused (by simp [hkind]) hperform
    | joinRoom =>
      obtain ⟨storage, actions, result, houtcome, hfailed, hjoin⟩ :=
        t.hub.joinRoom_outcome t.shared room (t.shared.userOf connection)
      refine ruling_of_call (.join (t.shared.userOf connection)) hdecode ⟨hkind, rfl⟩ houtcome hfailed ?_
      simp only [Hub.perform, Command.ofAction, hkind, Hub.execute]
      exact hjoin t.hub.wiring t.shared.bus
    | makeMove =>
      cases hmove : Move.ofValue sent.payload with
      | error fault =>
        exact hrefused (by simp [hkind]) (by simp only [Hub.perform, Command.ofAction, hkind, hmove]; rfl)
      | ok move =>
        obtain ⟨storage, actions, result, houtcome, hfailed, hmade⟩ :=
          t.hub.makeMove_outcome t.shared room (t.shared.userOf connection) move sent.payload
        refine ruling_of_call (.move (t.shared.userOf connection) move) hdecode ⟨hkind, hmove, rfl, rfl⟩
          houtcome hfailed ?_
        simp only [Hub.perform, Command.ofAction, hkind, hmove, Hub.execute]
        exact hmade t.hub.wiring t.shared.bus
    | chat =>
      have hperform : t.hub.perform t.shared room (t.shared.userOf connection)
            { sent with room := some room, user := some (t.shared.userOf connection) } =
          (t.shared.carry t.hub.wiring.isLive { bulletins :=
            [t.hub.bulletin room { sent with room := some room, user := some (t.shared.userOf connection) }] },
            .ok ()) := by
        simp only [Hub.perform, Command.ofAction, hkind, Hub.execute, Hub.fanOut_eq]
        rfl
      exact ⟨.accepted, (meet_frame_ok hdecode hperform).symm ▸ .chatted hdecode hkind⟩
    | gameStarted | gameState | error | serverShutdown | other =>
      exact hignored (by simp [hkind]) (by simp only [Hub.perform, Command.ofAction, hkind, Hub.execute])

/-! ## What a ruling says -/

section

variable {t next : Site} {room : RoomId} {connection : ConnectionId} {bytes : Bytes} {v : Verdict}

/-- A frame that is accepted is a chat, or has changed the store. -/
theorem Ruling.of_accepted (hsound : t.store.Sound) (h : t.Ruling room connection bytes .accepted next) :
    ∃ sent, Action.decode bytes = .ok sent ∧ (sent.kind = .chat ∨
      (sent.kind = .joinRoom ∨ sent.kind = .makeMove) ∧ next.store ≠ t.store) := by
  cases h with
  | called storage hdecode hasks hloaded hwrite hstored =>
    refine ⟨_, hdecode, .inr ⟨hasks.kind, ?_⟩⟩
    rw [store, carry, Shared.carry_storage]
    exact Store.eq_attempt hloaded hwrite hstored ▸ hsound.attempt_ne hloaded hwrite hasks.askedBy t.hub.winPoints
  | chatted hdecode hkind => exact ⟨_, hdecode, .inl hkind⟩

/-- A frame that is refused is no chat, and leaves the store as it is. -/
theorem Ruling.of_refused (h : t.Ruling room connection bytes .refused next) :
    (∃ sent, Action.decode bytes = .ok sent ∧ sent.kind ∈ [.createRoom, .joinRoom, .makeMove]) ∧
      next.store = t.store := by
  cases h with
  | refused storage f hdecode hkind hstore =>
    exact ⟨⟨_, hdecode, hkind⟩, (congrArg Storage.store (Shared.post_storage _ _ _)).trans hstore⟩

/-- A frame that is ignored is no chat, and asks for nothing. -/
theorem Ruling.of_ignored (h : t.Ruling room connection bytes .ignored next) {sent : Action}
    (hdecode : Action.decode bytes = .ok sent) : sent.kind ∉ [.createRoom, .joinRoom, .makeMove, .chat] := by
  cases h with
  | ignored hkind => exact hkind sent hdecode

/-- A frame is ruled on in one way only. -/
theorem Ruling.unique (hsound : t.store.Sound) {v' : Verdict} (h : t.Ruling room connection bytes v next)
    (h' : t.Ruling room connection bytes v' next) : v = v' := by
  have haccepted_refused (h : t.Ruling room connection bytes .accepted next)
      (h' : t.Ruling room connection bytes .refused next) : False := by
    obtain ⟨sent, hdecode, hchat | ⟨-, hchanged⟩⟩ := h.of_accepted hsound
    · obtain ⟨⟨sent', hdecode', hkind⟩, -⟩ := h'.of_refused
      obtain rfl : sent = sent' := by simpa [hdecode] using hdecode'
      simp [hchat] at hkind
    · exact hchanged h'.of_refused.2
  have haccepted_ignored (h : t.Ruling room connection bytes .accepted next)
      (h' : t.Ruling room connection bytes .ignored next) : False := by
    obtain ⟨sent, hdecode, hkind⟩ := h.of_accepted hsound
    refine h'.of_ignored hdecode ?_
    rcases hkind with hkind | ⟨hkind | hkind, -⟩ <;> simp [hkind]
  have hrefused_ignored (h : t.Ruling room connection bytes .refused next)
      (h' : t.Ruling room connection bytes .ignored next) : False := by
    obtain ⟨⟨sent, hdecode, hkind⟩, -⟩ := h.of_refused
    have hkind' : sent.kind ∈ [.createRoom, .joinRoom, .makeMove] ++ [.chat] := List.mem_append_left _ hkind
    exact h'.of_ignored hdecode hkind'
  cases v <;> cases v'
  case accepted.accepted | refused.refused | ignored.ignored => rfl
  case accepted.refused => exact (haccepted_refused h h').elim
  case refused.accepted => exact (haccepted_refused h' h).elim
  case accepted.ignored => exact (haccepted_ignored h h').elim
  case ignored.accepted => exact (haccepted_ignored h' h).elim
  case refused.ignored => exact (hrefused_ignored h h').elim
  case ignored.refused => exact (hrefused_ignored h' h).elim

/-- One connection may have got a frame, and nothing else has changed for the games. -/
structure SparesOthers (t next : Site) (connection : ConnectionId) : Prop where
  hub : next.hub = t.hub
  store : next.store = t.store
  bus : next.shared.bus = t.shared.bus
  connections : ∀ id, id ≠ connection → next.shared.connection? id = t.shared.connection? id

/-- A frame that is not accepted leaves no trace but what its sender is told. -/
theorem Ruling.sparesOthers (h : t.Ruling room connection bytes v next) (hv : v ≠ .accepted) :
    t.SparesOthers next connection := by
  cases h with
  | called | chatted => exact absurd rfl hv
  | refused storage f hdecode hkind hstore =>
    exact {
      hub := rfl
      store := (congrArg Storage.store (Shared.post_storage _ _ _)).trans hstore
      bus := by rw [Shared.post_eq]
      connections := fun id hid => (Shared.connection?_post _ _ _ id).trans (if_neg hid.symm) }
  | ignored => exact ⟨rfl, rfl, rfl, fun _ _ => rfl⟩

/-- The sender of a frame that is refused is sent one frame, which tells a failure. -/
theorem Ruling.told (h : t.Ruling room connection bytes .refused next) :
    ∃ f : Failure, next.shared.connection? connection =
      (t.shared.connection? connection).map fun c => (c.send (Action.error room f.clientMessage).text).1 := by
  cases h with
  | refused storage f hdecode hkind hstore =>
    exact ⟨f, (Shared.connection?_post _ _ _ connection).trans (if_pos rfl)⟩

end

/-! ## What is accepted -/

/-- What a user sends in a room is a chat, or the stored room allows it. -/
def Grants (t : Site) (room : RoomId) (user : UserId) (bytes : Bytes) : Prop :=
  ∃ sent, Action.decode bytes = .ok sent ∧
    (sent.kind = .chat ∨ ∃ r, t.store.room room = .ok (some r) ∧ r.Allows user sent)

variable {t : Site} {room : RoomId} {connection : ConnectionId} {bytes : Bytes}

/-- What is accepted was granted. -/
theorem Ruling.granted {next : Site} (hsound : t.store.Sound)
    (h : t.Ruling room connection bytes .accepted next) :
    t.Grants room (t.shared.userOf connection) bytes := by
  cases h with
  | called storage hdecode hasks hloaded hwrite =>
    exact ⟨_, hdecode, .inr ⟨_, hloaded, (Room.allows_iff (hsound.of_room hloaded).2).mpr ⟨_, _, _, hasks, hwrite⟩⟩⟩
  | chatted hdecode hkind => exact ⟨_, hdecode, .inl hkind⟩

/-- Without trouble a call that is asked for in a frame is attempted. -/
theorem meet_asked (huntroubled : t.shared.storage.trouble = .none) {sent : Action} {data : String} {call : Call}
    (hdecode : Action.decode bytes = .ok sent) (hasks : sent.Asks (t.shared.userOf connection) data call) :
    (t.meet (.frame room connection bytes)).store = t.store.attempt room call data t.hub.winPoints := by
  have hmeet : (t.meet (.frame room connection bytes)).shared.storage =
      (t.hub.perform t.shared room (t.shared.userOf connection)
        { sent with room := some room, user := some (t.shared.userOf connection) }).1.storage := by
    rcases hperform : t.hub.perform t.shared room (t.shared.userOf connection)
      { sent with room := some room, user := some (t.shared.userOf connection) } with ⟨shared, f | ⟨⟩⟩
    · rw [meet_frame_error hdecode hperform, Shared.post_storage]
    · rw [meet_frame_ok hdecode hperform]
  refine (congrArg Storage.store hmeet).trans ?_
  cases call with
  | join user =>
    obtain ⟨hkind, rfl⟩ := hasks
    simp only [Hub.perform, Command.ofAction, hkind, Hub.execute]
    exact congrArg Storage.store (Hub.joinRoom_storage huntroubled t.hub room _ data)
  | move user move =>
    obtain ⟨hkind, hmove, rfl, rfl⟩ := hasks
    simp only [Hub.perform, Command.ofAction, hkind, hmove, Hub.execute]
    exact congrArg Storage.store (Hub.makeMove_storage huntroubled t.hub room _ move sent.payload)
  | forfeit | cancel => exact hasks.elim

/-- Without trouble what is granted is accepted. -/
theorem Grants.accepted (hsound : t.store.Sound) (huntroubled : t.shared.storage.trouble = .none)
    (h : t.Grants room (t.shared.userOf connection) bytes) {v : Verdict}
    (hruling : t.Ruling room connection bytes v (t.meet (.frame room connection bytes))) : v = .accepted := by
  obtain ⟨sent, hdecode, hchat | ⟨r, hloaded, hallows⟩⟩ := h
  · cases v with
    | accepted => rfl
    | refused =>
      obtain ⟨⟨sent', hdecode', hkind⟩, -⟩ := hruling.of_refused
      obtain rfl : sent = sent' := by simpa [hdecode] using hdecode'
      simp [hchat] at hkind
    | ignored => exact absurd (by simp [hchat]) (hruling.of_ignored hdecode)
  · obtain ⟨data, call, w, hasks, hwrite⟩ := (Room.allows_iff (hsound.of_room hloaded).2).mp hallows
    cases v with
    | accepted => rfl
    | refused =>
      have hchanged := hsound.attempt_ne hloaded hwrite hasks.askedBy t.hub.winPoints
      rw [← meet_asked huntroubled hdecode hasks] at hchanged
      exact absurd hruling.of_refused.2 hchanged
    | ignored =>
      refine absurd ?_ (hruling.of_ignored hdecode)
      rcases hasks.kind with hkind | hkind <;> simp [hkind]

/--
Whatever bytes come from a connection, they are accepted, refused or ignored, and only one of these. What is
refused or ignored leaves the hub, the store, the bus and all other connections alone; whose frame is refused is
sent one frame that tells why, and what is ignored does nothing at all. Only a chat or what the stored room allows
is accepted, and it always is as long as nothing is wrong with the access to the store.
-/
theorem frames_ruled (ht : t.Reachable) (room : RoomId) (connection : ConnectionId) (bytes : Bytes) :
    ∃ v next, t.meet (.frame room connection bytes) = next ∧
      (∀ v', t.Ruling room connection bytes v' next ↔ v' = v) ∧
      (v ≠ .accepted → t.SparesOthers next connection) ∧
      (v = .refused → ∃ f : Failure, next.shared.connection? connection =
        (t.shared.connection? connection).map fun c => (c.send (Action.error room f.clientMessage).text).1) ∧
      (v = .ignored → next = t) ∧
      (v = .accepted → t.Grants room (t.shared.userOf connection) bytes) ∧
      (t.shared.storage.trouble = .none →
        (v = .accepted ↔ t.Grants room (t.shared.userOf connection) bytes)) := by
  obtain ⟨v, hruling⟩ := t.exists_ruling room connection bytes
  have hgranted (hv : v = .accepted) : t.Grants room (t.shared.userOf connection) bytes :=
    (hv ▸ hruling).granted ht.sound
  refine ⟨v, _, rfl, fun v' => ⟨fun hruling' => hruling'.unique ht.sound hruling, fun hv => hv ▸ hruling⟩,
    hruling.sparesOthers, fun hv => (hv ▸ hruling).told, fun hv => ?_, hgranted,
    fun huntroubled => ⟨hgranted, fun h => h.accepted ht.sound huntroubled hruling⟩⟩
  subst hv
  generalize t.meet (.frame room connection bytes) = next at hruling
  cases hruling with
  | ignored => rfl

/-- Two users play, and it is the turn of the first one. -/
def playing : Site :=
  (opening 5 3 lobby "").run [.connect 1 8, .connect 2 8, .create 1 .ticTacToe, .register 1 1 0, .register 2 1 1,
    sends 1 .joinRoom .null]

/-- A move into the first cell. -/
def opener : Bytes :=
  encodeUtf8 (Action.inRoom .makeMove 1 (.object [("x", .nat 0), ("y", .nat 0)])).text

/-- The player whose turn it is may move, and the other one may not. -/
theorem opener_ruled :
    playing.Reachable ∧ playing.shared.storage.trouble = .none ∧
      playing.Ruling 1 0 opener .accepted (playing.meet (.frame 1 0 opener)) ∧
      playing.Ruling 1 1 opener .refused (playing.meet (.frame 1 1 opener)) := by
  have hplaying : playing.Reachable := (Reachable.start 5 3 lobby "").run _
  have huntroubled : playing.shared.storage.trouble = .none := by decide +kernel
  refine ⟨hplaying, huntroubled, ?_, ?_⟩
  · obtain ⟨v, next, rfl, hruled, hspares, -⟩ := frames_ruled hplaying 1 0 opener
    refine (hruled .accepted).mpr (Classical.byContradiction fun hv => ?_)
    have hmoves := congrArg (·.moves.length) (hspares (Ne.symm hv)).store
    exact absurd hmoves (by decide +kernel)
  · obtain ⟨v, next, rfl, hruled, -, -, hignored, hgranted, -⟩ := frames_ruled hplaying 1 1 opener
    refine (hruled .refused).mpr ?_
    cases v with
    | refused => rfl
    | ignored =>
      have hqueues := congrArg (fun t => (t.shared.connections.values.map (·.waiting.length))) (hignored rfl)
      exact absurd hqueues (by decide +kernel)
    | accepted =>
      obtain ⟨sent, hdecode, hkind | ⟨r, hroom, hallows⟩⟩ := hgranted rfl
      · have hmove : (Action.decode opener).toOption.map (·.kind) = some .makeMove := by decide +kernel
        simp [hdecode, Except.toOption, hkind] at hmove
      · have hturn : playing.store.shows 1 (fun r => r.status == .active && r.nextTurn == some 1) = true := by
          decide +kernel
        rw [Store.shows, hroom] at hturn
        have huser : playing.shared.userOf 1 = 2 := by decide +kernel
        rw [huser] at hallows
        rcases hallows with ⟨-, hpending, -⟩ | ⟨-, -, hnext, -⟩
        · simp [hpending] at hturn
        · simp [hnext] at hturn

end Site

end Parlor.Game
