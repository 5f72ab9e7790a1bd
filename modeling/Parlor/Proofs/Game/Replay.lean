import Parlor.Proofs.Game.HubStore

/-!
# Replaying a room

The log of a room tells the whole game. Its moves are numbered from one and made by the two players
in turn. When they are read from their data and made again in a fresh room that the same opponent has
joined, each succeeds, and the last leads to the room as it is stored, unless a player has stayed away:
such a game has ended for the other player on the board to which the moves lead.
-/

namespace Parlor.Game

/-! ## Logs -/

/-- The player who makes a move, counted from zero: the creator and the rival take turns. -/
def seat (creator rival : UserId) (turn : Nat) : UserId := if turn % 2 = 0 then creator else rival

/-- After the turn of a player it is the turn of the other one. -/
theorem seat_succ {creator rival user other : UserId} {turn : Nat} (hdistinct : rival ≠ creator)
    (huser : user = seat creator rival turn)
    (hother : user = creator ∧ other = rival ∨ user = rival ∧ other = creator) :
    other = seat creator rival (turn + 1) := by
  subst huser
  unfold seat at hother ⊢
  rcases Nat.mod_two_eq_zero_or_one turn with hturn | hturn
  · rw [if_neg (by omega)]
    simpa [hturn, hdistinct.symm] using hother
  · rw [if_pos (by omega)]
    simpa [hturn, hdistinct] using hother

/-- The moves of a log, with their players, read from their data. -/
def readLog (log : List MoveRecord) : Except Json.Fault (List (UserId × Move)) :=
  log.mapM fun record => (Move.ofText record.data).map fun move => (record.user, move)

/-- A record whose data is read as a move adds that move to a log. -/
theorem readLog_append {log : List MoveRecord} {moves : List (UserId × Move)} {record : MoveRecord} {move : Move}
    (hlog : readLog log = .ok moves) (hrecord : Move.ofText record.data = .ok move) :
    readLog (log ++ [record]) = .ok (moves ++ [(record.user, move)]) := by
  unfold readLog at hlog ⊢
  rw [List.mapM_append, hlog]
  simp [hrecord, Except.map, bind, Except.bind, pure, Except.pure]

namespace Room

/-- Makes moves one after the other, as long as they succeed. -/
def replay (r : Room) : List (UserId × Move) → Except Failure Room
  | [] => .ok r
  | (user, move) :: rest =>
    match r.applyMove user move with
    | (next, .ok _) => next.replay rest
    | (_, .error f) => .error f

/-- Moves are made after the moves before them. -/
theorem replay_append (r : Room) (first rest : List (UserId × Move)) :
    r.replay (first ++ rest) = (r.replay first).bind fun next => next.replay rest := by
  induction first generalizing r with
  | nil => rfl
  | cons entry first ih =>
    obtain ⟨user, move⟩ := entry
    rw [List.cons_append, replay, replay]
    rcases r.applyMove user move with ⟨next, f | outcome⟩
    · rfl
    · exact ih next

/-- A fresh room that a rival has joined. -/
def opened (r : Room) (rival : UserId) : Room := (newPending r.id r.creator r.gameType).joinedBy rival

/-- What a room may have become after its last move: nothing else, or won by a player who has stayed. -/
inductive Leaves (final : Room) : Room → Prop
  | same : final.Leaves final
  | forfeited {winner : UserId} (active : final.status = .active) (player : final.isParticipant winner = true) :
    final.Leaves (final.wonBy winner)

/-- A room that is active has become nothing else. -/
theorem Leaves.eq_of_active {final r : Room} (h : final.Leaves r) (hactive : r.status = .active) : r = final := by
  cases h with
  | same => rfl
  | forfeited => simp [wonBy] at hactive

/-- A log tells the game that the creator of a room has played with a rival. -/
structure LoggedAs (r : Room) (rival : UserId) (log : List MoveRecord) : Prop where
  numbers : log.map (·.number) = (List.range' 1 log.length).map Int.ofNat
  users : log.map (·.user) = (List.range log.length).map (seat r.creator rival)
  joins : (newPending r.id r.creator r.gameType).join rival = (r.opened rival, .ok ())
  replays : ∃ moves final, readLog log = .ok moves ∧ (r.opened rival).replay moves = .ok final ∧
    final.board = r.board ∧ final.Leaves r.untimed

/-- A log tells what there is to tell about a room: nothing before somebody has joined. -/
structure Logged (r : Room) (log : List MoveRecord) : Prop where
  vacant : r.opponent = none → log = []
  played : ∀ rival, r.opponent = some rival → r.LoggedAs rival log
  turn : ∀ rival, r.opponent = some rival → r.status = .active →
    r.nextTurn = some (seat r.creator rival log.length)

/-- What a log tells about a room does not depend on the times of the room. -/
theorem Logged.retime {r r' : Room} {log : List MoveRecord} (h : r.Logged log) (hsame : r'.untimed = r.untimed) :
    r'.Logged log := by
  rw [eq_of_untimed hsame]
  exact ⟨h.vacant, fun rival hrival => ⟨(h.played rival hrival).numbers, (h.played rival hrival).users,
    (h.played rival hrival).joins, (h.played rival hrival).replays⟩, h.turn⟩

/-- A fresh room that somebody else joins is opened. -/
theorem join_newPending (id : RoomId) (gameType : GameType) {creator rival : UserId} (h : creator ≠ rival) :
    (newPending id creator gameType).join rival = ((newPending id creator gameType).joinedBy rival, .ok ()) := by
  rcases (newPending id creator gameType).join_cases rival with ⟨-, -, hjoin⟩ | ⟨f, hjoin⟩
  · exact hjoin
  · simp [join, newPending, h, become, Status.canBecome] at hjoin

/-- The log of a room that is joined is empty, and so is the game. -/
theorem Logged.joinedBy {r : Room} {log : List MoveRecord} (h : r.Logged log) (hr : r.Lawful) {user : UserId}
    (hstatus : r.status = .pending) (hcreator : r.creator ≠ user) : (r.joinedBy user).Logged log := by
  obtain ⟨hopponent, hwinner, hdraw, hboard, -⟩ := hr.vacant hstatus
  obtain rfl := h.vacant hopponent
  have hopened : (r.joinedBy user).opened user = (r.joinedBy user).untimed := by
    simp [opened, Room.joinedBy, newPending, untimed, hwinner, hdraw, hboard]
  refine ⟨by simp [Room.joinedBy], fun rival hrival => ?_, fun rival hrival _ => rfl⟩
  obtain rfl : user = rival := by simpa [Room.joinedBy] using hrival
  refine ⟨rfl, rfl, join_newPending _ _ hcreator, [], _, rfl, rfl, by rw [hopened]; rfl, ?_⟩
  rw [hopened]
  exact .same

/-- A move is as legal without the times of the room. -/
theorem LegalMove.untimed {r : Room} {user other : UserId} {move : Move} {m : Marker} {c : Cell}
    (h : r.LegalMove user move m other c) : r.untimed.LegalMove user move m other c :=
  ⟨h.active, h.turn, h.marker, h.other, h.cell, h.free⟩

/-- A move does not look at the times of the room. -/
theorem untimed_afterMove (r : Room) (user other : UserId) (c : Cell) (m : Marker) :
    (r.untimed.afterMove user other c m).1 = (r.afterMove user other c m).1.untimed := by
  unfold afterMove
  dsimp only [untimed]
  split <;> rfl

/-- As long as the game goes on after a move, it is the turn of the other player. -/
theorem afterMove_turn {r : Room} {user other : UserId} {c : Cell} {m : Marker}
    (hactive : (r.afterMove user other c m).1.status = .active) :
    (r.afterMove user other c m).1.nextTurn = some other := by
  unfold afterMove at hactive ⊢
  dsimp only at hactive ⊢
  split <;> simp_all

/-- A legal move, recorded under the next number, continues the log. -/
theorem Logged.afterMove {r : Room} {log : List MoveRecord} (h : r.Logged log) (hr : r.Lawful)
    {user other : UserId} {move : Move} {m : Marker} {c : Cell} (hlegal : r.LegalMove user move m other c)
    {record : MoveRecord} (huser : record.user = user) (hdata : Move.ofText record.data = .ok move)
    (hnumber : record.number = log.length + 1) :
    (r.afterMove user other c m).1.Logged (log ++ [record]) := by
  obtain ⟨rival, hplay⟩ := hr.inPlay hlegal.active
  obtain ⟨hid, hgame, hcreator, hopponent, -, -⟩ := r.afterMove_frame user other c m
  obtain ⟨hnumbers, husers, hjoins, moves, final, hread, hreplay, -, hleaves⟩ := h.played rival hplay.opponent
  obtain rfl : r.untimed = final := hleaves.eq_of_active hlegal.active
  have hmover : user = seat r.creator rival log.length := by
    simpa [hlegal.turn] using h.turn rival hplay.opponent hlegal.active
  have hopened : (r.afterMove user other c m).1.opened rival = r.opened rival := by
    simp only [opened, hid, hgame, hcreator]
  refine ⟨by simp [hopponent, hplay.opponent], fun rival' hrival' => ?_, fun rival' hrival' hactive => ?_⟩
  · obtain rfl : rival = rival' := by simpa [hopponent, hplay.opponent] using hrival'
    refine ⟨?_, ?_, by rw [hopened, hid, hgame, hcreator, hjoins], moves ++ [(record.user, move)],
      (r.afterMove user other c m).1.untimed, readLog_append hread hdata, ?_, rfl, .same⟩
    · rw [List.map_append, hnumbers, List.length_append, List.length_singleton, List.range'_1_concat,
        List.map_append, List.map_singleton, List.map_singleton, hnumber, Nat.add_comm]
      rfl
    · rw [List.map_append, husers, List.length_append, List.length_singleton, List.range_succ, List.map_append,
        List.map_singleton, List.map_singleton, huser, hcreator, hmover]
    · rw [hopened, replay_append, hreplay, huser]
      simp only [Except.bind, replay, hlegal.untimed.applyMove, untimed_afterMove]
  · obtain rfl : rival = rival' := by simpa [hopponent, hplay.opponent] using hrival'
    rw [afterMove_turn hactive, hcreator, List.length_append, List.length_singleton]
    refine congrArg some (seat_succ hplay.distinct hmover ?_)
    rcases hlegal.players hplay with ⟨huser, -, hother, -⟩ | ⟨huser, -, hother, -⟩
    · exact .inl ⟨huser, hother⟩
    · exact .inr ⟨huser, hother⟩

/-- The other player of somebody is a player. -/
theorem isParticipant_of_opponentOf? {r : Room} {user other : UserId} (h : r.opponentOf? user = some other) :
    r.isParticipant other = true := by
  cases hopponent : r.opponent with
  | none => simp [opponentOf?, hopponent] at h
  | some rival =>
    rcases (opponentOf?_eq_some_iff hopponent).mp h with ⟨-, rfl⟩ | ⟨-, -, rfl⟩
    · simp [isParticipant, hopponent]
    · simp [isParticipant]

/-- A forfeit leaves the log as it is. -/
theorem Logged.wonBy {r : Room} {log : List MoveRecord} (h : r.Logged log) {absent winner : UserId}
    (hstatus : r.status = .active) (hother : r.opponentOf? absent = some winner) :
    (r.wonBy winner).Logged log := by
  refine ⟨h.vacant, fun rival hrival => ?_, fun rival _ hactive => ?_⟩
  · obtain ⟨hnumbers, husers, hjoins, moves, final, hread, hreplay, hboard, hleaves⟩ := h.played rival hrival
    obtain rfl : r.untimed = final := hleaves.eq_of_active hstatus
    have hplayer : r.untimed.isParticipant winner = true := isParticipant_of_opponentOf? hother
    exact ⟨hnumbers, husers, hjoins, moves, r.untimed, hread, hreplay, hboard, .forfeited hstatus hplayer⟩
  · simp [Room.wonBy] at hactive

/-- The log of a room that is given up is empty. -/
theorem Logged.cancelled {r : Room} {log : List MoveRecord} (h : r.Logged log) (hr : r.Lawful)
    (hstatus : r.status = .pending) : ({ r with status := .cancelled } : Room).Logged log := by
  have hopponent := (hr.vacant hstatus).opponent
  exact ⟨h.vacant, by simp [hopponent], by simp [hopponent]⟩

/-- Nothing is logged about a room before somebody has joined. -/
theorem logged_newPending (id : RoomId) (creator : UserId) (gameType : GameType) :
    (newPending id creator gameType).Logged [] :=
  ⟨fun _ => rfl, by simp [newPending], by simp [newPending]⟩

end Room

/-! ## The logs of a store -/

namespace Store

/-- The log of a room as it was appended. -/
def logOf (s : Store) (id : RoomId) : List MoveRecord := (s.moveRows id).map StoredMove.load

/-- The numbers of a log are the numbers of its rows. -/
theorem numbers_logOf (s : Store) (id : RoomId) :
    (s.logOf id).map (·.number) = (s.moveRows id).map (·.number) := by
  rw [logOf, List.map_map]
  rfl

/-- A write continues the log of its room and no other. -/
theorem logOf_landed (s : Store) (winPoints : Int64) (w : Write) (id : RoomId) :
    (w.landed s winPoints).logOf id =
      s.logOf id ++ (if id = w.room.id then w.entries s else []).map StoredMove.load := by
  rw [logOf, Write.moveRows_landed, List.map_append]
  rfl

/-- The numbers of a log say which number comes next. -/
theorem nextMoveNumber_eq {s : Store} {id : RoomId}
    (h : (s.logOf id).map (·.number) = (List.range' 1 (s.logOf id).length).map Int.ofNat) :
    s.nextMoveNumber id = (s.logOf id).length + 1 := by
  have hmax (n : Nat) : ((List.range' 1 n).map Int.ofNat).max?.getD 0 = n := by
    cases n with
    | zero => rfl
    | succ n =>
      have hlargest : ((List.range' 1 (n + 1)).map Int.ofNat).max? = some (Int.ofNat (n + 1)) := by
        refine List.max?_eq_some_iff.mpr
          ⟨List.mem_map_of_mem (List.mem_range'_1.mpr (by omega)), fun number hnumber => ?_⟩
        obtain ⟨k, hk, rfl⟩ := List.mem_map.mp hnumber
        exact Int.ofNat_le.mpr (Nat.lt_succ_iff.mp (Nat.lt_of_lt_of_eq (List.mem_range'_1.mp hk).2 (Nat.add_comm ..)))
      rw [hlargest, Option.getD_some]
      rfl
  rw [nextMoveNumber, ← numbers_logOf, h, hmax]

/-- A log whose numbers count from one is in the order of its moves. -/
theorem movesOf_eq {s : Store} {id : RoomId}
    (h : (s.logOf id).map (·.number) = (List.range' 1 (s.logOf id).length).map Int.ofNat) :
    s.movesOf id = s.logOf id := by
  have hsorted : ((s.moveRows id).map (·.number)).Pairwise (· ≤ ·) := by
    rw [← numbers_logOf, h]
    exact List.pairwise_le_range'.map Int.ofNat fun _ _ => Int.ofNat_le.mpr
  rw [movesOf, logOf, List.mergeSort_of_pairwise]
  exact (List.pairwise_map.mp hsorted).imp fun hle => by simpa using hle

end Store

/-- The write of a call continues the log of the room that was loaded for it. -/
theorem Room.Leads.logged {r : Room} {data : String} {call : Call} {w : Write} (h : r.Leads data call w)
    (hr : r.Lawful) (htold : call.ToldBy data) {s : Store} (hlog : r.Logged (s.logOf r.id)) :
    w.room.Logged (s.logOf r.id ++ (w.entries s).map StoredMove.load) := by
  cases h with
  | join hstatus hcreator =>
    rw [Write.entries, List.map_nil, List.append_nil]
    exact hlog.joinedBy hr hstatus hcreator
  | move hlegal =>
    obtain ⟨rival, hplay⟩ := hr.inPlay hlegal.active
    have hnumber := Store.nextMoveNumber_eq (hlog.played rival hplay.opponent).numbers
    refine hlog.afterMove hr hlegal ?_ htold ?_
    · simp [StoredMove.load]
    · rw [StoredMove.load, (r.afterMove_frame _ _ _ _).1, hnumber]
  | forfeit hstatus hother =>
    rw [Write.entries, List.map_nil, List.append_nil]
    exact hlog.wonBy hstatus hother
  | cancel hstatus =>
    rw [Write.entries, List.map_nil, List.append_nil]
    exact hlog.cancelled hr hstatus

namespace Store

/-- Every row holds a lawful room, and the log tells what there is to tell about it. -/
structure Logged (s : Store) : Prop where
  sound : (Traffic.mk s []).Sound
  empty : ∀ id, s.row? id = none → s.logOf id = []
  rooms : ∀ id r, s.Keeps id r → r.Logged (s.logOf id)

/-- An attempt at a room keeps the logs true to the rooms. -/
theorem Logged.attempted {s s' : Store} (h : s.Logged) {id : RoomId} {call : Call} {data : String}
    {winPoints : Int64} (htold : call.ToldBy data) (hattempt : s.Attempted id call data winPoints s') :
    s'.Logged := by
  cases hattempt with
  | idle => exact h
  | @landed r w hloaded hwrite =>
    -- the load and the write as two steps of a traffic that has nothing else on its way
    let f : Flight := ⟨r, call, data, winPoints, w, hwrite⟩
    have hsent : (Traffic.mk s []).step (.load id call data winPoints) = ⟨s, [f]⟩ :=
      Traffic.step_load hloaded hwrite winPoints
    have hsound : (Traffic.mk s [f]).Sound := hsent ▸ h.sound.step (.load id call data winPoints)
    have hlanded : (Traffic.mk (w.land s winPoints).1 []).Sound := hsound.step (.land 0)
    rcases w.land_cases s winPoints with ⟨row, hrow, hadmits, hland⟩ | hland
    · rw [hland] at hlanded ⊢
      have hkeeps := h.sound.keeps_of_room hloaded
      obtain ⟨hid, hleads, hlawful, -⟩ := hsound.flight (f := f) List.mem_cons_self hrow
      refine ⟨hlanded, fun other hother => ?_, fun other r' hr' => ?_⟩
      · rw [Write.row?_landed, Option.map_eq_none_iff] at hother
        have hne : other ≠ w.room.id := fun heq => by simp [heq ▸ hother] at hrow
        rw [logOf_landed, if_neg hne, h.empty other hother]
        rfl
      · have hstored := (hsound.landed (f := f) List.mem_cons_self hrow hadmits other r').mp hr'
        rw [logOf_landed]
        split at hstored
        case isTrue hsame =>
          have hbefore : r.Logged (s.logOf r.id) := h.rooms r.id r (hkeeps.id ▸ hkeeps)
          have hafter : w.room.Logged (s.logOf r.id ++ (w.entries s).map StoredMove.load) :=
            hleads.logged hlawful htold hbefore
          rw [if_pos hsame, hsame, show w.room.id = r.id from hid]
          exact hafter.retime hstored
        case isFalse hother =>
          rw [if_neg hother, List.map_nil, List.append_nil]
          exact h.rooms other r' hstored
    · rw [hland]
      exact h

/-- A created room has an empty log, and the other logs stay as they are. -/
theorem Logged.createRoom {s : Store} (h : s.Logged) (creator : UserId) (gameType : GameType) :
    (s.createRoom creator gameType).1.Logged := by
  have hsound : (Traffic.mk (s.createRoom creator gameType).1 []).Sound := h.sound.step (.create creator gameType)
  rcases s.createRoom_cases creator gameType with ⟨hfits, row, hrow, hstore⟩ | hstore
  · rw [hstore] at hsound ⊢
    have hfound := row?_append h.sound.numbered hfits hrow.id
    refine ⟨hsound, fun id hid => ?_, fun id r hr => ?_⟩
    · rw [hfound] at hid
      split at hid
      · contradiction
      · exact h.empty id hid
    · have hstored := (h.sound.keeps_created hfits hrow id r).mp hr
      split at hstored
      case isTrue hnext =>
        have hempty : s.logOf id = [] := h.empty id (hnext ▸ h.sound.numbered.row?_nextId hfits)
        change r.Logged (s.logOf id)
        rw [hempty]
        exact (Room.logged_newPending _ _ _).retime hstored
      case isFalse => exact h.rooms id r hstored
  · rw [hstore]
    exact h

/-- Whatever happens keeps the logs true to the rooms. -/
theorem Logged.served {s s' : Store} (h : s.Logged) (hserved : s.Served s') : s'.Logged := by
  cases hserved with
  | ticked clock => exact ⟨h.sound.step (.tick clock), h.empty, h.rooms⟩
  | created creator gameType => exact h.createRoom creator gameType
  | attempted htold hattempt => exact h.attempted htold hattempt

/-- The logs of an empty store are true to its rooms. -/
theorem logged_empty (clock : String) : Store.Logged { clock } :=
  ⟨Traffic.sound_start clock, fun _ _ => rfl, fun _ _ ⟨_, hrow, _⟩ => by simp [row?] at hrow⟩

end Store

/-! ## From an empty store -/

namespace Site

/-- The logs are true to the rooms after anything that has happened. -/
theorem logged_run {t : Site} (h : t.store.Logged) (happenings : List Happening) :
    (t.run happenings).store.Logged := by
  induction happenings generalizing t with
  | nil => exact h
  | cons e happenings ih => exact ih (h.served (t.meet_served e))

/-- A hub with an empty store, whatever else it is like. -/
def fresh (hub : Hub) (shared : Shared) (clock : String) : Site where
  hub := hub
  shared := { shared with storage := { shared.storage with store := { clock } } }

/-- Whatever has happened to a hub, the log of every stored room with an opponent replays to the room. -/
theorem moves_replay (hub : Hub) (shared : Shared) (clock : String) (happenings : List Happening)
    {row : StoredRoom} {rival : Int64} (hrow : row ∈ ((fresh hub shared clock).run happenings).store.rooms)
    (hrival : row.opponent = some rival) :
    ∃ r : Room, ((fresh hub shared clock).run happenings).store.room row.id.toUInt64 = .ok (some r) ∧
      r.id = row.id.toUInt64 ∧ r.opponent = some rival.toUInt64 ∧
      r.LoggedAs rival.toUInt64 (((fresh hub shared clock).run happenings).store.movesOf r.id) := by
  have hlogged := logged_run (t := fresh hub shared clock) (Store.logged_empty clock) happenings
  generalize ((fresh hub shared clock).run happenings).store = s at hrow hlogged ⊢
  have hfound := hlogged.sound.numbered.row?_of_mem hrow
  obtain ⟨r, hr, -⟩ := hlogged.sound.rooms _ _ hfound
  have hkeeps : s.Keeps row.id.toUInt64 r := ⟨row, hfound, hr⟩
  obtain ⟨r', hroom, hsame⟩ := hkeeps.room
  have hkeeps' := hkeeps.of_room hroom
  have hopponent : r'.opponent = some rival.toUInt64 := by
    have hread := StoredRoom.map_toUInt64 r'.opponent
    rw [← (hr.retime hsame).opponent, hrival] at hread
    exact hread.symm
  have hplayed := (hlogged.rooms _ _ hkeeps').played _ hopponent
  refine ⟨r', hroom, hkeeps'.id, hopponent, ?_⟩
  rwa [hkeeps'.id, Store.movesOf_eq hplayed.numbers]

/-- A frame that a connection sends into the first room. -/
def sends (connection : ConnectionId) (kind : ActionKind) (payload : Json.Value) : Happening :=
  .frame 1 connection (Json.encodeUtf8 (Action.inRoom kind 1 payload).text)

/-- Two players, of whom the second leaves after a move of each and stays away. -/
def leftGame : List Happening :=
  [.connect 1 8, .connect 2 8, .create 1 .ticTacToe, .register 1 1 0, .register 2 1 1, sends 1 .joinRoom .null,
   sends 0 .makeMove (.object [("note", .array [.null]), ("x", .int 0), ("y", .int 2)]),
   sends 0 .makeMove (Move.toJson { x := 2, y := 2 }), sends 1 .makeMove (.array [.int 1, .int 1]),
   .leave 1 1, .forfeit 1 2]

/-- A hub at which nothing has happened. -/
def quiet : Site :=
  fresh { grace := 0, winPoints := 3 }
    { timestamp := "", patience := 0, bus := .new 1, storage := { store := { clock := "" } } } ""

/-- The log of a forfeited game, in which a move out of turn has left nothing, replays to its room. -/
theorem leftGame_replays :
    ∃ row rival, row ∈ (quiet.run leftGame).store.rooms ∧ row.opponent = some rival ∧
      row.status = .finished ∧ row.winner = some 1 ∧
      (quiet.run leftGame).store.moves.map (fun m => (m.number, m.user)) = [(1, 1), (2, 2)] ∧
      ∃ r : Room, (quiet.run leftGame).store.room row.id.toUInt64 = .ok (some r) ∧
        r.id = row.id.toUInt64 ∧ r.opponent = some rival.toUInt64 ∧
        r.LoggedAs rival.toUInt64 ((quiet.run leftGame).store.movesOf r.id) := by
  have hmoves : (quiet.run leftGame).store.moves.map (fun m => (m.number, m.user)) = [(1, 1), (2, 2)] := by
    decide +kernel
  have hrooms : ∃ row ∈ (quiet.run leftGame).store.rooms,
      row.opponent = some 2 ∧ row.status = .finished ∧ row.winner = some 1 := by decide +kernel
  obtain ⟨row, hrow, hrival, hstatus, hwinner⟩ := hrooms
  exact ⟨row, 2, hrow, hrival, hstatus, hwinner, hmoves, moves_replay _ _ _ _ hrow hrival⟩

end Site

end Parlor.Game
