import Parlor.Proofs.Game.Scores

/-!
# Conditional writes

The store has three writes that name what they expect to find: a room is overwritten, a move is stored
together with the room that it leads to, and a game is concluded. Each of them is done as a whole or
not at all, whatever the store holds and whatever is passed. A write that is done touches the row of
its room, appends at most one move, and counts at most one result for its two players.

The store keeps numbers as signed words. So a write needs room for what it adds: a next number for its
move, and counters of its players that can still be raised. What it leaves are signed words again.

A row whose kind of game is unknown can be written over, but neither before nor after can it be read.
-/

namespace Parlor.Game

/-! ## What a write leaves -/

/-- The row of a move in a log. -/
def MoveRecord.row (m : MoveRecord) : StoredMove where
  id := m.id
  room := m.room.toInt64
  user := m.user.toInt64
  data := m.data
  number := m.number
  createdAt := m.createdAt

/-- A row is the row of the move that is read of it. -/
theorem StoredMove.row_load (row : StoredMove) : row.load.row = row := by
  simp [StoredMove.load, MoveRecord.row]

/-- A row after a room was written over it, with the opponent that the write leaves. -/
def StoredRoom.rewritten (row : StoredRoom) (room : Room) (opponent : Option Int64) (clock : String) : StoredRoom :=
  { row with
    status := room.status, opponent, winner := room.winner.map UInt64.toInt64, isDraw := room.isDraw
    state := room.board.text, nextTurn := room.nextTurn.map UInt64.toInt64, updatedAt := clock }

/-- A row waits for the move of a player. -/
def StoredRoom.Awaits (row : StoredRoom) (user : UserId) : Prop :=
  row.status = .active ∧ row.nextTurn.map Int64.toUInt64 = some user

/-- An optional word is an identifier exactly if it is kept as one. -/
theorem StoredRoom.map_toUInt64_eq_some {word : Option Int64} {id : UInt64} :
    word.map Int64.toUInt64 = some id ↔ word = some id.toInt64 := by
  cases word with
  | none => simp
  | some word =>
    rw [Option.map_some, Option.some.injEq, Option.some.injEq]
    exact ⟨fun h => h ▸ (Int64.toInt64_toUInt64 word).symm, fun h => h ▸ UInt64.toUInt64_toInt64 id⟩

/-- Overwriting a row leaves its opponent. -/
theorem StoredRoom.rewritten_own (row : StoredRoom) (room : Room) (clock : String) :
    row.rewritten room ((row.opponent.map Int64.toUInt64).map UInt64.toInt64) clock = row.overwrite room clock := by
  cases hopponent : row.opponent <;> simp [rewritten, overwrite, hopponent]

/-- The room that is read of a row after another room was written over it: the identifier, the kind of game, the
creator and the time of creation are those of the row, and the rest is what was passed. -/
def StoredRoom.reread (row : StoredRoom) (gameType : GameType) (room : Room) (opponent : Option UserId)
    (clock : String) : Room where
  id := row.id.toUInt64
  gameType := gameType
  status := room.status
  creator := row.creator.toUInt64
  opponent := opponent
  winner := room.winner
  isDraw := room.isDraw
  board := room.board
  nextTurn := room.nextTurn
  createdAt := some row.createdAt
  updatedAt := some clock

/-- A row that was written over is read as what was passed. -/
theorem StoredRoom.load_rewritten {row : StoredRoom} {gameType : GameType}
    (hgame : GameType.ofName? row.gameType = some gameType) (room : Room) (opponent : Option UserId)
    (clock : String) :
    (row.rewritten room (opponent.map UInt64.toInt64) clock).load = .ok (row.reread gameType room opponent clock) := by
  simp only [StoredRoom.load, StoredRoom.rewritten, StoredRoom.reread, hgame, Board.ofText_text, map_toUInt64]

/-- A row whose kind of game is unknown cannot be read. -/
theorem StoredRoom.load_unknown {row : StoredRoom} (hgame : GameType.ofName? row.gameType = none) :
    row.load = .error (.told (Failure.unsupportedMessage row.gameType)) := by
  rw [StoredRoom.load, hgame]

/-! ## What a store can hold -/

/-- A sum of points that is kept as a whole number fits a signed word. -/
def Points.Fits : Points → Prop
  | .whole n => Word.isSigned n = true
  | .real _ => True

/-- What was counted fits signed words. -/
structure Score.Fits (s : Score) : Prop where
  wins : Word.isSigned s.wins = true
  losses : Word.isSigned s.losses = true
  draws : Word.isSigned s.draws = true
  games : Word.isSigned s.games = true

/-- Points that fit a signed word still do when others are added, or are kept as a real number. -/
theorem Points.Fits.add {p : Points} (h : p.Fits) (delta : Int64) : (p.add delta).Fits := by
  have hreal (n : Int) : (ofReal n).Fits := by
    unfold ofReal
    split
    case isTrue hin => exact decide_eq_true ⟨Int.le_of_lt hin.1, hin.2⟩
    case isFalse => trivial
  cases p with
  | whole n =>
    simp only [Points.add]
    split
    case isTrue hsum => exact hsum
    case isFalse => exact hreal _
  | real n => exact hreal _

/-- Counting a result keeps points that can be kept. -/
theorem Finish.counted_points (winPoints : Int64) (user : UserId) (finish : Finish) {s : Score} (h : s.points.Fits) :
    (finish.counted winPoints user s).points.Fits := by
  cases finish with
  | win winner loser =>
    simp only [counted]
    split <;> split
    · exact (h.add winPoints).add 0
    · exact h.add 0
    · exact h.add winPoints
    · exact h
  | draw first second =>
    simp only [counted]
    split <;> split
    · exact (h.add 0).add 0
    · exact h.add 0
    · exact h.add 0
    · exact h

namespace Store

/-- Every number in a store is one that it can keep. -/
structure Fits (s : Store) : Prop where
  moves : ∀ row ∈ s.moves, Word.isSigned row.id = true ∧ Word.isSigned row.number = true
  scores : ∀ key score, s.scores.get? key = some score → score.Fits ∧ score.points.Fits

/-- The store can number one move more in a room. -/
def HasNext (s : Store) (id : RoomId) : Prop :=
  Word.isSigned s.nextMoveId = true ∧ Word.isSigned (s.nextMoveNumber id) = true

/-- The store can count a result for its players. -/
def CanCount (s : Store) (gameType : GameType) (finish : Finish) (winPoints : Int64) : Prop :=
  ∀ user ∈ finish.players, (finish.counted winPoints user (s.scoreOf user gameType)).Fits

/-- The row of a room is there and satisfies a guard. -/
def Meets (s : Store) (room : Room) (guard : StoredRoom → Prop) : Prop :=
  ∃ row, s.row? room.id = some row ∧ guard row

end Store

/-! ## What a write does -/

namespace Store

/-- A move is the next one in the log of a room: its number is one more than the largest one, or one. -/
structure NextMove (s : Store) (id : RoomId) (user : UserId) (data : String) (record : MoveRecord) : Prop where
  room : record.room = id
  user : record.user = user
  data : record.data = data
  createdAt : record.createdAt = s.clock
  /-- Its identifier is new, in whatever room. -/
  fresh : ∀ row ∈ s.moves, row.id < record.id
  above : ∀ m ∈ s.movesOf id, m.number < record.number
  first : s.movesOf id = [] → record.number = 1
  next : s.movesOf id ≠ [] → ∃ m ∈ s.movesOf id, record.number = m.number + 1

/-- A conditional write of a room, to which the store has answered. It was accepted exactly if the stored row is
there and satisfies the guard. Otherwise nothing at all has changed; and when it was accepted, the row of the room
was written over, the moves were appended and the result was counted, and that is all. -/
structure WritesWhole (s : Store) (room : Room) (guard : StoredRoom → Prop) (opponent : StoredRoom → Option UserId)
    (moves : List MoveRecord) (result : Option Finish) (winPoints : Int64) (s' : Store) (accepted : Bool) : Prop where
  accepted_iff : accepted = true ↔ s.Meets room guard
  refused : accepted = false → s' = s
  /-- The rows stay where they are, and only the one of the room is written over. -/
  rooms : accepted = true → s'.rooms = s.rooms.map fun row =>
    if row.id = room.id.toInt64 then row.rewritten room ((opponent row).map UInt64.toInt64) s.clock else row
  /-- A following load reads what was passed if the kind of game of the row is known. -/
  reads : accepted = true → ∀ row gameType, s.row? room.id = some row →
    GameType.ofName? row.gameType = some gameType →
      s'.room room.id = .ok (some (row.reread gameType room (opponent row) s.clock))
  /-- It fails as before if the kind of game is unknown. -/
  unread : accepted = true → ∀ row, s.row? room.id = some row → GameType.ofName? row.gameType = none →
    s.room room.id = .error (.told (Failure.unsupportedMessage row.gameType)) ∧ s'.room room.id = s.room room.id
  others : ∀ id, id ≠ room.id → s'.room id = s.room id ∧ s'.movesOf id = s.movesOf id
  moves : accepted = true → s'.moves = s.moves ++ moves.map MoveRecord.row
  scores : accepted = true → ∀ key, s'.scores.get? key =
    match result.filter fun finish => key.2 = room.gameType.name ∧ key.1.toUInt64 ∈ finish.players with
    | none => s.scores.get? key
    | some finish => some (finish.counted winPoints key.1.toUInt64 ((s.scores.get? key).getD {}))
  clock : s'.clock = s.clock
  /-- What the store holds are still numbers that it can keep. -/
  fits : s'.Fits

/-! ## A write that is refused, and one that is done -/

/-- Counting a result changes the scores of its players of that kind of game, and no others. -/
theorem get?_countIn (scores : Table (Int64 × String) Score) (g : GameType) (finish : Finish) (winPoints : Int64)
    (key : Int64 × String) :
    (countIn scores g finish winPoints).get? key =
      if key.2 = g.name ∧ key.1.toUInt64 ∈ finish.players then
        some (finish.counted winPoints key.1.toUInt64 ((scores.get? key).getD {}))
      else scores.get? key := by
  by_cases hname : key.2 = g.name
  · have hkey : key = scoreKey key.1.toUInt64 g := Prod.ext (Int64.toInt64_toUInt64 key.1).symm hname
    generalize key.1.toUInt64 = user at hkey ⊢
    subst hkey
    rw [get?_countIn_scoreKey]
    simp only [scoreKey, true_and, scoreIn]
  · have hne : ∀ user, scoreKey user g ≠ key := fun user hkey => hname (congrArg Prod.snd hkey).symm
    rw [if_neg fun h => hname h.1]
    cases finish with
    | win winner loser => exact (Table.get?_insert ..).trans ((if_neg (hne loser)).trans
        ((Table.get?_insert ..).trans (if_neg (hne winner))))
    | draw first second => exact (Table.get?_insert ..).trans ((if_neg (hne second)).trans
        ((Table.get?_insert ..).trans (if_neg (hne first))))

section

variable {s s' : Store} {room : Room} {guard : StoredRoom → Prop} {opponent : StoredRoom → Option UserId}
  {moves : List MoveRecord} {result : Option Finish} {winPoints : Int64}

/-- A room is read of its row. -/
theorem room_of_row? {s : Store} {id : RoomId} {row : StoredRoom} (hrow : s.row? id = some row) :
    s.room id = some <$> row.load := by
  rw [Store.room, hrow]

/-- A refused write changes nothing. -/
theorem writesWhole_refused (hs : s.Fits) (hguard : ¬ s.Meets room guard) :
    s.WritesWhole room guard opponent moves result winPoints s false where
  accepted_iff := ⟨fun h => (Bool.false_ne_true h).elim, fun h => (hguard h).elim⟩
  refused _ := rfl
  rooms h := (Bool.false_ne_true h).elim
  reads h := (Bool.false_ne_true h).elim
  unread h := (Bool.false_ne_true h).elim
  others _ _ := ⟨rfl, rfl⟩
  moves h := (Bool.false_ne_true h).elim
  scores h := (Bool.false_ne_true h).elim
  clock := rfl
  fits := hs

/-- A store can keep what a write leaves that had room for it. -/
theorem Fits.written (hs : s.Fits) (moves : List MoveRecord) (result : Option Finish)
    (hmoves : s'.moves = s.moves ++ moves.map MoveRecord.row)
    (hscores : s'.scores = result.elim s.scores fun finish => countIn s.scores room.gameType finish winPoints)
    (hnext : ∀ m ∈ moves, Word.isSigned m.id = true ∧ Word.isSigned m.number = true)
    (hcount : ∀ finish ∈ result, s.CanCount room.gameType finish winPoints) : s'.Fits := by
  refine ⟨fun row hrow => ?_, fun key score hscore => ?_⟩
  · rw [hmoves, List.mem_append] at hrow
    rcases hrow with hrow | hrow
    · exact hs.moves row hrow
    · obtain ⟨m, hm, rfl⟩ := List.mem_map.mp hrow
      exact hnext m hm
  · rw [hscores] at hscore
    cases result with
    | none => exact hs.scores key score hscore
    | some finish =>
      rw [Option.elim_some, get?_countIn] at hscore
      split at hscore
      case isTrue hplayer =>
        have hkey : key = scoreKey key.1.toUInt64 room.gameType :=
          Prod.ext (Int64.toInt64_toUInt64 key.1).symm hplayer.1
        have hbefore : ((s.scores.get? key).getD {}).points.Fits := by
          cases hget : s.scores.get? key with
          | none => exact (by decide : Word.isSigned 0 = true)
          | some before => exact (hs.scores key before hget).2
        have hcounters := hcount finish rfl key.1.toUInt64 hplayer.2
        rw [scoreOf, scoreIn, ← hkey] at hcounters
        obtain rfl := Option.some.inj hscore
        exact ⟨hcounters, finish.counted_points winPoints key.1.toUInt64 hbefore⟩
      case isFalse => exact hs.scores key score hscore

/-- A write that is done leaves a store that differs in the row of the room, the moves and the counted result. -/
theorem writesWhole_done (hfits : s'.Fits) {row : StoredRoom} (hrow : s.row? room.id = some row) (hguard : guard row)
    (hclock : s'.clock = s.clock)
    (hrooms : s'.rooms = s.rewrite room.id fun row => row.rewritten room ((opponent row).map UInt64.toInt64) s.clock)
    (hmoves : s'.moves = s.moves ++ moves.map MoveRecord.row) (hroom : ∀ m ∈ moves, m.room = room.id)
    (hscores : s'.scores =
      result.elim s.scores fun finish => countIn s.scores room.gameType finish winPoints) :
    s.WritesWhole room guard opponent moves result winPoints s' true := by
  have hrow? : ∀ id, s'.row? id = (s.row? id).map fun row =>
      if id = room.id then row.rewritten room ((opponent row).map UInt64.toInt64) s.clock else row := by
    intro id
    rw [row?, hrooms]
    exact s.find?_rewrite room.id id fun _ => rfl
  have hover : ∀ {row}, s.row? room.id = some row →
      s'.row? room.id = some (row.rewritten room ((opponent row).map UInt64.toInt64) s.clock) := by
    intro row hrow
    rw [hrow?, hrow, Option.map_some, if_pos rfl]
  refine
    { accepted_iff := ⟨fun _ => ⟨row, hrow, hguard⟩, fun _ => rfl⟩, refused := by simp, rooms := fun _ => hrooms,
      reads := fun _ row gameType hrow hgame => ?_, unread := fun _ row hrow hgame => ⟨?_, ?_⟩,
      others := fun id hid => ⟨?_, ?_⟩, moves := fun _ => hmoves, scores := fun _ key => ?_, clock := hclock,
      fits := hfits }
  case refine_1 =>
    rw [room_of_row? (hover hrow), StoredRoom.load_rewritten hgame]
    rfl
  case refine_2 =>
    rw [room_of_row? hrow, StoredRoom.load_unknown hgame]
    rfl
  case refine_3 =>
    rw [room_of_row? (hover hrow), room_of_row? hrow, StoredRoom.load_unknown hgame]
    exact congrArg _ (StoredRoom.load_unknown hgame)
  case refine_4 =>
    rw [Store.room, hrow?, Store.room]
    simp [hid]
  case refine_5 =>
    have hothers : ∀ m ∈ moves.map MoveRecord.row, ¬ (m.room == id.toInt64) = true := by
      intro m hm hsame
      obtain ⟨record, hrecord, rfl⟩ := List.mem_map.mp hm
      exact hid (toInt64_injective ((eq_of_beq hsame).symm.trans (congrArg UInt64.toInt64 (hroom record hrecord))))
    rw [movesOf, movesOf, moveRows, hmoves, List.filter_append, List.filter_eq_nil_iff.mpr hothers, List.append_nil,
      moveRows]
  case refine_6 =>
    rw [hscores]
    cases result with
    | none => rfl
    | some finish =>
      rw [Option.elim_some, get?_countIn]
      by_cases hplayer : key.2 = room.gameType.name ∧ key.1.toUInt64 ∈ finish.players
      · rw [if_pos hplayer, Option.filter_some, if_pos (decide_eq_true hplayer)]
      · rw [if_neg hplayer, Option.filter_some, if_neg (by simpa using hplayer)]

end

/-- The log of a room consists of the rows of its moves. -/
theorem mem_movesOf {s : Store} {id : RoomId} {m : MoveRecord} :
    m ∈ s.movesOf id ↔ ∃ row ∈ s.moveRows id, row.load = m := by
  rw [movesOf, List.mem_map]
  exact exists_congr fun row => and_congr_left' List.mem_mergeSort

/-- No number is above the largest one. -/
theorem le_largest {numbers : List Int} {n : Int} (h : n ∈ numbers) (otherwise : Int) :
    n ≤ numbers.max?.getD otherwise := by
  cases hmax : numbers.max? with
  | none => exact absurd (List.max?_eq_none_iff.mp hmax) (List.ne_nil_of_mem h)
  | some largest => exact (List.max?_eq_some_iff.mp hmax).2 n h

/-- A move is recorded as the next one in the log. -/
theorem nextMove_recordMove (s : Store) (id : RoomId) (user : UserId) (data : String) :
    s.NextMove id user data (s.recordMove id user data).2 := by
  have hnumber : (s.recordMove id user data).2.number = ((s.moveRows id).map (·.number)).max?.getD 0 + 1 := rfl
  refine
    { room := UInt64.toUInt64_toInt64 id, user := UInt64.toUInt64_toInt64 user, data := rfl, createdAt := rfl
      fresh := fun row hrow => ?_, above := fun m hm => ?_, first := fun hnone => ?_, next := fun hsome => ?_ }
  case refine_1 =>
    have hid : (s.recordMove id user data).2.id = (s.moves.map (·.id)).foldl max 0 + 1 := rfl
    rw [hid, List.foldl_max]
    have hle := le_largest (List.mem_map_of_mem (f := (·.id)) hrow) 0
    exact Int.lt_add_one_of_le (Int.le_trans hle (Int.le_max_right 0 _))
  case refine_2 =>
    obtain ⟨row, hrow, rfl⟩ := mem_movesOf.mp hm
    rw [hnumber]
    exact Int.lt_add_one_of_le (le_largest (List.mem_map_of_mem hrow) 0)
  case refine_3 =>
    have hrows : s.moveRows id = [] := List.eq_nil_iff_forall_not_mem.mpr fun row hrow =>
      List.not_mem_nil (hnone ▸ mem_movesOf.mpr ⟨row, hrow, rfl⟩)
    rw [hnumber, hrows, List.map_nil, List.max?_nil, Option.getD_none, Int.zero_add]
  case refine_4 =>
    cases hmax : ((s.moveRows id).map (·.number)).max? with
    | none =>
      have hrows : s.moveRows id = [] := List.map_eq_nil_iff.mp (List.max?_eq_none_iff.mp hmax)
      exact absurd (by rw [movesOf, hrows, List.mergeSort_nil, List.map_nil]) hsome
    | some largest =>
      obtain ⟨row, hrow, rfl⟩ := List.mem_map.mp (List.max?_mem hmax)
      exact ⟨row.load, mem_movesOf.mpr ⟨row, hrow, rfl⟩, by rw [hnumber, hmax]; rfl⟩

/-! ## The three writes -/

/-- A row is changed if there is one that satisfies the condition, and otherwise there is none. -/
theorem changeRow_decided (s : Store) (room : Room) (condition : StoredRoom → Bool)
    (change : StoredRoom → StoredRoom) :
    (∃ row, s.row? room.id = some row ∧ condition row = true ∧
        s.changeRow room.id condition change = ({ s with rooms := s.rewrite room.id change }, true)) ∨
      ¬ s.Meets room (condition · = true) ∧ s.changeRow room.id condition change = (s, false) := by
  rcases s.changeRow_cases room.id condition change with haccepted | hrefused
  · exact .inl haccepted
  · refine .inr ⟨fun ⟨row, hrow, hcondition⟩ => ?_, hrefused⟩
    simp [changeRow, hrow, hcondition] at hrefused

/-- A room is overwritten as a whole, with its opponent, or not at all. -/
theorem updateRoom_whole {s : Store} (hs : s.Fits) (room : Room) (expected : Status) :
    s.WritesWhole room (·.status = expected) (fun _ => room.opponent) [] none 0 (s.updateRoom room expected).1
      (s.updateRoom room expected).2 := by
  rcases s.changeRow_decided room (fun row => row.status = expected)
    (fun row => { row.overwrite room s.clock with opponent := room.opponent.map UInt64.toInt64 }) with
    ⟨row, hrow, hstatus, hchange⟩ | ⟨hstatus, hchange⟩
  · rw [updateRoom, hchange]
    exact writesWhole_done ⟨hs.moves, hs.scores⟩ hrow (of_decide_eq_true hstatus) rfl rfl (List.append_nil _).symm
      (by simp) rfl
  · rw [updateRoom, hchange]
    simp only [decide_eq_true_eq] at hstatus
    exact writesWhole_refused hs hstatus

/-- A game is concluded as a whole or not at all. -/
theorem finishRoom_whole {s : Store} (hs : s.Fits) (room : Room) (finish : Finish) (winPoints : Int64)
    (hcount : s.Meets room (·.status = .active) → s.CanCount room.gameType finish winPoints) :
    s.WritesWhole room (·.status = .active) (·.opponent.map Int64.toUInt64) [] (some finish) winPoints
      (s.finishRoom room finish winPoints).1 (s.finishRoom room finish winPoints).2 := by
  rcases s.changeRow_decided room (fun row => row.status = .active) (·.overwrite room s.clock) with
    ⟨row, hrow, hstatus, hchange⟩ | ⟨hstatus, hchange⟩
  · have hactive : row.status = .active := of_decide_eq_true hstatus
    have hroom : s.CanCount room.gameType finish winPoints := hcount ⟨row, hrow, hactive⟩
    rw [finishRoom, hchange]
    simp only [count_eq]
    refine writesWhole_done ?_ hrow hactive rfl (by simp only [StoredRoom.rewritten_own]) (List.append_nil _).symm
      (by simp) rfl
    refine hs.written [] (some finish) (List.append_nil _).symm rfl (by simp) fun f hf => ?_
    exact (Option.some.inj hf).symm ▸ hroom
  · rw [finishRoom, hchange]
    simp only [decide_eq_true_eq] at hstatus
    exact writesWhole_refused hs hstatus

/-- A move is stored as a whole, with the room that it leads to and the result, or not at all. -/
theorem commitMove_whole {s : Store} (hs : s.Fits) (room : Room) (user : UserId) (data : String)
    (finish : Option Finish) (winPoints : Int64)
    (hnext : s.Meets room (·.Awaits user) →
      s.HasNext room.id ∧ ∀ f ∈ finish, s.CanCount room.gameType f winPoints) :
    s.WritesWhole room (·.Awaits user) (·.opponent.map Int64.toUInt64)
        (s.commitMove room user data finish winPoints).2.toList finish winPoints
        (s.commitMove room user data finish winPoints).1 (s.commitMove room user data finish winPoints).2.isSome ∧
      ∀ record, (s.commitMove room user data finish winPoints).2 = some record →
        s.NextMove room.id user data record := by
  have hguard (row : StoredRoom) :
      (row.status = .active && row.nextTurn == some user.toInt64) = true ↔ row.Awaits user := by
    rw [Bool.and_eq_true, decide_eq_true_eq, beq_iff_eq, StoredRoom.Awaits, StoredRoom.map_toUInt64_eq_some]
  rcases s.changeRow_decided room (fun row => row.status = .active && row.nextTurn == some user.toInt64)
    (·.overwrite room s.clock) with ⟨row, hrow, hholds, hchange⟩ | ⟨hrefused, hchange⟩
  · rw [hguard] at hholds
    obtain ⟨⟨hid, hnumber⟩, hcount⟩ := hnext ⟨row, hrow, hholds⟩
    -- the log and the clock that the move meets are those of the store before
    have hcommit : s.commitMove room user data finish winPoints =
        ({ s with
            rooms := s.rewrite room.id (·.overwrite room s.clock)
            moves := s.moves ++ [(s.recordMove room.id user data).2.row]
            scores := finish.elim s.scores fun finish => countIn s.scores room.gameType finish winPoints },
          some (s.recordMove room.id user data).2) := by
      rw [commitMove, hchange]
      cases finish <;> simp [recordMove, count_eq, StoredMove.row_load, nextMoveId, nextMoveNumber, moveRows]
    have hrecorded := s.nextMove_recordMove room.id user data
    rw [hcommit]
    refine ⟨writesWhole_done ?_ hrow hholds rfl (by simp only [StoredRoom.rewritten_own]) rfl ?_ rfl,
      fun record hsome => Option.some.inj hsome ▸ hrecorded⟩
    · refine hs.written [(s.recordMove room.id user data).2] finish rfl rfl (fun m hm => ?_) hcount
      exact List.mem_singleton.mp hm ▸ ⟨hid, hnumber⟩
    · simpa using hrecorded.room
  · simp only [hguard] at hrefused
    rw [commitMove, hchange]
    exact ⟨writesWhole_refused hs hrefused, by simp⟩

/-- Every conditional write of a store that holds numbers it can keep is done as a whole or not at all, as long as there
is room for what it adds: with the expected status for overwriting a room, with the mover to move in an active room for
a move, and with an active room for concluding a game. -/
theorem conditional_writes_whole (s : Store) (hs : s.Fits) (room : Room) :
    (∀ expected, s.WritesWhole room (·.status = expected) (fun _ => room.opponent) [] none 0
        (s.updateRoom room expected).1 (s.updateRoom room expected).2) ∧
      (∀ user data finish winPoints,
        (s.Meets room (·.Awaits user) →
          s.HasNext room.id ∧ ∀ f ∈ finish, s.CanCount room.gameType f winPoints) →
        s.WritesWhole room (·.Awaits user) (·.opponent.map Int64.toUInt64)
            (s.commitMove room user data finish winPoints).2.toList finish winPoints
            (s.commitMove room user data finish winPoints).1
            (s.commitMove room user data finish winPoints).2.isSome ∧
          ∀ record, (s.commitMove room user data finish winPoints).2 = some record →
            s.NextMove room.id user data record) ∧
      ∀ finish winPoints,
        (s.Meets room (·.status = .active) → s.CanCount room.gameType finish winPoints) →
        s.WritesWhole room (·.status = .active) (·.opponent.map Int64.toUInt64) [] (some finish) winPoints
          (s.finishRoom room finish winPoints).1 (s.finishRoom room finish winPoints).2 :=
  ⟨updateRoom_whole hs room, commitMove_whole hs room, finishRoom_whole hs room⟩

/-- A store in which the player with the greatest identifier is to move, and in which some number is the largest of
the log. This player has almost as many wins as can be counted. -/
def atBrim (number : Int) : Store where
  clock := ""
  rooms :=
    [{ id := 1, gameType := "tictactoe", status := .active, creator := -1, opponent := some 2
       state := Board.empty.text, nextTurn := some (-1), createdAt := "", updatedAt := "" }]
  moves := [{ id := 1, room := 1, user := 2, data := "", number, createdAt := "" }]
  scores := [((-1, "tictactoe"), { wins := Word.signedHigh - 1, draws := -3 })]

/-- The room after this player has won. -/
def brimWon : Room :=
  { Room.newPending 1 18446744073709551615 .ticTacToe with
    status := .finished, opponent := some 2, winner := some 18446744073709551615 }

/-- All that such a store holds can be kept. -/
theorem fits_atBrim {number : Int} (hnumber : Word.isSigned number = true) : (atBrim number).Fits := by
  refine ⟨fun row hrow => ?_, fun key score hscore => ?_⟩
  · obtain rfl := List.mem_singleton.mp hrow
    exact ⟨(by decide : Word.isSigned 1 = true), hnumber⟩
  · obtain ⟨-, hsame⟩ := Option.ite_none_right_eq_some.mp hscore
    obtain rfl := Option.some.inj hsame
    exact ⟨⟨by decide, by decide, by decide, by decide⟩, (by decide : Word.isSigned 0 = true)⟩

/-- The last move that can be numbered is stored as a whole, with the last win that can be counted; and so is the end
of the same game without a move, and a room that is written over. -/
theorem brim_filled :
    (atBrim (Word.signedHigh - 1)).Fits ∧ (atBrim (Word.signedHigh - 1)).HasNext 1 ∧
      (atBrim (Word.signedHigh - 1)).CanCount .ticTacToe (.win 18446744073709551615 2) 10 ∧
      ((atBrim (Word.signedHigh - 1)).commitMove brimWon 18446744073709551615 ""
        (some (.win 18446744073709551615 2)) 10).2.map (·.number) = some Word.signedHigh ∧
      ((atBrim (Word.signedHigh - 1)).commitMove brimWon 18446744073709551615 ""
        (some (.win 18446744073709551615 2)) 10).1.Fits ∧
      ((atBrim (Word.signedHigh - 1)).finishRoom brimWon (.win 18446744073709551615 2) 10).1.Fits ∧
      ((atBrim (Word.signedHigh - 1)).updateRoom brimWon .active).1.Fits := by
  have hfits : (atBrim (Word.signedHigh - 1)).Fits := fits_atBrim (by decide)
  have hnext : (atBrim (Word.signedHigh - 1)).HasNext 1 := ⟨by decide +kernel, by decide +kernel⟩
  have hcount : (atBrim (Word.signedHigh - 1)).CanCount .ticTacToe (.win 18446744073709551615 2) 10 := by
    refine List.forall_mem_cons.mpr ⟨?_, List.forall_mem_singleton.mpr ?_⟩
    · exact ⟨by decide +kernel, by decide +kernel, by decide +kernel, by decide +kernel⟩
    · exact ⟨by decide +kernel, by decide +kernel, by decide +kernel, by decide +kernel⟩
  obtain ⟨hupdate, hcommit, hfinish⟩ := conditional_writes_whole (atBrim (Word.signedHigh - 1)) hfits brimWon
  obtain ⟨hwhole, -⟩ := hcommit 18446744073709551615 "" (some (.win 18446744073709551615 2)) 10 fun _ =>
    ⟨hnext, fun f hf => Option.some.inj hf ▸ hcount⟩
  exact ⟨hfits, hnext, hcount, by decide +kernel, hwhole.fits, (hfinish _ 10 fun _ => hcount).fits,
    (hupdate .active).fits⟩

/-- A room that was written over cannot always be read, as nothing asks for a known kind of game in its row; and a move
is not always given a number that can be kept, as nothing is left after the greatest one. -/
theorem unreadable_or_beyond_number :
    (¬ ∀ (s : Store) (room : Room) (expected : Status), (s.updateRoom room expected).2 = true →
      ∃ r, (s.updateRoom room expected).1.room room.id = .ok (some r) ∧ r.status = room.status) ∧
    ¬ ∀ (s : Store) (room : Room) (user : UserId) (data : String) (winPoints : Int64), s.Fits →
      ∀ record, (s.commitMove room user data none winPoints).2 = some record →
        Word.isSigned record.number = true := by
  refine ⟨fun hreads => ?_, fun hnumbers => ?_⟩
  · let row : StoredRoom :=
      { id := 1, gameType := "chess", status := .pending, creator := 1, state := Board.empty.text, createdAt := ""
        updatedAt := "" }
    let s : Store := { clock := "", rooms := [row] }
    obtain ⟨r, hroom, -⟩ := hreads s (.newPending 1 1 .ticTacToe) .pending (by decide +kernel)
    have hfails : ((s.updateRoom (.newPending 1 1 .ticTacToe) .pending).1.room 1).toOption = none := by
      decide +kernel
    have hreads : ((s.updateRoom (.newPending 1 1 .ticTacToe) .pending).1.room 1).toOption = some (some r) :=
      congrArg Except.toOption hroom
    exact nomatch hfails.symm.trans hreads
  · have hover : ((atBrim Word.signedHigh).commitMove brimWon 18446744073709551615 "" none 10).2.map
        (fun record => Word.isSigned record.number) = some false := by
      decide +kernel
    obtain ⟨record, hrecord, hfalse⟩ := Option.map_eq_some_iff.mp hover
    have htrue := hnumbers _ _ _ _ _ (fits_atBrim (by decide)) record hrecord
    exact Bool.false_ne_true (hfalse.symm.trans htrue)

end Store

end Parlor.Game
