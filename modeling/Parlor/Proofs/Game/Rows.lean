import Parlor.Game.Store
import Parlor.Proofs.Game.BoardText
import Parlor.Proofs.Game.Lifecycle

/-!
# Rows of rooms

What a row says about its room, and what the writes of the store do to the rows. Identifiers are kept
as signed words and boards as text; neither loses anything. Every write rewrites at most one row, and
each has one lemma that tells when it does and what else it changes.
-/

namespace Parlor.Game

/-! ## Identifiers as signed words -/

/-- Different identifiers are kept as different signed words. -/
theorem toInt64_injective {a b : UInt64} (h : a.toInt64 = b.toInt64) : a = b := by
  rw [← UInt64.toUInt64_toInt64 a, h, UInt64.toUInt64_toInt64]

/-! ## Rows and rooms -/

/-- A room without the times at which it was stored. -/
def Room.untimed (r : Room) : Room := { r with createdAt := none, updatedAt := none }

/-- Rooms that agree up to their times differ in nothing else. -/
theorem Room.eq_of_untimed {r r' : Room} (h : r'.untimed = r.untimed) :
    r' = { r with createdAt := r'.createdAt, updatedAt := r'.updatedAt } := by
  cases r
  cases r'
  simp_all [Room.untimed]

/-- Rooms that agree up to their times have the same board. -/
theorem Room.board_of_untimed {r r' : Room} (h : r.untimed = r'.untimed) : r.board = r'.board := by
  rw [Room.eq_of_untimed h]

/-- Rooms that agree up to their times have the same status. -/
theorem Room.status_of_untimed {r r' : Room} (h : r.untimed = r'.untimed) : r.status = r'.status := by
  rw [Room.eq_of_untimed h]

/-- A row holds a room, whenever it was stored. -/
structure StoredRoom.Holds (row : StoredRoom) (r : Room) : Prop where
  id : row.id = r.id.toInt64
  gameType : row.gameType = r.gameType.name
  status : row.status = r.status
  creator : row.creator = r.creator.toInt64
  opponent : row.opponent = r.opponent.map UInt64.toInt64
  winner : row.winner = r.winner.map UInt64.toInt64
  isDraw : row.isDraw = r.isDraw
  state : row.state = r.board.text
  nextTurn : row.nextTurn = r.nextTurn.map UInt64.toInt64

namespace StoredRoom

/-- The only kind of game has a name of its own. -/
theorem gameType_ofName? (g : GameType) : GameType.ofName? g.name = some g := by
  cases g
  rfl

/-- An optional identifier is read back. -/
theorem map_toUInt64 (a : Option UInt64) : (a.map UInt64.toInt64).map Int64.toUInt64 = a := by
  cases a <;> simp

/-- The room in a row is loaded, with the times of the row. -/
theorem Holds.load {row : StoredRoom} {r : Room} (h : row.Holds r) :
    row.load = .ok { r with createdAt := some row.createdAt, updatedAt := some row.updatedAt } := by
  simp only [StoredRoom.load, h.gameType, gameType_ofName?, h.state, Board.ofText_text, h.id, h.status, h.creator,
    h.opponent, h.winner, h.isDraw, h.nextTurn, UInt64.toUInt64_toInt64, map_toUInt64]

/-- Whether a room is held does not depend on its times. -/
theorem Holds.retime {row : StoredRoom} {r r' : Room} (h : row.Holds r) (hsame : r'.untimed = r.untimed) :
    row.Holds r' := by
  rw [Room.eq_of_untimed hsame]
  exact ⟨h.id, h.gameType, h.status, h.creator, h.opponent, h.winner, h.isDraw, h.state, h.nextTurn⟩

/-- A row holds one room. -/
theorem Holds.unique {row : StoredRoom} {r r' : Room} (h : row.Holds r) (h' : row.Holds r') :
    r.untimed = r'.untimed := by
  have hload := h.load
  rw [h'.load, Except.ok.injEq] at hload
  have huntimed := congrArg Room.untimed hload
  exact huntimed.symm

/-- Overwriting a row by a room with the same seats makes it hold that room. -/
theorem Holds.overwrite {row : StoredRoom} {r r' : Room} (h : row.Holds r) (hid : r'.id = r.id)
    (hgame : r'.gameType = r.gameType) (hcreator : r'.creator = r.creator)
    (hopponent : r'.opponent = r.opponent) (clock : String) : (row.overwrite r' clock).Holds r' :=
  ⟨hid ▸ h.id, hgame ▸ h.gameType, rfl, hcreator ▸ h.creator, hopponent ▸ h.opponent, rfl, rfl, rfl, rfl⟩

/-- Overwriting a row by a room, and seating its opponent, makes it hold that room. -/
theorem Holds.overwriteSeated {row : StoredRoom} {r r' : Room} (h : row.Holds r) (hid : r'.id = r.id)
    (hgame : r'.gameType = r.gameType) (hcreator : r'.creator = r.creator) (clock : String) :
    { row.overwrite r' clock with opponent := r'.opponent.map UInt64.toInt64 : StoredRoom }.Holds r' :=
  ⟨hid ▸ h.id, hgame ▸ h.gameType, rfl, hcreator ▸ h.creator, rfl, rfl, rfl, rfl, rfl⟩

end StoredRoom

/-- Times have no part in the law of a room. -/
theorem Room.Lawful.retime {r r' : Room} (h : r.Lawful) (hsame : r'.untimed = r.untimed) : r'.Lawful := by
  rw [Room.eq_of_untimed hsame]
  cases hstatus : r.status with
  | pending =>
    obtain ⟨hopponent, hwinner, hdraw, hboard, hturn⟩ := h.vacant hstatus
    simp only [Room.Lawful]
    exact ⟨hopponent, hwinner, hdraw, hboard, hturn⟩
  | cancelled =>
    obtain ⟨hopponent, hwinner, hdraw, hboard, hturn⟩ : r.Vacant := by simpa only [Room.Lawful, hstatus] using h
    simp only [Room.Lawful]
    exact ⟨hopponent, hwinner, hdraw, hboard, hturn⟩
  | active =>
    obtain ⟨rival, hopponent, hdistinct, hwinner, hdraw, houtcome, hturn⟩ := h.inPlay hstatus
    simp only [Room.Lawful]
    exact ⟨rival, hopponent, hdistinct, hwinner, hdraw, houtcome, hturn⟩
  | finished =>
    obtain ⟨rival, hopponent, hdistinct, hresult⟩ := h.ended hstatus
    simp only [Room.Lawful]
    refine ⟨rival, hopponent, hdistinct, ?_⟩
    rcases hresult with ⟨hdraw, hline⟩ | ⟨hdraw, hwinner, hfull, hlineless⟩ | ⟨hdraw, hwinner, houtcome⟩
    · exact .inl ⟨hdraw, hline⟩
    · exact .inr (.inl ⟨hdraw, hwinner, hfull, hlineless⟩)
    · exact .inr (.inr ⟨hdraw, hwinner, houtcome⟩)

namespace Store

/-! ## Finding and rewriting rows -/

/-- The rows after one of them was rewritten. -/
def rewrite (s : Store) (id : RoomId) (change : StoredRoom → StoredRoom) : List StoredRoom :=
  s.rooms.map fun row => if row.id = id.toInt64 then change row else row

/-- A row is found under its own identifier. -/
theorem row?_id {s : Store} {id : RoomId} {row : StoredRoom} (h : s.row? id = some row) :
    row.id = id.toInt64 := by
  have hfound := List.find?_some h
  simpa using hfound

/-- A row that is found is one of the rows. -/
theorem row?_mem {s : Store} {id : RoomId} {row : StoredRoom} (h : s.row? id = some row) : row ∈ s.rooms :=
  List.mem_of_find?_eq_some h

/-- A change of a row happens if there is a row and it satisfies the condition. -/
theorem changeRow_cases (s : Store) (id : RoomId) (condition : StoredRoom → Bool)
    (change : StoredRoom → StoredRoom) :
    (∃ row, s.row? id = some row ∧ condition row = true ∧
        s.changeRow id condition change = ({ s with rooms := s.rewrite id change }, true)) ∨
      s.changeRow id condition change = (s, false) := by
  unfold changeRow
  cases hrow : s.row? id with
  | none => exact .inr (by simp)
  | some row =>
    cases hcondition : condition row with
    | false => exact .inr (by simp [hcondition])
    | true => exact .inl ⟨row, rfl, hcondition, by simp [hcondition, rewrite]⟩

/-- Rewriting a row changes what is found under its identifier, and nothing else. -/
theorem find?_rewrite (s : Store) (id other : RoomId) {change : StoredRoom → StoredRoom}
    (hchange : ∀ row, (change row).id = row.id) :
    (s.rewrite id change).find? (·.id == other.toInt64) =
      (s.row? other).map fun row => if other = id then change row else row := by
  have hsame : ((fun row : StoredRoom => row.id == other.toInt64) ∘
      fun row => if row.id = id.toInt64 then change row else row) = fun row => row.id == other.toInt64 := by
    funext row
    simp only [Function.comp_apply]
    split
    · rw [hchange]
    · rfl
  rw [rewrite, List.find?_map, hsame]
  change (s.row? other).map _ = _
  cases hrow : s.row? other with
  | none => rfl
  | some row =>
    rw [Option.map_some, Option.map_some, row?_id hrow]
    by_cases hid : other = id
    · rw [if_pos (by rw [hid]), if_pos hid]
    · rw [if_neg fun h => hid (toInt64_injective h), if_neg hid]

/-- Rewriting a row that did not count before counts it if it does now. -/
theorem countP_rewrite {s : Store} {id : RoomId} {row : StoredRoom} (hnodup : (s.rooms.map (·.id)).Nodup)
    (hrow : s.row? id = some row) {p : StoredRoom → Bool} (hbefore : p row = false)
    (change : StoredRoom → StoredRoom) :
    (s.rewrite id change).countP p = s.rooms.countP p + (p (change row)).toNat := by
  have hid := row?_id hrow
  have hmem := row?_mem hrow
  unfold rewrite
  generalize s.rooms = rows at hnodup hmem
  induction rows with
  | nil => contradiction
  | cons first rest ih =>
    rw [List.map_cons, List.nodup_cons] at hnodup
    rw [List.map_cons, List.countP_cons, List.countP_cons]
    rcases List.mem_cons.mp hmem with rfl | hmem
    · have hrest : (rest.map fun row => if row.id = id.toInt64 then change row else row) = rest := by
        refine (List.map_congr_left fun other hother => if_neg fun heq => hnodup.1 ?_).trans (List.map_id rest)
        exact (hid.trans heq.symm) ▸ List.mem_map_of_mem hother
      rw [hrest, if_pos hid, hbefore]
      cases p (change row) <;> rfl
    · have hne : first.id ≠ id.toInt64 := fun heq =>
        hnodup.1 (heq.trans hid.symm ▸ List.mem_map_of_mem hmem)
      rw [if_neg hne, ih hnodup.2 hmem]
      omega

/-! ## Inserting rows -/

/-- The identifiers of the rows count from one. -/
structure Numbered (s : Store) : Prop where
  ids : s.rooms.map (·.id) = (List.range s.rooms.length).map fun i => Int64.ofNat (i + 1)
  fits : s.rooms.length ≤ roomLimit

/-- Small numbers are different signed words. -/
theorem ofNat_injective {m n : Nat} (hm : m ≤ roomLimit) (hn : n ≤ roomLimit)
    (h : Int64.ofNat m = Int64.ofNat n) : m = n := by
  have hword := congrArg Int64.toNatClampNeg h
  rwa [Int64.toNatClampNeg_ofNat_of_lt (Nat.lt_of_le_of_lt hm (by decide)),
    Int64.toNatClampNeg_ofNat_of_lt (Nat.lt_of_le_of_lt hn (by decide))] at hword

/-- No two rows have the same identifier. -/
theorem Numbered.nodup {s : Store} (h : s.Numbered) : (s.rooms.map (·.id)).Nodup := by
  rw [h.ids, List.Nodup, List.pairwise_map]
  refine List.Pairwise.imp_of_mem ?_ List.nodup_range
  intro a b ha hb hne heq
  have hfits := h.fits
  have hwords := ofNat_injective (Nat.le_trans (List.mem_range.mp ha) hfits)
    (Nat.le_trans (List.mem_range.mp hb) hfits) heq
  exact hne (Nat.succ.inj hwords)

/-- Every row is found under its identifier. -/
theorem Numbered.row?_of_mem {s : Store} (h : s.Numbered) {row : StoredRoom} (hrow : row ∈ s.rooms) :
    s.row? row.id.toUInt64 = some row := by
  have hnodup := h.nodup
  unfold row?
  rw [Int64.toInt64_toUInt64]
  revert hnodup hrow
  generalize s.rooms = rows
  intro hrow hnodup
  induction rows with
  | nil => contradiction
  | cons first rest ih =>
    rw [List.map_cons, List.nodup_cons] at hnodup
    rcases List.mem_cons.mp hrow with rfl | hrow
    · simp
    · have hne : first.id ≠ row.id := fun heq => hnodup.1 (heq ▸ List.mem_map_of_mem hrow)
      rw [List.find?_cons_of_neg (by simpa using hne)]
      exact ih hrow hnodup.2

/-- Rewriting keeps the numbers of the rows. -/
theorem Numbered.rewrite {s s' : Store} (h : s.Numbered) {id : RoomId} {change : StoredRoom → StoredRoom}
    (hchange : ∀ row, (change row).id = row.id) (hs : s'.rooms = s.rewrite id change) : s'.Numbered := by
  have hids : s'.rooms.map (·.id) = s.rooms.map (·.id) := by
    rw [hs, Store.rewrite, List.map_map]
    refine List.map_congr_left fun row _ => ?_
    rw [Function.comp_apply]
    split
    · exact hchange row
    · rfl
  have hlength : s'.rooms.length = s.rooms.length := by rw [hs, Store.rewrite, List.length_map]
  exact ⟨by rw [hids, hlength, h.ids], hlength ▸ h.fits⟩

/-- The identifier of the next room. -/
def nextId (s : Store) : RoomId := UInt64.ofNat (s.rooms.length + 1)

/-- Creating a room appends a row that holds a new room under the next identifier, unless the store is full. -/
theorem createRoom_cases (s : Store) (creator : UserId) (gameType : GameType) :
    (s.rooms.length < roomLimit ∧ ∃ row, row.Holds (.newPending s.nextId creator gameType) ∧
        (s.createRoom creator gameType).1 = { s with rooms := s.rooms ++ [row] }) ∨
      (s.createRoom creator gameType).1 = s := by
  unfold createRoom insertRow
  by_cases hroom : s.rooms.length < roomLimit
  · refine .inl ⟨hroom, _, ?_, by rw [if_pos hroom]⟩
    exact ⟨UInt64.toInt64_ofNat'.symm, rfl, rfl, rfl, rfl, rfl, rfl, rfl, rfl⟩
  · exact .inr (by rw [if_neg hroom])

/-- Appending a row under the next identifier keeps the numbers of the rows. -/
theorem Numbered.append {s s' : Store} (h : s.Numbered) {row : StoredRoom} (hid : row.id = s.nextId.toInt64)
    (hfits : s.rooms.length < roomLimit) (hs : s'.rooms = s.rooms ++ [row]) : s'.Numbered := by
  have hlength : s'.rooms.length = s.rooms.length + 1 := by rw [hs, List.length_append, List.length_singleton]
  refine ⟨?_, hlength ▸ hfits⟩
  rw [hlength, List.range_succ, List.map_append, hs, List.map_append, h.ids, List.map_singleton,
    List.map_singleton, hid, nextId, UInt64.toInt64_ofNat']

/-- No row is found under the next identifier. -/
theorem Numbered.row?_nextId {s : Store} (h : s.Numbered) (hfits : s.rooms.length < roomLimit) :
    s.row? s.nextId = none := by
  refine List.find?_eq_none.mpr fun row hrow hid => ?_
  have hword : row.id = Int64.ofNat (s.rooms.length + 1) := by
    simpa [nextId] using hid
  have hmem := List.mem_map_of_mem (f := (·.id)) hrow
  rw [h.ids, List.mem_map] at hmem
  obtain ⟨i, hi, heq⟩ := hmem
  have hlt := List.mem_range.mp hi
  have hsame := ofNat_injective (Nat.le_trans hlt h.fits) hfits (heq.trans hword)
  omega

/-- A row that was appended under the next identifier is found under it, and the others as before. -/
theorem row?_append {s : Store} (h : s.Numbered) (hfits : s.rooms.length < roomLimit) {row : StoredRoom}
    (hid : row.id = s.nextId.toInt64) (id : RoomId) :
    { s with rooms := s.rooms ++ [row] }.row? id = if id = s.nextId then some row else s.row? id := by
  have hnone := h.row?_nextId hfits
  unfold row? at hnone ⊢
  rw [List.find?_append, List.find?_singleton, hid]
  by_cases hnext : id = s.nextId
  · rw [if_pos hnext, hnext, hnone]
    simp
  · have hne : s.nextId.toInt64 ≠ id.toInt64 := fun heq => hnext (toInt64_injective heq).symm
    rw [if_neg hnext]
    simp [hne]

/-! ## Counting games -/

/-- The scores after a finished game was counted. -/
def countIn (scores : Table (Int64 × String) Score) (gameType : GameType) (finish : Finish)
    (winPoints : Int64) : Table (Int64 × String) Score :=
  (finish.changes winPoints).foldl (fun scores (user, change) =>
    scores.insert (user.toInt64, gameType.name) (change ((scores.get? (user.toInt64, gameType.name)).getD {})))
    scores

/-- Counting a game changes the scores and nothing else. -/
theorem count_eq (s : Store) (gameType : GameType) (finish : Finish) (winPoints : Int64) :
    s.count gameType finish winPoints = { s with scores := countIn s.scores gameType finish winPoints } := by
  unfold count countIn
  generalize finish.changes winPoints = changes
  induction changes generalizing s with
  | nil => rfl
  | cons change changes ih => exact ih (s.changeScore change.1 gameType change.2)

end Store

/-! ## Writes -/

/-- A conditional write of a room that was computed from what was loaded. -/
inductive Write where
  | update (room : Room)
  | commit (room : Room) (user : UserId) (data : String)
  | conclude (room : Room) (finish : Finish)

namespace Write

/-- The room that is written. -/
def room : Write → Room
  | .update room | .commit room _ _ | .conclude room _ => room

/-- What a write asks of the stored room. -/
def Admits (row : StoredRoom) : Write → Prop
  | .update _ => row.status = .pending
  | .commit _ user _ => row.status = .active ∧ row.nextTurn = some user.toInt64
  | .conclude _ _ => row.status = .active

/-- Only a room that can still change accepts a write. -/
theorem Admits.live {w : Write} {row : StoredRoom} (h : w.Admits row) :
    row.status = .pending ∨ row.status = .active := by
  cases w with
  | update => exact .inl h
  | commit => exact .inr h.1
  | conclude => exact .inr h

/-- How a write changes the row of its room. -/
def change (clock : String) (row : StoredRoom) : Write → StoredRoom
  | .update room => { row.overwrite room clock with opponent := room.opponent.map UInt64.toInt64 }
  | .commit room _ _ => row.overwrite room clock
  | .conclude room _ => row.overwrite room clock

/-- The moves that a write appends to the log. -/
def entries (s : Store) : Write → List StoredMove
  | .commit room user data =>
    [{ id := s.nextMoveId, room := room.id.toInt64, user := user.toInt64, data
       number := s.nextMoveNumber room.id, createdAt := s.clock }]
  | .update _ | .conclude _ _ => []

/-- The result that a write counts. -/
def result? : Write → Option Finish
  | .update _ => none
  | .commit room _ _ => room.finish?
  | .conclude _ finish => some finish

/-- The scores after a write. -/
def scores (s : Store) (winPoints : Int64) (w : Write) : Table (Int64 × String) Score :=
  match w.result? with
  | none => s.scores
  | some finish => Store.countIn s.scores w.room.gameType finish winPoints

/-- Carries a write out, and tells whether the store has accepted it. -/
def land (s : Store) (winPoints : Int64) : Write → Store × Bool
  | .update room => s.updateRoom room .pending
  | .commit room user data =>
    let (s, record) := s.commitMove room user data room.finish? winPoints
    (s, record.isSome)
  | .conclude room finish => s.finishRoom room finish winPoints

/-- The store after a write that was accepted. -/
def landed (s : Store) (winPoints : Int64) (w : Write) : Store where
  clock := s.clock
  rooms := s.rewrite w.room.id fun row => w.change s.clock row
  moves := s.moves ++ w.entries s
  scores := w.scores s winPoints

/-- A write is accepted by a row that it asks for, and otherwise nothing at all is written. -/
theorem land_cases (s : Store) (winPoints : Int64) (w : Write) :
    (∃ row, s.row? w.room.id = some row ∧ w.Admits row ∧ w.land s winPoints = (w.landed s winPoints, true)) ∨
      w.land s winPoints = (s, false) := by
  cases w with
  | update room =>
    rcases s.changeRow_cases room.id (fun row => row.status = .pending)
      (fun row => { row.overwrite room s.clock with opponent := room.opponent.map UInt64.toInt64 }) with
      ⟨row, hrow, hstatus, hchange⟩ | hchange
    · refine .inl ⟨row, hrow, by simpa [Admits] using hstatus, ?_⟩
      simp [land, Store.updateRoom, hchange, landed, Write.room, change, entries, scores, result?]
    · exact .inr (by simp [land, Store.updateRoom, hchange])
  | commit room user data =>
    rcases s.changeRow_cases room.id (fun row => row.status = .active && row.nextTurn == some user.toInt64)
      (·.overwrite room s.clock) with ⟨row, hrow, hguard, hchange⟩ | hchange
    · refine .inl ⟨row, hrow, by simpa [Admits] using hguard, ?_⟩
      simp only [land, Store.commitMove, hchange, Store.recordMove, landed, Write.room, change, entries, scores,
        result?]
      cases room.finish? <;> simp [Store.count_eq, Store.nextMoveNumber, Store.nextMoveId, Store.moveRows]
    · exact .inr (by simp [land, Store.commitMove, hchange])
  | conclude room finish =>
    rcases s.changeRow_cases room.id (fun row => row.status = .active) (·.overwrite room s.clock) with
      ⟨row, hrow, hstatus, hchange⟩ | hchange
    · refine .inl ⟨row, hrow, by simpa [Admits] using hstatus, ?_⟩
      simp [land, Store.finishRoom, hchange, landed, Write.room, change, entries, scores, result?, Store.count_eq]
    · exact .inr (by simp [land, Store.finishRoom, hchange])

/-- A write keeps the identifier of its row. -/
theorem change_id (clock : String) (row : StoredRoom) (w : Write) : (w.change clock row).id = row.id := by
  cases w <;> rfl

/-- A write changes the row of its room and no other. -/
theorem row?_landed (s : Store) (winPoints : Int64) (w : Write) (id : RoomId) :
    (w.landed s winPoints).row? id =
      (s.row? id).map fun row => if id = w.room.id then w.change s.clock row else row :=
  s.find?_rewrite w.room.id id fun row => w.change_id s.clock row

/-- A write appends to the log of its room and to no other. -/
theorem moveRows_landed (s : Store) (winPoints : Int64) (w : Write) (id : RoomId) :
    (w.landed s winPoints).moveRows id = s.moveRows id ++ if id = w.room.id then w.entries s else [] := by
  have hentries : ∀ entry ∈ w.entries s, entry.room = w.room.id.toInt64 := by
    intro entry hentry
    cases w with
    | commit room user data =>
      rw [entries, List.mem_singleton] at hentry
      rw [hentry]
      rfl
    | update | conclude => contradiction
  rw [Store.moveRows, landed, List.filter_append]
  congr 1
  split
  case isTrue hid =>
    exact List.filter_eq_self.mpr fun entry hentry => by simp [hentries entry hentry, hid]
  case isFalse hid =>
    refine List.filter_eq_nil_iff.mpr fun entry hentry heq => hid ?_
    have hword : w.room.id.toInt64 = id.toInt64 := by simpa [hentries entry hentry] using heq
    exact (toInt64_injective hword).symm

end Write

end Parlor.Game
