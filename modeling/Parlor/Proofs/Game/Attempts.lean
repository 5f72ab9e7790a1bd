import Parlor.Proofs.Game.HubStore
import Parlor.Proofs.Game.Scores

/-!
# Attempts at a room

A server that is alone with the store loads a room and writes what its call leads to, and the write is
always accepted. So an attempt is a function of the store. Whatever is served, a room that is stored
stays stored with the same players, and one that has ended stays as it is.
-/

namespace Parlor.Game

/-! ## The course of a stored room -/

namespace Room

/-- A room in which somebody plays against the creator is active or has ended. -/
theorem Lawful.status_of_opponent {r : Room} (h : r.Lawful) {rival : UserId} (hrival : r.opponent = some rival) :
    r.status = .active ∨ r.status = .finished := by
  cases hstatus : r.status with
  | pending => simp [(h.vacant hstatus).opponent] at hrival
  | active => exact .inl rfl
  | finished => exact .inr rfl
  | cancelled =>
    obtain ⟨hopponent, -⟩ : r.Vacant := by simpa only [Lawful, hstatus] using h
    simp [hopponent] at hrival

/-- Whoever plays against somebody does so later on. -/
theorem Precedes.opponentOf? {r r' : Room} (h : r.Precedes r') {user other : UserId}
    (hother : r.opponentOf? user = some other) : r'.opponentOf? user = some other := by
  cases hopponent : r.opponent with
  | none => simp [Room.opponentOf?, hopponent] at hother
  | some rival =>
    rw [opponentOf?_eq_some_iff hopponent] at hother
    rwa [opponentOf?_eq_some_iff (h.opponent rival hopponent), h.creator]

/-- Each player of an active room has another one. -/
theorem Lawful.opponentOf?_of_participant {r : Room} (h : r.Lawful) (hstatus : r.status = .active) {user : UserId}
    (huser : r.isParticipant user = true) : ∃ other, r.opponentOf? user = some other := by
  obtain ⟨rival, hplay⟩ := h.inPlay hstatus
  rw [Room.isParticipant, Bool.or_eq_true, beq_iff_eq, beq_iff_eq, hplay.opponent, Option.some.injEq] at huser
  rcases huser with hcreator | hrival
  · exact ⟨rival, (opponentOf?_eq_some_iff hplay.opponent).mpr (.inl ⟨hcreator.symm, rfl⟩)⟩
  · exact ⟨r.creator, (opponentOf?_eq_some_iff hplay.opponent).mpr
      (.inr ⟨hrival ▸ hplay.distinct, hrival.symm, rfl⟩)⟩

/-- Somebody who has another player in a room is a player. -/
theorem isParticipant_of_opponentOf?_eq_some {r : Room} {user other : UserId}
    (h : r.opponentOf? user = some other) : r.isParticipant user = true := by
  cases hopponent : r.opponent with
  | none => simp [opponentOf?, hopponent] at h
  | some rival =>
    rcases (opponentOf?_eq_some_iff hopponent).mp h with ⟨rfl, -⟩ | ⟨-, rfl, -⟩
    · simp [isParticipant]
    · simp [isParticipant, hopponent]

/-- Rooms that agree up to their times have the same players. -/
theorem isParticipant_of_untimed {r r' : Room} (h : r.untimed = r'.untimed) (user : UserId) :
    r.isParticipant user = r'.isParticipant user := by
  rw [eq_of_untimed h]
  rfl

/-- In rooms that agree up to their times everybody plays against the same user. -/
theorem opponentOf?_of_untimed {r r' : Room} (h : r.untimed = r'.untimed) (user : UserId) :
    r.opponentOf? user = r'.opponentOf? user := by
  rw [eq_of_untimed h]
  rfl

/-- A join of a room that waits leads to a write. -/
theorem write?_join {r : Room} (hpending : r.status = .pending) {user : UserId} (hcreator : r.creator ≠ user)
    (data : String) : r.write? data (.join user) = some (.update (r.joinedBy user)) := by
  simp [write?, join, hpending, hcreator, become, Status.canBecome, joinedBy]

/-- A forfeit of an active room leads to a write. -/
theorem write?_forfeit {r : Room} (hactive : r.status = .active) {user winner : UserId}
    (hwinner : r.opponentOf? user = some winner) (data : String) :
    r.write? data (.forfeit user) = some (.conclude (r.wonBy winner) (.win winner user)) := by
  have hcan : r.status.canBecome .finished = true := by
    rw [hactive]
    rfl
  simp [write?, forfeit, hwinner, become, hcan, wonBy]

/-- A forfeit leads to one write, and only from an active room. -/
theorem Leads.of_forfeit {r : Room} {data : String} {user : UserId} {w : Write}
    (h : r.Leads data (.forfeit user) w) :
    ∃ winner, r.status = .active ∧ w = .conclude (r.wonBy winner) (.win winner user) := by
  cases h with
  | forfeit hstatus _ => exact ⟨_, hstatus, rfl⟩

/-- A call finds what it asks for in every row that holds the room. -/
theorem Leads.admits {r : Room} {data : String} {call : Call} {w : Write} (h : r.Leads data call w)
    {row : StoredRoom} (hrow : row.Holds r) : w.Admits row := by
  cases h with
  | join hstatus => exact hrow.status.trans hstatus
  | move hlegal => exact ⟨hrow.status.trans hlegal.active, by rw [hrow.nextTurn, hlegal.turn]; rfl⟩
  | forfeit hstatus => exact hrow.status.trans hstatus
  | cancel hstatus => exact hrow.status.trans hstatus

end Room

/-- A write is accepted by a row that it asks for. -/
theorem Write.land_of_admits {s : Store} {w : Write} {row : StoredRoom} (hrow : s.row? w.room.id = some row)
    (hadmits : w.Admits row) (winPoints : Int64) : w.land s winPoints = (w.landed s winPoints, true) := by
  have haccepted : (w.land s winPoints).2 = true := by
    cases w with
    | update room =>
      have hpending : row.status = .pending := hadmits
      simp [land, Store.updateRoom, Store.changeRow, show s.row? room.id = some row from hrow, hpending]
    | commit room user data =>
      obtain ⟨hactive, hturn⟩ : row.status = .active ∧ row.nextTurn = some user.toInt64 := hadmits
      simp [land, Store.commitMove, Store.changeRow, show s.row? room.id = some row from hrow, hactive, hturn]
    | conclude room finish =>
      have hactive : row.status = .active := hadmits
      simp [land, Store.finishRoom, Store.changeRow, show s.row? room.id = some row from hrow, hactive]
  rcases w.land_cases s winPoints with ⟨_, _, _, hland⟩ | hland
  · exact hland
  · simp [hland] at haccepted

/-- A game has started in a room. -/
def Store.Begun (s : Store) (id : RoomId) : Prop := ∃ r rival, s.Keeps id r ∧ r.opponent = some rival

namespace Traffic

/-- A stored room is lawful. -/
theorem Sound.lawful {t : Traffic} (h : t.Sound) {id : RoomId} {r : Room} (hr : t.store.Keeps id r) : r.Lawful := by
  obtain ⟨row, hrow, hholds⟩ := hr
  obtain ⟨r', hr', hlawful⟩ := h.rooms id row hrow
  exact hlawful.retime (hholds.unique hr')

/-- A stored room stays stored, with the same players. -/
theorem Sound.step_keeps {t : Traffic} (h : t.Sound) {id : RoomId} {r : Room} (hr : t.store.Keeps id r)
    (e : Step) : ∃ r', (t.step e).store.Keeps id r' ∧ r.Precedes r' := by
  cases h.step_cases e with
  | idle hrooms => exact ⟨r, hr.congr hrooms, .refl r⟩
  | created creator gameType row hstep hfits hholds hstore =>
    refine ⟨r, ?_, .refl r⟩
    rw [hstore, h.keeps_created hfits hholds, if_neg]
    · exact hr
    · rintro rfl
      obtain ⟨row', hrow', -⟩ := hr
      rw [h.numbered.row?_nextId hfits] at hrow'
      contradiction
  | sent f hstep hkeeps hstore => exact ⟨r, hstore ▸ hr, .refl r⟩
  | landed place f row hstep hflight hrow hadmits haccepted hstore =>
    have hf := List.mem_of_getElem? hflight
    by_cases hid : id = f.write.room.id
    · obtain ⟨-, hleads, hlawful, r₀, hr₀, hlawful₀, hprecedes⟩ := h.flight hf hrow
      have hnext := (hleads.lands hlawful hprecedes hlawful₀ hr₀ hadmits t.store.clock).2
      have hsame : r.untimed = r₀.untimed := hr.unique ⟨row, hid ▸ hrow, hr₀⟩
      refine ⟨f.write.room, ?_, ?_⟩
      · rw [hstore, h.landed hf hrow hadmits, if_pos hid]
      · rw [Room.eq_of_untimed hsame]
        exact ⟨hnext.id, hnext.gameType, hnext.creator, hnext.opponent⟩
    · refine ⟨r, ?_, .refl r⟩
      rw [hstore, h.landed hf hrow hadmits, if_neg hid]
      exact hr

/-- A stored room stays stored over any steps. -/
theorem Sound.run_keeps {t : Traffic} (h : t.Sound) {id : RoomId} {r : Room} (hr : t.store.Keeps id r)
    (steps : List Step) : ∃ r', (t.run steps).store.Keeps id r' ∧ r.Precedes r' := by
  induction steps generalizing t r with
  | nil => exact ⟨r, hr, .refl r⟩
  | cons e steps ih =>
    obtain ⟨r', hr', hnext⟩ := h.step_keeps hr e
    obtain ⟨r'', hr'', hlast⟩ := ih (h.step e) hr'
    exact ⟨r'', hr'', hnext.trans hlast⟩

/-- A stored room that has ended stays as it is. -/
theorem Sound.run_keeps_ended {t : Traffic} (h : t.Sound) {id : RoomId} {r : Room} (hr : t.store.Keeps id r)
    (hended : r.status.isTerminal = true) (steps : List Step) : (t.run steps).store.Keeps id r := by
  obtain ⟨row, hrow, hholds⟩ := hr
  exact ⟨row, h.ended_run hrow (hholds.status ▸ hended) steps, hholds⟩

/-- A game that has started stays one that has started. -/
theorem Sound.begun_run {t : Traffic} (h : t.Sound) {id : RoomId} (hbegun : t.store.Begun id) (steps : List Step) :
    (t.run steps).store.Begun id := by
  obtain ⟨r, rival, hr, hrival⟩ := hbegun
  obtain ⟨r', hr', hnext⟩ := h.run_keeps hr steps
  exact ⟨r', rival, hr', hnext.opponent rival hrival⟩

/-- A game that goes on has gone on, with the same players, since it started. -/
theorem Sound.active_of_run {t : Traffic} (h : t.Sound) {id : RoomId} (hbegun : t.store.Begun id)
    (steps : List Step) {r : Room} (hr : (t.run steps).store.Keeps id r) (hactive : r.status = .active) :
    ∃ r₀, t.store.Keeps id r₀ ∧ r₀.status = .active ∧ ∀ user, r₀.isParticipant user = r.isParticipant user := by
  obtain ⟨r₀, rival, hr₀, hrival⟩ := hbegun
  obtain ⟨r', hr', hnext⟩ := h.run_keeps hr₀ steps
  have hsame := hr'.unique hr
  refine ⟨r₀, hr₀, ?_, fun user => ?_⟩
  · refine ((h.lawful hr₀).status_of_opponent hrival).resolve_right fun hfinished => ?_
    have hkept := h.run_keeps_ended hr₀ (by rw [hfinished]; rfl) steps
    rw [← Room.status_of_untimed (hkept.unique hr), hfinished] at hactive
    contradiction
  · rw [← Room.isParticipant_of_untimed hsame, Room.isParticipant, Room.isParticipant, hnext.creator, hrival,
      hnext.opponent rival hrival]

/-- A forfeit that reaches the store leaves no active room. -/
theorem Sound.ended_of_forfeit {t : Traffic} (h : t.Sound) {place : Nat} {f : Flight}
    (hflight : t.flights[place]? = some f) {user : UserId} (hcall : f.call = .forfeit user) {r : Room}
    (hr : (t.step (.land place)).store.Keeps f.loaded.id r) : r.status ≠ .active := by
  have hf := List.mem_of_getElem? hflight
  obtain ⟨hlawful, r₁, ⟨row, hrow, hholds⟩, -⟩ := h.flights f hf
  have hid : f.write.room.id = f.loaded.id := ((Room.leads_of_write? f.sound).lawful hlawful).2.id
  obtain ⟨-, hleads, -, r₀, hr₀, hlawful₀, hprecedes⟩ := h.flight hf (hid.symm ▸ hrow)
  obtain ⟨winner, hloaded, hwrite⟩ := (hcall ▸ hleads).of_forfeit
  obtain ⟨rival, hplay⟩ := hlawful.inPlay hloaded
  rcases hlawful₀.status_of_opponent (hprecedes.opponent rival hplay.opponent) with hactive | hfinished
  · have hadmits : f.write.Admits row := by
      rw [hwrite]
      exact hr₀.status.trans hactive
    have hland := Write.land_of_admits (hid.symm ▸ hrow) hadmits f.winPoints
    have hstep : (t.step (.land place)).store = f.write.landed t.store f.winPoints := by
      simp only [Traffic.step, hflight, hland]
    rw [hstep, h.landed hf (hid.symm ▸ hrow) hadmits, if_pos hid.symm, hwrite] at hr
    rw [Room.status_of_untimed hr]
    simp [Write.room, Room.wonBy]
  · -- the room has ended already, and stays so
    have hkept := h.run_keeps_ended ⟨row, hrow, hr₀⟩ (by rw [hfinished]; rfl) [.land place]
    rw [Room.status_of_untimed (hr.unique hkept), hfinished]
    simp

end Traffic

/-! ## Attempts -/

namespace Store

/-- A store to which nothing is on its way, with lawful rooms in its rows. -/
def Sound (s : Store) : Prop := (Traffic.mk s []).Sound

/-- A store without rooms is sound. -/
theorem sound_empty (clock : String) : Sound { clock } := Traffic.sound_start clock

/-- The store after a call has loaded a room and made the write that it leads to. -/
def attempt (s : Store) (id : RoomId) (call : Call) (data : String) (winPoints : Int64) : Store :=
  match s.room id with
  | .ok (some r) =>
    match r.write? data call with
    | some w => (w.land s winPoints).1
    | none => s
  | .ok none | .error _ => s

/-- An attempt leaves the clock alone. -/
theorem clock_attempt (s : Store) (id : RoomId) (call : Call) (data : String) (winPoints : Int64) :
    (s.attempt id call data winPoints).clock = s.clock := by
  unfold attempt
  split
  · split
    case h_1 w _ => rcases w.land_cases s winPoints with ⟨_, _, _, hland⟩ | hland <;> simp only [hland, Write.landed]
    case h_2 => rfl
  all_goals rfl

/-- The steps of a traffic that an attempt consists of. -/
def attemptSteps (id : RoomId) (call : Call) (data : String) (winPoints : Int64) : List Step :=
  [.load id call data winPoints, .land 0]

/-- An attempt is a load and the landing of its write, with nothing else on its way. -/
theorem attempt_eq_run (s : Store) (id : RoomId) (call : Call) (data : String) (winPoints : Int64) :
    (Traffic.mk s []).run (attemptSteps id call data winPoints) = ⟨s.attempt id call data winPoints, []⟩ := by
  rw [attempt, attemptSteps, Traffic.run_cons, Traffic.run_cons, Traffic.run_nil]
  cases hroom : s.room id with
  | error fault => simp [Traffic.step, hroom]
  | ok found =>
    cases found with
    | none => simp [Traffic.step, hroom]
    | some r =>
      cases hwrite : r.write? data call with
      | none =>
        have hsend : (Traffic.mk s []).send r call data winPoints = ⟨s, []⟩ := by
          unfold Traffic.send
          split
          · rename_i w hw
            simp [hwrite] at hw
          · rfl
        simp [Traffic.step, hroom, hsend, hwrite]
      | some w =>
        have hsend : (Traffic.mk s []).step (.load id call data winPoints) =
            ⟨s, [⟨r, call, data, winPoints, w, hwrite⟩]⟩ := Traffic.step_load hroom hwrite winPoints
        rw [hsend]
        simp [Traffic.step, hwrite]

/-- A room that is created leaves the stored rooms as they are. -/
theorem Sound.createRoom_keeps {s : Store} (h : s.Sound) {id : RoomId} {r : Room} (hr : s.Keeps id r)
    (creator : UserId) (gameType : GameType) : (s.createRoom creator gameType).1.Keeps id r := by
  rcases s.createRoom_cases creator gameType with ⟨hfits, row, hholds, hstore⟩ | hstore
  · have hold : id ≠ s.nextId := by
      rintro rfl
      obtain ⟨row', hrow', -⟩ := hr
      rw [h.numbered.row?_nextId hfits] at hrow'
      contradiction
    rw [hstore, Traffic.Sound.keeps_created h hfits hholds, if_neg hold]
    exact hr
  · rwa [hstore]

/-- A room that can be loaded is stored, and is lawful. -/
theorem Sound.of_room {s : Store} (h : s.Sound) {id : RoomId} {r : Room} (hroom : s.room id = .ok (some r)) :
    s.Keeps id r ∧ r.Lawful := by
  have hkeeps : s.Keeps id r := Traffic.Sound.keeps_of_room h hroom
  exact ⟨hkeeps, Traffic.Sound.lawful h hkeeps⟩

/-- A stored room is lawful. -/
theorem Sound.lawful {s : Store} (h : s.Sound) {id : RoomId} {r : Room} (hr : s.Keeps id r) : r.Lawful :=
  Traffic.Sound.lawful h hr

/-- A stored room is found, and found to be what it is up to its times. -/
theorem Sound.room_cases {s : Store} (h : s.Sound) (id : RoomId) :
    s.room id = .ok none ∧ (∀ r, ¬ s.Keeps id r) ∨ ∃ r, s.room id = .ok (some r) ∧ s.Keeps id r ∧ r.Lawful := by
  cases hrow : s.row? id with
  | none =>
    refine .inl ⟨by rw [Store.room, hrow], fun r ⟨row, hrow', _⟩ => ?_⟩
    rw [hrow] at hrow'
    contradiction
  | some row =>
    obtain ⟨r, hr, -⟩ := h.rooms id row hrow
    have hkeeps : s.Keeps id r := ⟨row, hrow, hr⟩
    obtain ⟨r', hroom, -⟩ := hkeeps.room
    exact .inr ⟨r', hroom, h.of_room hroom⟩

/-- Tests a stored room. -/
def shows (s : Store) (id : RoomId) (test : Room → Bool) : Bool :=
  match s.room id with
  | .ok (some r) => test r
  | .ok none | .error _ => false

/-- A test of a stored room is passed by a room that is stored. -/
theorem Sound.keeps_of_shows {s : Store} (h : s.Sound) {id : RoomId} {test : Room → Bool}
    (hshows : s.shows id test = true) : ∃ r, s.Keeps id r ∧ test r = true := by
  rcases h.room_cases id with ⟨hroom, -⟩ | ⟨r, hroom, hkeeps, -⟩
  · simp [shows, hroom] at hshows
  · exact ⟨r, hkeeps, by simpa only [shows, hroom] using hshows⟩

/-- The write that a call leads to finds what it asks for, and is carried out. -/
theorem Sound.attempt_landed {s : Store} (h : s.Sound) {id : RoomId} {call : Call} {data : String} {r : Room}
    {w : Write} (hroom : s.room id = .ok (some r)) (hwrite : r.write? data call = some w) (winPoints : Int64) :
    w.room.id = id ∧ (∃ row, s.row? id = some row ∧ w.Admits row) ∧
      s.attempt id call data winPoints = w.landed s winPoints := by
  obtain ⟨hkeeps, hlawful⟩ := h.of_room hroom
  have hleads := Room.leads_of_write? hwrite
  have hwid : w.room.id = id := (hleads.lawful hlawful).2.id.trans hkeeps.id
  obtain ⟨row, hrow, hholds⟩ := hkeeps
  have hadmits := hleads.admits hholds
  refine ⟨hwid, ⟨row, hrow, hadmits⟩, ?_⟩
  simp only [Store.attempt, hroom, hwrite, Write.land_of_admits (hwid.symm ▸ hrow) hadmits winPoints]

/-- The write that a call leads to is accepted, and the store then keeps the room that was written. -/
theorem Sound.attempt_keeps {s : Store} (h : s.Sound) {id : RoomId} {call : Call} {data : String} {r : Room}
    {w : Write} (hroom : s.room id = .ok (some r)) (hwrite : r.write? data call = some w) (winPoints : Int64)
    (id' : RoomId) (r' : Room) :
    (s.attempt id call data winPoints).Keeps id' r' ↔
      if id' = id then r'.untimed = w.room.untimed else s.Keeps id' r' := by
  obtain ⟨hwid, ⟨row, hrow, hadmits⟩, hattempt⟩ := h.attempt_landed hroom hwrite winPoints
  -- the write is the only one on its way
  have hsend : (Traffic.mk s []).step (.load id call data winPoints) =
      ⟨s, [⟨r, call, data, winPoints, w, hwrite⟩]⟩ := Traffic.step_load hroom hwrite winPoints
  have hsent : (Traffic.mk s [⟨r, call, data, winPoints, w, hwrite⟩]).Sound :=
    hsend ▸ Traffic.Sound.step h (.load id call data winPoints)
  have hlanded := hsent.landed List.mem_cons_self (hwid.symm ▸ hrow) hadmits id' r'
  simpa only [hattempt, hwid] using hlanded

/-- What an attempt does to the stored rooms. -/
theorem Sound.attempt_cases {s : Store} (h : s.Sound) (id : RoomId) (call : Call) (data : String)
    (winPoints : Int64) :
    (∃ r w, s.Keeps id r ∧ r.Lawful ∧ r.Leads data call w ∧ ∀ id' r',
        (s.attempt id call data winPoints).Keeps id' r' ↔
          if id' = id then r'.untimed = w.room.untimed else s.Keeps id' r') ∨
      s.attempt id call data winPoints = s ∧
        ∀ r, s.room id = .ok (some r) → r.write? data call = none := by
  rcases h.room_cases id with ⟨hroom, -⟩ | ⟨r, hroom, hkeeps, hlawful⟩
  · exact .inr ⟨by simp [Store.attempt, hroom], by simp [hroom]⟩
  · cases hwrite : r.write? data call with
    | none =>
      refine .inr ⟨by simp [Store.attempt, hroom, hwrite], fun r' hr' => ?_⟩
      obtain rfl : r = r' := by simpa [hroom] using hr'
      exact hwrite
    | some w =>
      exact .inl ⟨r, w, hkeeps, hlawful, Room.leads_of_write? hwrite, h.attempt_keeps hroom hwrite winPoints⟩

/-- An attempt at another room leaves a stored room as it is. -/
theorem Sound.attempt_keeps_other {s : Store} (h : s.Sound) {id other : RoomId} (hother : other ≠ id) (call : Call)
    (data : String) (winPoints : Int64) (r : Room) :
    (s.attempt id call data winPoints).Keeps other r ↔ s.Keeps other r := by
  rcases h.attempt_cases id call data winPoints with ⟨_, _, _, _, _, hkeeps⟩ | ⟨hsame, -⟩
  · rw [hkeeps, if_neg hother]
  · rw [hsame]

/-- A forfeit of a player ends an active room in favour of the other one. -/
theorem Sound.attempt_forfeit {s : Store} (h : s.Sound) {id : RoomId} {r : Room} (hr : s.Keeps id r)
    (hactive : r.status = .active) {user winner : UserId} (hwinner : r.opponentOf? user = some winner)
    (data : String) (winPoints : Int64) :
    (s.attempt id (.forfeit user) data winPoints).Keeps id (r.wonBy winner) := by
  rcases h.attempt_cases id (.forfeit user) data winPoints with ⟨r₀, w, hr₀, -, hleads, hkeeps⟩ | ⟨-, hnone⟩
  · rw [hkeeps, if_pos rfl]
    have hsame := hr₀.unique hr
    rw [Room.eq_of_untimed hsame] at hleads
    cases hleads with
    | forfeit hstatus hother =>
      obtain rfl : winner = _ := Option.some.inj (hwinner.symm.trans hother)
      rfl
  · obtain ⟨r', hroom, hsame⟩ := hr.room
    have hactive' := (Room.status_of_untimed hsame).trans hactive
    have hwinner' := (Room.opponentOf?_of_untimed hsame user).trans hwinner
    have hwrite := hnone r' hroom
    rw [Room.write?_forfeit hactive' hwinner'] at hwrite
    contradiction

/-- A forfeit does nothing to a room that is not active. -/
theorem Sound.attempt_forfeit_idle {s : Store} (h : s.Sound) {id : RoomId}
    (hidle : ∀ r, s.Keeps id r → r.status ≠ .active) (user : UserId) (data : String) (winPoints : Int64) :
    s.attempt id (.forfeit user) data winPoints = s := by
  rcases h.attempt_cases id (.forfeit user) data winPoints with ⟨r, w, hr, -, hleads, -⟩ | ⟨hsame, -⟩
  · cases hleads with
    | forfeit hstatus => exact absurd hstatus (hidle r hr)
  · exact hsame

/-! ## Whatever is served -/

/-- An attempt that the access to the store may have spoilt is one that was made, or not. -/
theorem Attempted.eq_or {s s' : Store} {id : RoomId} {call : Call} {data : String} {winPoints : Int64}
    (h : s.Attempted id call data winPoints s') : s' = s ∨ s' = s.attempt id call data winPoints := by
  cases h with
  | idle => exact .inl rfl
  | landed hloaded hwrite => exact .inr (by simp only [Store.attempt, hloaded, hwrite])

/-- Whatever is served is what some steps of a traffic do that has nothing else on its way. -/
theorem Served.eq_run {s s' : Store} (h : s.Served s') : ∃ steps, (Traffic.mk s []).run steps = ⟨s', []⟩ := by
  cases h with
  | ticked clock => exact ⟨[.tick clock], rfl⟩
  | created creator gameType => exact ⟨[.create creator gameType], rfl⟩
  | attempted htold hattempt =>
    rcases hattempt.eq_or with hsame | hattempt
    · exact ⟨[], by rw [hsame, Traffic.run_nil]⟩
    · exact ⟨_, hattempt ▸ attempt_eq_run _ _ _ _ _⟩

/-- A store is sound after any steps that leave nothing on its way. -/
theorem Sound.of_run {s s' : Store} (h : s.Sound) {steps : List Step}
    (hrun : (Traffic.mk s []).run steps = ⟨s', []⟩) : s'.Sound := by
  have hsound := Traffic.Sound.run h steps
  rwa [hrun] at hsound

/-- Whatever is served keeps a store sound. -/
theorem Sound.served {s s' : Store} (h : s.Sound) (hserved : s.Served s') : s'.Sound := by
  obtain ⟨steps, hrun⟩ := hserved.eq_run
  exact h.of_run hrun

/-- Whatever is served, a stored room stays stored, with the same players. -/
theorem Sound.served_keeps {s s' : Store} (h : s.Sound) (hserved : s.Served s') {id : RoomId} {r : Room}
    (hr : s.Keeps id r) : ∃ r', s'.Keeps id r' ∧ r.Precedes r' := by
  obtain ⟨steps, hrun⟩ := hserved.eq_run
  have hkeeps := Traffic.Sound.run_keeps h hr steps
  rwa [hrun] at hkeeps

/-- Whatever is served, a stored room that has ended stays as it is. -/
theorem Sound.served_keeps_ended {s s' : Store} (h : s.Sound) (hserved : s.Served s') {id : RoomId} {r : Room}
    (hr : s.Keeps id r) (hended : r.status.isTerminal = true) : s'.Keeps id r := by
  obtain ⟨steps, hrun⟩ := hserved.eq_run
  have hkeeps := Traffic.Sound.run_keeps_ended h hr hended steps
  rwa [hrun] at hkeeps

end Store

/-- A store stays sound whatever happens. -/
theorem Site.sound_run {t : Site} (h : t.store.Sound) (happenings : List Happening) :
    (t.run happenings).store.Sound := by
  induction happenings generalizing t with
  | nil => exact h
  | cons e happenings ih => exact ih (h.served (t.meet_served e))

end Parlor.Game
