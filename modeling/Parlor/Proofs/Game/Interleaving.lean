import Parlor.Proofs.Game.Rows

/-!
# Servers that share a store

A server carries an operation out in two steps: it loads the room, and later it writes the room that
it has computed from what it loaded. Between the two the other servers may have written as well. The
traffic of all servers is a store and the writes that are on their way to it, in any number and order.

Whatever the order, every row holds a lawful room, and what a write was computed from had the same
seats. So a write that the store accepts leaves exactly the room that it carries.
-/

namespace Parlor.Game

/-! ## From a loaded room to a write -/

namespace Room

/-- The write that a call leads to, if it succeeds on the room that was loaded. -/
def write? (r : Room) (data : String) : Call → Option Write
  | .join user =>
    match r.join user with
    | (next, .ok ()) => some (.update next)
    | (_, .error _) => none
  | .move user move =>
    match r.applyMove user move with
    | (next, .ok _) => some (.commit next user data)
    | (_, .error _) => none
  | .forfeit absent =>
    match r.forfeit absent with
    | (next, .ok finish) => some (.conclude next finish)
    | (_, .error _) => none
  | .cancel =>
    match r.cancel with
    | (next, .ok ()) => some (.update next)
    | (_, .error _) => none

/-- What the write of a call is, and what the call has found in the room that was loaded. -/
inductive Leads (r : Room) (data : String) : Call → Write → Prop
  | join {user : UserId} (status : r.status = .pending) (creator : r.creator ≠ user) :
    r.Leads data (.join user) (.update (r.joinedBy user))
  | move {user other : UserId} {move : Move} {m : Marker} {c : Cell} (legal : r.LegalMove user move m other c) :
    r.Leads data (.move user move) (.commit (r.afterMove user other c m).1 user data)
  | forfeit {absent winner : UserId} (status : r.status = .active) (other : r.opponentOf? absent = some winner) :
    r.Leads data (.forfeit absent) (.conclude (r.wonBy winner) (.win winner absent))
  | cancel (status : r.status = .pending) : r.Leads data .cancel (.update { r with status := .cancelled })

/-- A call leads to a write in one way. -/
theorem leads_of_write? {r : Room} {data : String} {call : Call} {w : Write}
    (h : r.write? data call = some w) : r.Leads data call w := by
  cases call with
  | join user =>
    rcases r.join_cases user with ⟨hstatus, hcreator, hjoin⟩ | ⟨f, hjoin⟩
    · simp only [write?, hjoin, Option.some.injEq] at h
      exact h ▸ .join hstatus hcreator
    · simp [write?, hjoin] at h
  | move user move =>
    rcases r.applyMove_cases user move with ⟨m, other, c, hlegal, hmove⟩ | ⟨f, hmove⟩
    · simp only [write?, hmove, Option.some.injEq] at h
      exact h ▸ .move hlegal
    · simp [write?, hmove] at h
  | forfeit absent =>
    rcases r.forfeit_cases absent with ⟨winner, hstatus, hother, hforfeit⟩ | ⟨f, hforfeit⟩
    · simp only [write?, hforfeit, Option.some.injEq] at h
      exact h ▸ .forfeit hstatus hother
    · simp [write?, hforfeit] at h
  | cancel =>
    rcases r.cancel_cases with ⟨hstatus, hcancel⟩ | ⟨f, hcancel⟩
    · simp only [write?, hcancel, Option.some.injEq] at h
      exact h ▸ .cancel hstatus
    · simp [write?, hcancel] at h

/-- A room was loaded before another state of the same room: whoever sat in it sits in it still. -/
structure Precedes (old new : Room) : Prop where
  id : new.id = old.id
  gameType : new.gameType = old.gameType
  creator : new.creator = old.creator
  opponent : ∀ rival, old.opponent = some rival → new.opponent = some rival

/-- A room precedes itself, whenever it is loaded. -/
theorem Precedes.refl (r : Room) : r.Precedes r := ⟨rfl, rfl, rfl, fun _ h => h⟩

/-- What precedes a room precedes what that room precedes. -/
theorem Precedes.trans {r r' r'' : Room} (h : r.Precedes r') (h' : r'.Precedes r'') : r.Precedes r'' :=
  ⟨h'.id.trans h.id, h'.gameType.trans h.gameType, h'.creator.trans h.creator,
    fun rival hrival => h'.opponent rival (h.opponent rival hrival)⟩

/-- The room that a write carries is a lawful state of the room that was loaded. -/
theorem Leads.lawful {r : Room} {data : String} {call : Call} {w : Write} (h : r.Leads data call w)
    (hr : r.Lawful) : w.room.Lawful ∧ r.Precedes w.room := by
  cases h with
  | join hstatus hcreator =>
    refine ⟨hr.joinedBy hstatus hcreator, rfl, rfl, rfl, fun rival hrival => ?_⟩
    rw [(hr.vacant hstatus).opponent] at hrival
    contradiction
  | move hlegal =>
    obtain ⟨hid, hgame, hcreator, hopponent, -, -⟩ := r.afterMove_frame _ _ _ _
    exact ⟨(hr.afterMove hlegal).1, hid, hgame, hcreator, fun rival hrival => hopponent.trans hrival⟩
  | forfeit hstatus hother => exact ⟨(hr.wonBy hstatus hother).1, rfl, rfl, rfl, fun _ hrival => hrival⟩
  | cancel hstatus =>
    obtain ⟨hopponent, hwinner, hdraw, hboard, hturn⟩ := hr.vacant hstatus
    exact ⟨⟨hopponent, hwinner, hdraw, hboard, hturn⟩, rfl, rfl, rfl, fun _ hrival => hrival⟩

/-- A write counts what its room counts for. -/
theorem Leads.result?_eq {r : Room} {data : String} {call : Call} {w : Write} (h : r.Leads data call w)
    (hr : r.Lawful) : w.result? = w.room.finish? := by
  cases h with
  | join => simp [Write.result?, Write.room, Room.finish?, Room.joinedBy]
  | move => rfl
  | forfeit hstatus hother => exact (hr.wonBy hstatus hother).2.2.2.symm
  | cancel => simp [Write.result?, Write.room, Room.finish?]

/-- A row that accepts a write holds afterwards the room that the write carries, a later state of its room. -/
theorem Leads.lands {loaded r : Room} {data : String} {call : Call} {w : Write}
    (h : loaded.Leads data call w) (hloaded : loaded.Lawful) (hprecedes : loaded.Precedes r) (hr : r.Lawful)
    {row : StoredRoom} (hrow : row.Holds r) (hadmits : w.Admits row) (clock : String) :
    (w.change clock row).Holds w.room ∧ r.Precedes w.room := by
  obtain ⟨-, hafter⟩ := h.lawful hloaded
  have hid := hafter.id.trans hprecedes.id.symm
  have hgame := hafter.gameType.trans hprecedes.gameType.symm
  have hcreator := hafter.creator.trans hprecedes.creator.symm
  -- nobody has been seated while the stored room waits
  have hvacant (hpending : row.status = .pending) (rival : UserId) (hrival : r.opponent = some rival) :
      w.room.opponent = some rival := by
    rw [(hr.vacant (hrow.status.symm.trans hpending)).opponent] at hrival
    contradiction
  -- the opponent of an active room was seated before it was loaded
  have hseated (hactive : loaded.status = .active) : w.room.opponent = r.opponent := by
    obtain ⟨rival, hplay⟩ := hloaded.inPlay hactive
    rw [hafter.opponent rival hplay.opponent, hprecedes.opponent rival hplay.opponent]
  cases h with
  | join => exact ⟨hrow.overwriteSeated hid hgame hcreator clock, hid, hgame, hcreator, hvacant hadmits⟩
  | move hlegal =>
    exact ⟨hrow.overwrite hid hgame hcreator (hseated hlegal.active) clock, hid, hgame, hcreator,
      fun rival hrival => (hseated hlegal.active).trans hrival⟩
  | forfeit hstatus =>
    exact ⟨hrow.overwrite hid hgame hcreator (hseated hstatus) clock, hid, hgame, hcreator,
      fun rival hrival => (hseated hstatus).trans hrival⟩
  | cancel => exact ⟨hrow.overwriteSeated hid hgame hcreator clock, hid, hgame, hcreator, hvacant hadmits⟩

end Room

/-! ## Traffic -/

/-- A write on its way to the store, with the room that it was computed from. -/
structure Flight where
  loaded : Room
  call : Call
  data : String
  winPoints : Int64
  write : Write
  sound : loaded.write? data call = some write

/-- A store and the writes on their way to it. -/
structure Traffic where
  store : Store
  flights : List Flight := []

/-- What the servers and the clock may do. -/
inductive Step where
  | create (creator : UserId) (gameType : GameType)
  /-- A server loads a room for a call, and sends off the write that the call leads to. -/
  | load (id : RoomId) (call : Call) (data : String) (winPoints : Int64)
  /-- One of the writes on their way arrives. -/
  | land (place : Nat)
  | tick (clock : String)

namespace Traffic

/-- An empty store and no writes. -/
def start (clock : String) : Traffic := { store := { clock } }

/-- Sends off the write that a call leads to. -/
def send (t : Traffic) (r : Room) (call : Call) (data : String) (winPoints : Int64) : Traffic :=
  match h : r.write? data call with
  | some write => { t with flights := t.flights ++ [⟨r, call, data, winPoints, write, h⟩] }
  | none => t

/-- What a step does. -/
def step (t : Traffic) : Step → Traffic
  | .create creator gameType => { t with store := (t.store.createRoom creator gameType).1 }
  | .load id call data winPoints =>
    match t.store.room id with
    | .ok (some r) => t.send r call data winPoints
    | .ok none | .error _ => t
  | .land place =>
    match t.flights[place]? with
    | some f => { store := (f.write.land t.store f.winPoints).1, flights := t.flights.eraseIdx place }
    | none => t
  | .tick clock => { t with store := { t.store with clock } }

/-- What several steps do, one after the other. -/
def run (t : Traffic) (steps : List Step) : Traffic := steps.foldl step t

@[simp] theorem run_nil (t : Traffic) : t.run [] = t := rfl

@[simp] theorem run_cons (t : Traffic) (e : Step) (steps : List Step) :
    t.run (e :: steps) = (t.step e).run steps := rfl

/-- Steps after other steps go on from where those have led. -/
theorem run_append (t : Traffic) (before after : List Step) : t.run (before ++ after) = (t.run before).run after :=
  List.foldl_append

/-- A load for a call that leads to a write sends the write off. -/
theorem step_load {t : Traffic} {id : RoomId} {r : Room} (hroom : t.store.room id = .ok (some r)) {data : String}
    {call : Call} {w : Write} (hwrite : r.write? data call = some w) (winPoints : Int64) :
    t.step (.load id call data winPoints) =
      { t with flights := t.flights ++ [⟨r, call, data, winPoints, w, hwrite⟩] } := by
  simp only [step, hroom]
  unfold send
  split
  case h_1 write hwrite' =>
    obtain rfl : write = w := by simpa [hwrite'] using hwrite
    rfl
  case h_2 hnone => simp [hnone] at hwrite

end Traffic

/-! ## What holds in any order -/

/-- What is found under an identifier depends on the rows only. -/
theorem Store.row?_congr {s s' : Store} (h : s'.rooms = s.rooms) (id : RoomId) : s'.row? id = s.row? id := by
  rw [row?, row?, h]

/-- A room is stored under an identifier. -/
def Store.Keeps (s : Store) (id : RoomId) (r : Room) : Prop := ∃ row, s.row? id = some row ∧ row.Holds r

namespace Store

/-- A room is stored under its own identifier. -/
theorem Keeps.id {s : Store} {id : RoomId} {r : Room} (h : s.Keeps id r) : r.id = id := by
  obtain ⟨row, hrow, hr⟩ := h
  exact toInt64_injective (hr.id.symm.trans (row?_id hrow))

/-- One room is stored under an identifier. -/
theorem Keeps.unique {s : Store} {id : RoomId} {r r' : Room} (h : s.Keeps id r) (h' : s.Keeps id r') :
    r.untimed = r'.untimed := by
  obtain ⟨row, hrow, hr⟩ := h
  obtain ⟨row', hrow', hr'⟩ := h'
  rw [hrow, Option.some.injEq] at hrow'
  exact hr.unique (hrow' ▸ hr')

/-- A room that is stored can be loaded, with the times of its row. -/
theorem Keeps.room {s : Store} {id : RoomId} {r : Room} (h : s.Keeps id r) :
    ∃ r', s.room id = .ok (some r') ∧ r'.untimed = r.untimed := by
  obtain ⟨row, hrow, hr⟩ := h
  refine ⟨{ r with createdAt := some row.createdAt, updatedAt := some row.updatedAt }, ?_, rfl⟩
  rw [Store.room, hrow]
  simp only [hr.load]
  rfl

/-- What is stored depends on the rows only. -/
theorem Keeps.congr {s s' : Store} {id : RoomId} {r : Room} (h : s.Keeps id r) (hrooms : s'.rooms = s.rooms) :
    s'.Keeps id r := by rwa [Keeps, row?_congr hrooms]

/-- A room that was loaded is stored. -/
theorem Keeps.of_room {s : Store} {id : RoomId} {r r' : Room} (h : s.Keeps id r)
    (hroom : s.room id = .ok (some r')) : s.Keeps id r' := by
  obtain ⟨row, hrow, hr⟩ := h
  rw [Store.room, hrow] at hroom
  simp only [hr.load, Functor.map, Except.map, Except.ok.injEq, Option.some.injEq] at hroom
  exact ⟨row, hrow, hr.retime (by rw [← hroom]; rfl)⟩

end Store

namespace Traffic

/-- Every row holds a lawful room, and every write was computed from an earlier state of its room. -/
structure Sound (t : Traffic) : Prop where
  numbered : t.store.Numbered
  rooms : ∀ id row, t.store.row? id = some row → ∃ r, row.Holds r ∧ r.Lawful
  flights : ∀ f ∈ t.flights, f.loaded.Lawful ∧ ∃ r, t.store.Keeps f.loaded.id r ∧ f.loaded.Precedes r

/-- What a step does to the store and to the writes on their way. -/
inductive Change (t : Traffic) (e : Step) (t' : Traffic) : Prop
  /-- Nothing that is stored changes, and no write is sent off. -/
  | idle (rooms : t'.store.rooms = t.store.rooms) (moves : t'.store.moves = t.store.moves)
      (scores : t'.store.scores = t.store.scores) (flights : ∀ f ∈ t'.flights, f ∈ t.flights)
      (refused : ∀ place f, e = .land place → t.flights[place]? = some f →
        (f.write.land t.store f.winPoints).2 = false)
  /-- A room is appended. -/
  | created (creator : UserId) (gameType : GameType) (row : StoredRoom) (step : e = .create creator gameType)
      (fits : t.store.rooms.length < Store.roomLimit)
      (holds : row.Holds (.newPending t.store.nextId creator gameType))
      (store : t'.store = { t.store with rooms := t.store.rooms ++ [row] }) (flights : t'.flights = t.flights)
  /-- A write is sent off that was computed from the stored room. -/
  | sent (f : Flight) (step : e = .load f.loaded.id f.call f.data f.winPoints)
      (keeps : t.store.Keeps f.loaded.id f.loaded) (store : t'.store = t.store)
      (flights : t'.flights = t.flights ++ [f])
  /-- A write is accepted. -/
  | landed (place : Nat) (f : Flight) (row : StoredRoom) (step : e = .land place)
      (flight : t.flights[place]? = some f) (row?_eq : t.store.row? f.write.room.id = some row)
      (admits : f.write.Admits row) (accepted : (f.write.land t.store f.winPoints).2 = true)
      (store : t'.store = f.write.landed t.store f.winPoints) (flights : ∀ g ∈ t'.flights, g ∈ t.flights)

/-- A room that can be loaded is stored. -/
theorem Sound.keeps_of_room {t : Traffic} (h : t.Sound) {id : RoomId} {r : Room}
    (hroom : t.store.room id = .ok (some r)) : t.store.Keeps id r := by
  cases hrow : t.store.row? id with
  | none => simp [Store.room, hrow] at hroom
  | some row =>
    obtain ⟨r', hr', -⟩ := h.rooms id row hrow
    exact Store.Keeps.of_room ⟨row, hrow, hr'⟩ hroom

/-- What each step can do. -/
theorem Sound.step_cases {t : Traffic} (h : t.Sound) (e : Step) : t.Change e (t.step e) := by
  cases e with
  | create creator gameType =>
    rcases t.store.createRoom_cases creator gameType with ⟨hfits, row, hrow, hstore⟩ | hstore
    · exact .created creator gameType row rfl hfits hrow hstore rfl
    · have hstep : t.step (.create creator gameType) = t := by rw [step, hstore]
      rw [hstep]
      exact .idle rfl rfl rfl (fun _ hf => hf) (by simp)
  | load id call data winPoints =>
    rw [step]
    split
    case h_1 r hroom =>
      unfold send
      split
      case h_1 write hwrite =>
        have hkeeps := h.keeps_of_room hroom
        exact .sent ⟨r, call, data, winPoints, write, hwrite⟩ (by rw [hkeeps.id]) (by rwa [hkeeps.id]) rfl rfl
      case h_2 => exact .idle rfl rfl rfl (fun _ hf => hf) (by simp)
    case h_2 => exact .idle rfl rfl rfl (fun _ hf => hf) (by simp)
    case h_3 => exact .idle rfl rfl rfl (fun _ hf => hf) (by simp)
  | land place =>
    rw [step]
    split
    case h_1 f hf =>
      have hsub : ∀ g ∈ t.flights.eraseIdx place, g ∈ t.flights := fun g hg => List.mem_of_mem_eraseIdx hg
      rcases f.write.land_cases t.store f.winPoints with ⟨row, hrow, hadmits, hland⟩ | hland
      · exact .landed place f row rfl hf hrow hadmits (by rw [hland]) (by rw [hland]) hsub
      · refine .idle (by rw [hland]) (by rw [hland]) (by rw [hland]) hsub ?_
        rintro place' g ⟨rfl⟩ hg
        rw [hf, Option.some.injEq] at hg
        rw [← hg, hland]
    case h_2 hnone =>
      refine .idle rfl rfl rfl (fun _ hf => hf) ?_
      rintro place' g ⟨rfl⟩ hg
      rw [hnone] at hg
      contradiction
  | tick clock => exact .idle rfl rfl rfl (fun _ hf => hf) (by simp)

/-- A write that is on its way was computed from an earlier state of the room in the row that it finds. -/
theorem Sound.flight {t : Traffic} (h : t.Sound) {f : Flight} (hf : f ∈ t.flights) {row : StoredRoom}
    (hrow : t.store.row? f.write.room.id = some row) :
    f.write.room.id = f.loaded.id ∧ f.loaded.Leads f.data f.call f.write ∧ f.loaded.Lawful ∧
      ∃ r, row.Holds r ∧ r.Lawful ∧ f.loaded.Precedes r := by
  have hleads := Room.leads_of_write? f.sound
  obtain ⟨hlawful, r, ⟨row', hrow', hr⟩, hprecedes⟩ := h.flights f hf
  have hid := (hleads.lawful hlawful).2.id
  rw [hid, hrow', Option.some.injEq] at hrow
  obtain ⟨r', hr', hlawful'⟩ := h.rooms _ _ hrow'
  exact ⟨hid, hleads, hlawful, r, hrow ▸ hr, hlawful'.retime (hr.unique hr'), hprecedes⟩

/-- An accepted write leaves the room that it carries, and every other room as it was. -/
theorem Sound.landed {t : Traffic} (h : t.Sound) {f : Flight} (hf : f ∈ t.flights) {row : StoredRoom}
    (hrow : t.store.row? f.write.room.id = some row) (hadmits : f.write.Admits row) (id : RoomId) (r : Room) :
    (f.write.landed t.store f.winPoints).Keeps id r ↔
      if id = f.write.room.id then r.untimed = f.write.room.untimed else t.store.Keeps id r := by
  obtain ⟨-, hleads, hlawful, r₀, hr₀, hlawful₀, hprecedes⟩ := h.flight hf hrow
  obtain ⟨hholds, -⟩ := hleads.lands hlawful hprecedes hlawful₀ hr₀ hadmits t.store.clock
  unfold Store.Keeps
  rw [Write.row?_landed]
  by_cases hid : id = f.write.room.id
  · subst hid
    simp only [hrow, Option.map_some, if_true, Option.some.injEq, exists_eq_left']
    exact ⟨fun hr => hr.unique hholds, fun hsame => hholds.retime hsame⟩
  · simp only [if_neg hid, Option.map_id']

/-- A room that is created is stored under the next identifier, and every other room as it was. -/
theorem Sound.keeps_created {t : Traffic} (h : t.Sound) {creator : UserId} {gameType : GameType} {row : StoredRoom}
    (hfits : t.store.rooms.length < Store.roomLimit)
    (hholds : row.Holds (.newPending t.store.nextId creator gameType)) (id : RoomId) (r : Room) :
    { t.store with rooms := t.store.rooms ++ [row] }.Keeps id r ↔
      if id = t.store.nextId then r.untimed = (Room.newPending t.store.nextId creator gameType).untimed
      else t.store.Keeps id r := by
  unfold Store.Keeps
  rw [Store.row?_append h.numbered hfits hholds.id]
  by_cases hid : id = t.store.nextId
  · simp only [if_pos hid, Option.some.injEq, exists_eq_left']
    exact ⟨fun hr => hr.unique hholds, fun hsame => hholds.retime hsame⟩
  · simp only [if_neg hid]

/-- Creating a room keeps the traffic sound. -/
theorem Sound.created {t t' : Traffic} (h : t.Sound) {creator : UserId} {gameType : GameType} {row : StoredRoom}
    (hfits : t.store.rooms.length < Store.roomLimit)
    (hholds : row.Holds (.newPending t.store.nextId creator gameType))
    (hstore : t'.store = { t.store with rooms := t.store.rooms ++ [row] }) (hflights : t'.flights = t.flights) :
    t'.Sound := by
  refine ⟨h.numbered.append hholds.id hfits (by rw [hstore]), fun id row' hrow' => ?_, fun f hf => ?_⟩
  · rw [hstore, Store.row?_append h.numbered hfits hholds.id] at hrow'
    split at hrow'
    · rw [Option.some.injEq] at hrow'
      exact ⟨_, hrow' ▸ hholds, Room.lawful_newPending _ _ _⟩
    · exact h.rooms id row' hrow'
  · obtain ⟨hlawful, r, hr, hprecedes⟩ := h.flights f (hflights ▸ hf)
    have hold : f.loaded.id ≠ t.store.nextId := by
      intro hid
      obtain ⟨row', hrow', -⟩ := hr
      rw [hid, h.numbered.row?_nextId hfits] at hrow'
      contradiction
    refine ⟨hlawful, r, ?_, hprecedes⟩
    rw [hstore, h.keeps_created hfits hholds, if_neg hold]
    exact hr

/-- Sending off a write that was computed from the stored room keeps the traffic sound. -/
theorem Sound.sent {t t' : Traffic} (h : t.Sound) {f : Flight} (hkeeps : t.store.Keeps f.loaded.id f.loaded)
    (hstore : t'.store = t.store) (hflights : t'.flights = t.flights ++ [f]) : t'.Sound := by
  refine ⟨hstore ▸ h.numbered, fun id row hrow => h.rooms id row (hstore ▸ hrow), fun g hg => ?_⟩
  rw [hflights] at hg
  rw [hstore]
  rcases List.mem_append.mp hg with hg | hg
  · exact h.flights g hg
  · rw [List.mem_singleton.mp hg]
    obtain ⟨row, hrow, hr⟩ := hkeeps
    obtain ⟨r, hr', hlawful⟩ := h.rooms _ _ hrow
    exact ⟨hlawful.retime (hr.unique hr'), f.loaded, ⟨row, hrow, hr⟩, .refl _⟩

/-- An accepted write keeps the traffic sound. -/
theorem Sound.written {t t' : Traffic} (h : t.Sound) {f : Flight} (hf : f ∈ t.flights) {row : StoredRoom}
    (hrow : t.store.row? f.write.room.id = some row) (hadmits : f.write.Admits row)
    (hstore : t'.store = f.write.landed t.store f.winPoints) (hflights : ∀ g ∈ t'.flights, g ∈ t.flights) :
    t'.Sound := by
  obtain ⟨hid, hleads, hlawful, r, hr, hlawful', hprecedes⟩ := h.flight hf hrow
  obtain ⟨hholds, hnext⟩ := hleads.lands hlawful hprecedes hlawful' hr hadmits t.store.clock
  have hkeeps (id : RoomId) (r : Room) := h.landed hf hrow hadmits id r
  rw [← hstore] at hkeeps
  refine ⟨h.numbered.rewrite (fun row => f.write.change_id t.store.clock row) (by rw [hstore]; rfl),
    fun id row' hrow' => ?_, fun g hg => ?_⟩
  · rw [hstore, Write.row?_landed] at hrow'
    cases hold : t.store.row? id with
    | none => simp [hold] at hrow'
    | some old =>
      rw [hold, Option.map_some, Option.some.injEq] at hrow'
      by_cases hsame : id = f.write.room.id
      · rw [if_pos hsame] at hrow'
        rw [hsame, hrow, Option.some.injEq] at hold
        exact ⟨f.write.room, hrow' ▸ hold ▸ hholds, (hleads.lawful hlawful).1⟩
      · rw [if_neg hsame] at hrow'
        exact hrow' ▸ h.rooms id old hold
  · obtain ⟨hlawful'', r'', hr'', hprecedes''⟩ := h.flights g (hflights g hg)
    refine ⟨hlawful'', ?_⟩
    by_cases hsame : g.loaded.id = f.write.room.id
    · refine ⟨f.write.room, (hkeeps _ _).mpr (by rw [if_pos hsame]), ?_⟩
      have huntimed := Store.Keeps.unique (hsame ▸ hr'') ⟨row, hrow, hr⟩
      have hr''r : r''.Precedes r := by
        rw [Room.eq_of_untimed huntimed]
        exact ⟨rfl, rfl, rfl, fun _ h => h⟩
      exact hprecedes''.trans (hr''r.trans hnext)
    · exact ⟨r'', (hkeeps _ _).mpr (by rwa [if_neg hsame]), hprecedes''⟩

/-- Every step keeps the traffic sound. -/
theorem Sound.step {t : Traffic} (h : t.Sound) (e : Step) : (t.step e).Sound := by
  cases h.step_cases e with
  | idle hrooms hmoves hscores hflights hrefused =>
    have hnumbered : (t.step e).store.Numbered := ⟨by rw [hrooms, h.numbered.ids], hrooms ▸ h.numbered.fits⟩
    refine ⟨hnumbered, fun id row hrow => ?_, fun f hf => ?_⟩
    · exact h.rooms id row (by rwa [Store.row?_congr hrooms] at hrow)
    · obtain ⟨hlawful, r, hr, hprecedes⟩ := h.flights f (hflights f hf)
      exact ⟨hlawful, r, hr.congr hrooms, hprecedes⟩
  | created creator gameType row hstep hfits hholds hstore hflights => exact h.created hfits hholds hstore hflights
  | sent f hstep hkeeps hstore hflights => exact h.sent hkeeps hstore hflights
  | landed place f row hstep hflight hrow hadmits haccepted hstore hflights =>
    exact h.written (List.mem_of_getElem? hflight) hrow hadmits hstore hflights

/-- The traffic is sound at the start. -/
theorem sound_start (clock : String) : (start clock).Sound :=
  ⟨⟨rfl, Nat.zero_le _⟩, fun _ _ h => by simp [start, Store.row?] at h, fun _ h => by simp [start] at h⟩

/-- The traffic is sound after any steps. -/
theorem Sound.run {t : Traffic} (h : t.Sound) (steps : List Step) : (t.run steps).Sound := by
  induction steps generalizing t with
  | nil => exact h
  | cons e steps ih => exact ih (h.step e)

end Traffic

end Parlor.Game
