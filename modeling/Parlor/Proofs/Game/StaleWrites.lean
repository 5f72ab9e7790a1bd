import Parlor.Proofs.Game.Interleaving

/-!
# Stale writes

The store accepts a write for the status and the turn of the stored room, and does not look at its
board. A write that was computed before other moves were committed can come when it is the same
player's turn again, and a forfeit at any time before the end: then the board that it carries takes
the place of the stored one, and the moves in between are gone from it, though not from the log.

A write keeps the moves exactly if the stored board is still the one that it was computed from. So the
markers on a board are as many as the moves in its log exactly as long as no stale write was accepted.
-/

namespace Parlor.Game

namespace Store

/-- The board that is stored under an identifier. -/
def board? (s : Store) (id : RoomId) : Option Board :=
  match s.room id with
  | .ok (some r) => some r.board
  | .ok none | .error _ => none

/-- The board of a stored room is stored. -/
theorem Keeps.board? {s : Store} {id : RoomId} {r : Room} (h : s.Keeps id r) : s.board? id = some r.board := by
  obtain ⟨r', hroom, hsame⟩ := h.room
  rw [Store.board?, hroom]
  have hboard : r'.untimed.board = r.untimed.board := congrArg Room.board hsame
  exact congrArg some hboard

/-- As many moves are loaded as are logged. -/
theorem length_movesOf (s : Store) (id : RoomId) : (s.movesOf id).length = (s.moveRows id).length := by
  rw [movesOf, List.length_map, List.length_mergeSort]

end Store

/-- The stored board is no longer the one that a write was computed from. -/
def Flight.Stale (s : Store) (f : Flight) : Prop := s.board? f.loaded.id ≠ some f.loaded.board

namespace Traffic

/-- A step lets a stale write of a room through. -/
def AcceptsStale (t : Traffic) (id : RoomId) : Step → Prop
  | .land place =>
    ∃ f, t.flights[place]? = some f ∧ f.loaded.id = id ∧ (f.write.land t.store f.winPoints).2 = true ∧
      f.Stale t.store
  | .create _ _ | .load _ _ _ _ | .tick _ => False

/-- No step lets a stale write of a room through. -/
def NeverStale (t : Traffic) (id : RoomId) : List Step → Prop
  | [] => True
  | e :: steps => ¬ t.AcceptsStale id e ∧ (t.step e).NeverStale id steps

/-! ## One write -/

/-- A move that is accepted adds its own marker to the stored board, and nothing else, unless it is stale. -/
theorem Sound.commit_adds_marker_iff {t : Traffic} (h : t.Sound) {f : Flight} (hf : f ∈ t.flights)
    {user : UserId} {move : Move} (hcall : f.call = .move user move)
    (hland : (f.write.land t.store f.winPoints).2 = true) :
    ∃ before m other c, t.store.board? f.loaded.id = some before ∧ f.loaded.LegalMove user move m other c ∧
      (before.get c = none ∧
          (f.write.land t.store f.winPoints).1.board? f.loaded.id = some (before.set c (some m)) ↔
        ¬ f.Stale t.store) := by
  rcases f.write.land_cases t.store f.winPoints with ⟨row, hrow, hadmits, hlanded⟩ | hrefused
  · obtain ⟨hid, hleads, hlawful, r, hr, -, -⟩ := h.flight hf hrow
    have hafter : (f.write.landed t.store f.winPoints).Keeps f.loaded.id f.write.room :=
      (h.landed hf hrow hadmits _ _).mpr (by rw [if_pos hid.symm])
    have hbefore := Store.Keeps.board? ⟨row, hid ▸ hrow, hr⟩
    have hboard := hafter.board?
    rw [hlanded]
    unfold Flight.Stale
    rw [hbefore, hboard]
    generalize f.write = w at hleads
    rw [hcall] at hleads
    cases hleads with | @move _ other _ m c hlegal =>
    refine ⟨r.board, m, other, c, rfl, hlegal, ?_⟩
    have hset : (Write.commit (f.loaded.afterMove user other c m).1 user f.data).room.board =
        f.loaded.board.set c (some m) := (f.loaded.afterMove_frame user other c m).2.2.2.2.1
    rw [hset, Option.some.injEq, ne_eq, Option.some.injEq, not_not]
    constructor
    · rintro ⟨hfree, hsame⟩
      exact (Board.set_free_injective _ _ c (some m) hlegal.free hfree hsame).symm
    · intro hsame
      rw [hsame]
      exact ⟨hlegal.free, rfl⟩
  · rw [hrefused] at hland
    contradiction

/-- A forfeit that is accepted leaves the stored board alone, unless it is stale. -/
theorem Sound.conclude_keeps_board_iff {t : Traffic} (h : t.Sound) {f : Flight} (hf : f ∈ t.flights)
    {absent : UserId} (hcall : f.call = .forfeit absent)
    (hland : (f.write.land t.store f.winPoints).2 = true) :
    (f.write.land t.store f.winPoints).1.board? f.loaded.id = t.store.board? f.loaded.id ↔
      ¬ f.Stale t.store := by
  rcases f.write.land_cases t.store f.winPoints with ⟨row, hrow, hadmits, hlanded⟩ | hrefused
  · obtain ⟨hid, hleads, hlawful, r, hr, -, -⟩ := h.flight hf hrow
    have hafter : (f.write.landed t.store f.winPoints).Keeps f.loaded.id f.write.room :=
      (h.landed hf hrow hadmits _ _).mpr (by rw [if_pos hid.symm])
    have hboard := hafter.board?
    rw [hlanded, hboard]
    unfold Flight.Stale
    generalize f.write = w at hleads
    rw [hcall] at hleads
    cases hleads
    rw [ne_eq, not_not, eq_comm]
    rfl
  · rw [hrefused] at hland
    contradiction

/-! ## All writes -/

/--
The markers on the stored board are no more than the moves in the log, and as many exactly if all writes
were fresh so far. The same holds of what the writes on their way were computed from, while the stored
room can still change, and of the boards with as many markers as there are moves none but the stored one.
-/
structure Accounted (t : Traffic) (id : RoomId) (fresh : Prop) : Prop where
  absent : t.store.row? id = none → t.store.moveRows id = [] ∧ fresh
  stored : ∀ r, t.store.Keeps id r →
    r.board.filled ≤ (t.store.moveRows id).length ∧ (r.board.filled = (t.store.moveRows id).length ↔ fresh)
  aloft : ∀ r, t.store.Keeps id r → r.status = .pending ∨ r.status = .active →
    ∀ f ∈ t.flights, f.loaded.id = id → f.loaded.board.filled ≤ (t.store.moveRows id).length ∧
      (f.loaded.board.filled = (t.store.moveRows id).length → f.loaded.board = r.board)

/-- A write adds as many markers to the board as moves to the log. -/
theorem markers_of_write {r : Room} {data : String} {call : Call} {w : Write} (h : r.Leads data call w)
    (s : Store) : w.room.board.filled = r.board.filled + (w.entries s).length := by
  cases h with
  | @move user other move m c hlegal =>
    change (r.afterMove user other c m).1.board.filled = r.board.filled + 1
    rw [(r.afterMove_frame user other c m).2.2.2.2.1, Board.filled_set_free _ _ _ hlegal.free]
  | join | forfeit | cancel => rfl

/-- A write without a move leaves the board of a room that can still change as it was. -/
theorem board_of_write {loaded r : Room} {data : String} {call : Call} {w : Write} (h : loaded.Leads data call w)
    (hloaded : loaded.Lawful) (hr : r.Lawful) {row : StoredRoom} (hrow : row.Holds r) (hadmits : w.Admits row)
    {s : Store} (hmoves : w.entries s = []) (hlive : w.room.status = .pending ∨ w.room.status = .active) :
    w.room.board = r.board := by
  have hvacant (hpending : row.status = .pending) : r.board = .empty :=
    (hr.vacant (hrow.status.symm.trans hpending)).board
  cases h with
  | join hstatus => exact (hloaded.vacant hstatus).board.trans (hvacant hadmits).symm
  | move => exact absurd hmoves (List.cons_ne_nil _ _)
  | forfeit => exact absurd hlive (by simp [Write.room, Room.wonBy])
  | cancel hstatus => exact (hloaded.vacant hstatus).board.trans (hvacant hadmits).symm

/-- An accepted write keeps the account of its room, which is exact afterwards if the write was fresh. -/
theorem Accounted.landed {t : Traffic} (hsound : t.Sound) {id : RoomId} {fresh : Prop} (h : t.Accounted id fresh)
    {f : Flight} (hf : f ∈ t.flights) {row : StoredRoom} (hrow : t.store.row? f.write.room.id = some row)
    (hadmits : f.write.Admits row) (hid : id = f.write.room.id) {t' : Traffic}
    (hstore : t'.store = f.write.landed t.store f.winPoints) (hflights : ∀ g ∈ t'.flights, g ∈ t.flights) :
    t'.Accounted id (fresh ∧ ¬ f.Stale t.store) := by
  obtain ⟨hloaded, hleads, hlawful, r, hr, hlawful', -⟩ := hsound.flight hf hrow
  have hkeeps : t.store.Keeps id r := ⟨row, by rw [hid, hrow], hr⟩
  have hlive : r.status = .pending ∨ r.status = .active := hr.status ▸ hadmits.live
  obtain ⟨hle, hiff⟩ := h.stored r hkeeps
  obtain ⟨hown, hsame⟩ := h.aloft r hkeeps hlive f hf (hloaded.symm.trans hid.symm)
  have hafter (r' : Room) (hr' : t'.store.Keeps id r') : r'.untimed = f.write.room.untimed := by
    rw [hstore, hsound.landed hf hrow hadmits, if_pos hid] at hr'
    exact hr'
  have hlength : (t'.store.moveRows id).length =
      (t.store.moveRows id).length + (f.write.entries t.store).length := by
    rw [hstore, Write.moveRows_landed, if_pos hid, List.length_append]
  have hmarkers := markers_of_write hleads t.store
  -- the board that was loaded had as many markers as there are moves only if it is the stored one
  have hfresh : f.loaded.board.filled = (t.store.moveRows id).length ↔ fresh ∧ ¬ f.Stale t.store := by
    rw [Flight.Stale, ← hloaded, ← hid, hkeeps.board?, not_not, Option.some.injEq]
    constructor
    · intro heq
      have hboard := hsame heq
      exact ⟨hiff.mp (hboard ▸ heq), hboard.symm⟩
    · rintro ⟨hall, hboard⟩
      exact hboard ▸ hiff.mpr hall
  refine ⟨fun hnone => ?_, fun r' hr' => ?_, fun r' hr' hlive' g hg hgid => ?_⟩
  · rw [hstore, Write.row?_landed, hid, hrow] at hnone
    contradiction
  · rw [Room.board_of_untimed (hafter r' hr'), hmarkers, hlength, ← hfresh]
    exact ⟨by omega, by omega⟩
  · obtain ⟨hother, heq⟩ := h.aloft r hkeeps hlive g (hflights g hg) hgid
    rw [Room.status_of_untimed (hafter r' hr')] at hlive'
    rw [Room.board_of_untimed (hafter r' hr'), hlength]
    by_cases hmoves : f.write.entries t.store = []
    · rw [hmoves, board_of_write hleads hlawful hlawful' hr hadmits hmoves hlive']
      exact ⟨hother, heq⟩
    · have hpos := List.length_pos_iff.mpr hmoves
      exact ⟨by omega, fun h => by omega⟩

/-- The account of a room depends on its row, its log and the writes that were computed from it. -/
theorem Accounted.frame {t t' : Traffic} {id : RoomId} {fresh : Prop} (h : t.Accounted id fresh)
    (hrow : t'.store.row? id = t.store.row? id) (hmoves : t'.store.moveRows id = t.store.moveRows id)
    (hflights : ∀ g ∈ t'.flights, g.loaded.id = id → g ∈ t.flights) : t'.Accounted id fresh := by
  have hkeeps (r : Room) (hr : t'.store.Keeps id r) : t.store.Keeps id r := by
    rwa [Store.Keeps, hrow] at hr
  refine ⟨fun hnone => ?_, fun r hr => ?_, fun r hr hlive g hg hgid => ?_⟩
  · rw [hmoves]
    exact h.absent (hrow ▸ hnone)
  · rw [hmoves]
    exact h.stored r (hkeeps r hr)
  · rw [hmoves]
    exact h.aloft r (hkeeps r hr) hlive g (hflights g hg hgid) hgid

/-- A step that accepts no write accepts no stale one. -/
theorem not_acceptsStale {t : Traffic} {id : RoomId} {e : Step}
    (hrefused : ∀ place f, e = .land place → t.flights[place]? = some f →
      (f.write.land t.store f.winPoints).2 = false) : ¬ t.AcceptsStale id e := by
  intro h
  cases e with
  | land place =>
    obtain ⟨f, hf, -, hland, -⟩ := h
    rw [hrefused place f rfl hf] at hland
    contradiction
  | create | load | tick => exact h

/-- A room that is created is accounted for, and the other rooms stay so. -/
theorem Accounted.created {t t' : Traffic} (hsound : t.Sound) {id : RoomId} {fresh : Prop}
    (h : t.Accounted id fresh) {creator : UserId} {gameType : GameType} {row : StoredRoom}
    (hfits : t.store.rooms.length < Store.roomLimit)
    (hholds : row.Holds (.newPending t.store.nextId creator gameType))
    (hstore : t'.store = { t.store with rooms := t.store.rooms ++ [row] }) (hflights : t'.flights = t.flights) :
    t'.Accounted id fresh := by
  have hfound : t'.store.row? id = if id = t.store.nextId then some row else t.store.row? id := by
    rw [hstore]
    exact Store.row?_append hsound.numbered hfits hholds.id id
  have hmoves : t'.store.moveRows id = t.store.moveRows id := by rw [hstore]; rfl
  by_cases hid : id = t.store.nextId
  · rw [if_pos hid] at hfound
    obtain ⟨hempty, hfresh⟩ := h.absent (hid ▸ hsound.numbered.row?_nextId hfits)
    refine ⟨fun hnone => by simp [hfound] at hnone, fun r hr => ?_, fun r _ _ g hg hgid => ?_⟩
    · rw [hstore, hsound.keeps_created hfits hholds, if_pos hid] at hr
      rw [Room.board_of_untimed hr, hmoves, hempty]
      simpa [Room.newPending] using hfresh
    · obtain ⟨-, r', ⟨row', hrow', -⟩, -⟩ := hsound.flights g (hflights ▸ hg)
      rw [hgid, hid, hsound.numbered.row?_nextId hfits] at hrow'
      contradiction
  · rw [if_neg hid] at hfound
    exact h.frame hfound hmoves fun g hg _ => hflights ▸ hg

/-- A write that is sent off was computed from the stored board. -/
theorem Accounted.sent {t t' : Traffic} {id : RoomId} {fresh : Prop} (h : t.Accounted id fresh) {f : Flight}
    (hkeeps : t.store.Keeps f.loaded.id f.loaded) (hstore : t'.store = t.store)
    (hflights : t'.flights = t.flights ++ [f]) : t'.Accounted id fresh := by
  refine ⟨fun hnone => ?_, fun r hr => ?_, fun r hr hlive g hg hgid => ?_⟩
  · rw [hstore] at hnone ⊢
    exact h.absent hnone
  · rw [hstore] at hr ⊢
    exact h.stored r hr
  · rw [hstore] at hr ⊢
    rw [hflights] at hg
    rcases List.mem_append.mp hg with hg | hg
    · exact h.aloft r hr hlive g hg hgid
    · rw [List.mem_singleton.mp hg] at hgid ⊢
      rw [Room.board_of_untimed (Store.Keeps.unique (hgid ▸ hkeeps) hr)]
      exact ⟨(h.stored r hr).1, fun _ => rfl⟩

/-- The landing of a write lets a stale one through exactly if it is stale and of that room. -/
theorem acceptsStale_land {t : Traffic} {place : Nat} {f : Flight} (hflight : t.flights[place]? = some f)
    (haccepted : (f.write.land t.store f.winPoints).2 = true) (id : RoomId) :
    t.AcceptsStale id (.land place) ↔ f.loaded.id = id ∧ f.Stale t.store := by
  constructor
  · rintro ⟨g, hg, hid, -, hstale⟩
    rw [hflight, Option.some.injEq] at hg
    exact hg ▸ ⟨hid, hstale⟩
  · rintro ⟨hid, hstale⟩
    exact ⟨f, hflight, hid, haccepted, hstale⟩

/-- Every step keeps the account of every room. -/
theorem Accounted.step {t : Traffic} (hsound : t.Sound) {id : RoomId} {fresh : Prop} (h : t.Accounted id fresh)
    (e : Step) : (t.step e).Accounted id (fresh ∧ ¬ t.AcceptsStale id e) := by
  cases hsound.step_cases e with
  | idle hrooms hmoves hscores hflights hrefused =>
    simp only [not_acceptsStale hrefused, not_false_eq_true, and_true]
    exact h.frame (Store.row?_congr hrooms id) (by rw [Store.moveRows, hmoves, Store.moveRows])
      fun g hg _ => hflights g hg
  | created creator gameType row hstep hfits hholds hstore hflights =>
    have hstale : ¬ t.AcceptsStale id e := hstep ▸ not_false
    simp only [hstale, not_false_eq_true, and_true]
    exact h.created hsound hfits hholds hstore hflights
  | sent f hstep hkeeps hstore hflights =>
    have hstale : ¬ t.AcceptsStale id e := hstep ▸ not_false
    simp only [hstale, not_false_eq_true, and_true]
    exact h.sent hkeeps hstore hflights
  | landed place f row hstep hflight hrow hadmits haccepted hstore hflights =>
    have hf := List.mem_of_getElem? hflight
    have hroom : f.write.room.id = f.loaded.id := (hsound.flight hf hrow).1
    have hstale : t.AcceptsStale id e ↔ f.loaded.id = id ∧ f.Stale t.store :=
      hstep ▸ acceptsStale_land hflight haccepted id
    by_cases hid : id = f.write.room.id
    · rw [hstale, and_iff_right (hid.trans hroom).symm]
      exact h.landed hsound hf hrow hadmits hid hstore hflights
    · have hother : f.loaded.id ≠ id := fun heq => hid (heq.symm.trans hroom.symm)
      simp only [hstale, hother, false_and, not_false_eq_true, and_true]
      refine h.frame ?_ ?_ fun g hg _ => hflights g hg
      · rw [hstore, Write.row?_landed]
        simp only [if_neg hid, Option.map_id']
      · rw [hstore, Write.moveRows_landed, if_neg hid, List.append_nil]

/-- Steps keep the account of every room, which stays exact as long as no stale write is accepted. -/
theorem Accounted.run {t : Traffic} (hsound : t.Sound) {id : RoomId} {fresh : Prop} (h : t.Accounted id fresh)
    (steps : List Step) : (t.run steps).Accounted id (fresh ∧ t.NeverStale id steps) := by
  induction steps generalizing t fresh with
  | nil => simpa only [NeverStale, and_true, run_nil] using h
  | cons e steps ih => simpa only [NeverStale, and_assoc, run_cons] using ih (hsound.step e) (h.step hsound e)

/-- At the start every room is accounted for. -/
theorem accounted_start (clock : String) (id : RoomId) : (start clock).Accounted id True := by
  have hnone : (start clock).store.row? id = none := rfl
  exact ⟨fun _ => ⟨rfl, trivial⟩, fun r ⟨row, hrow, _⟩ => by simp [hnone] at hrow,
    fun r ⟨row, hrow, _⟩ => by simp [hnone] at hrow⟩

/--
After any steps of any servers: a move that the store accepts adds its own marker to the stored board and
nothing else exactly if the stored board is the one that the move was computed from; a forfeit that it
accepts leaves the stored board alone under the same condition; and a stored board has no more markers
than there are moves in its log, and as many exactly if no stale write of the room was ever accepted.
-/
theorem committed_moves_kept_iff (clock : String) (steps : List Step) :
    let t := (start clock).run steps
    (∀ f ∈ t.flights, ∀ user move, f.call = .move user move →
      (f.write.land t.store f.winPoints).2 = true →
      ∃ before m other c, t.store.board? f.loaded.id = some before ∧ f.loaded.LegalMove user move m other c ∧
        (before.get c = none ∧
            (f.write.land t.store f.winPoints).1.board? f.loaded.id = some (before.set c (some m)) ↔
          ¬ f.Stale t.store)) ∧
    (∀ f ∈ t.flights, ∀ absent, f.call = .forfeit absent →
      (f.write.land t.store f.winPoints).2 = true →
      ((f.write.land t.store f.winPoints).1.board? f.loaded.id = t.store.board? f.loaded.id ↔
        ¬ f.Stale t.store)) ∧
    ∀ id board, t.store.board? id = some board → board.filled ≤ (t.store.movesOf id).length ∧
      (board.filled = (t.store.movesOf id).length ↔ (start clock).NeverStale id steps) := by
  have hsound := (sound_start clock).run steps
  refine ⟨fun f hf user move hcall hland => hsound.commit_adds_marker_iff hf hcall hland,
    fun f hf absent hcall hland => hsound.conclude_keeps_board_iff hf hcall hland, fun id board hboard => ?_⟩
  have hkeeps : ∃ r, ((start clock).run steps).store.Keeps id r := by
    cases hrow : ((start clock).run steps).store.row? id with
    | none => simp [Store.board?, Store.room, hrow] at hboard
    | some row =>
      obtain ⟨r, hr, -⟩ := hsound.rooms id row hrow
      exact ⟨r, row, hrow, hr⟩
  obtain ⟨r, hr⟩ := hkeeps
  rw [hr.board?, Option.some.injEq] at hboard
  have hcount := ((accounted_start clock id).run (sound_start clock) steps).stored r hr
  rwa [true_and, hboard, ← Store.length_movesOf] at hcount

/-- Two players are seated, and a forfeit and a move are on their way. -/
def bothSent : List Step :=
  [.create 1 .ticTacToe, .load 1 (.join 2) "" 0, .land 0, .load 1 (.forfeit 2) "" 0,
   .load 1 (.move 1 { x := 0, y := 0 }) "[0,0]" 0]

/-- Whichever of the two arrives first is accepted and is not stale: the move adds its marker, and the forfeit keeps the
board. -/
theorem bothSent_fresh :
    let t := (start "").run bothSent
    (∃ f ∈ t.flights, f.call = .move 1 { x := 0, y := 0 } ∧ (f.write.land t.store f.winPoints).2 = true ∧
      ¬ f.Stale t.store ∧ ∃ before m other c, t.store.board? f.loaded.id = some before ∧
        f.loaded.LegalMove 1 { x := 0, y := 0 } m other c ∧ before.get c = none ∧
          (f.write.land t.store f.winPoints).1.board? f.loaded.id = some (before.set c (some m))) ∧
      ∃ f ∈ t.flights, f.call = .forfeit 2 ∧ (f.write.land t.store f.winPoints).2 = true ∧
        ¬ f.Stale t.store ∧
          (f.write.land t.store f.winPoints).1.board? f.loaded.id = t.store.board? f.loaded.id := by
  obtain ⟨hmoves, hforfeits, -⟩ := committed_moves_kept_iff "" bothSent
  have hmove : ∃ f ∈ ((start "").run bothSent).flights, f.call = .move 1 { x := 0, y := 0 } ∧
      (f.write.land ((start "").run bothSent).store f.winPoints).2 = true ∧
      ((start "").run bothSent).store.board? f.loaded.id = some f.loaded.board := by decide +kernel
  have hforfeit : ∃ f ∈ ((start "").run bothSent).flights, f.call = .forfeit 2 ∧
      (f.write.land ((start "").run bothSent).store f.winPoints).2 = true ∧
      ((start "").run bothSent).store.board? f.loaded.id = some f.loaded.board := by decide +kernel
  obtain ⟨f, hf, hcall, hland, hsame⟩ := hmove
  obtain ⟨g, hg, hcall', hland', hsame'⟩ := hforfeit
  have hfresh : ¬ f.Stale ((start "").run bothSent).store := fun hstale => hstale hsame
  have hfresh' : ¬ g.Stale ((start "").run bothSent).store := fun hstale => hstale hsame'
  obtain ⟨before, m, other, c, hbefore, hlegal, hkept⟩ := hmoves f hf 1 _ hcall hland
  obtain ⟨hfree, hafter⟩ := hkept.mpr hfresh
  exact ⟨⟨f, hf, hcall, hland, hfresh, before, m, other, c, hbefore, hlegal, hfree, hafter⟩,
    ⟨g, hg, hcall', hland', hfresh', (hforfeits g hg 2 hcall' hland').mpr hfresh'⟩⟩

/-- Two players are seated, a forfeit is computed, and then a move is committed. -/
def movePassed : List Step :=
  [.create 1 .ticTacToe, .load 1 (.join 2) "" 0, .land 0, .load 1 (.forfeit 2) "" 0,
   .load 1 (.move 1 { x := 0, y := 0 }) "[0,0]" 0, .land 1]

/-- The forfeit that comes after the move ends the game on the board without it, while the log has the move. -/
theorem stale_forfeit_erases_move :
    let before := (start "").run movePassed
    let after := before.step (.land 0)
    before.store.board? 1 = some (Board.empty.set (0, 0) (some .x)) ∧
      (after.store.row? 1).map (·.status) = some .finished ∧
      after.store.board? 1 = some .empty ∧ (after.store.movesOf 1).length = 1 := by decide +kernel

end Traffic

end Parlor.Game
