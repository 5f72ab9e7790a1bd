import Parlor.Proofs.Game.StateFrames
import Parlor.Proofs.Game.WiredRuns

/-!
# Every new position is told

Whenever a stored room comes into another position, everybody who is seated there gets one frame that tells
it, and no other operation brings a frame that could be taken for one. So the last such frame shows the room
as it is stored. There is one exception: nobody is told that a room has been given up.

One lemma says what an operation means for a room and for those who hear of it; the rest follows along a run.
-/

namespace Parlor.Game

/-! ## The operations of a hub on its own -/

namespace Operation

/--
An operation of a hub that is alone with its store. The access to the store may fail at any time, and the
sockets read and close their connections, but nobody passes a frame off as the state of a room.
-/
def IsOwn : Operation → Prop
  | .happening .wire | .happening .pull => False
  | .broadcast _ action => ∀ id, isStateOf id action.text = false
  | .storage change => ∀ s, (change s).store = s.store
  | .connection _ change => Connection.Handling change
  | _ => True

/-- Such an operation has nothing to do with the wiring. -/
theorem IsOwn.keepsWiring {op : Operation} (h : op.IsOwn) : op.KeepsWiring := by
  cases op with
  | happening e =>
    cases e with
    | wire | pull => exact h
    | connect | create | register | frame | leave | expire | forfeit | shutdown | pass => trivial
  | join | move | broadcast | storage | connection => trivial

/-- Such an operation does not change what is stored behind the back of the hub. -/
theorem IsOwn.keepsStore {op : Operation} (h : op.IsOwn) : op.KeepsStore := by
  cases op with
  | storage change => exact h
  | happening | join | move | broadcast | connection => trivial

/-- Whatever else happens to the connections brings no frame that tells a state. -/
theorem IsOwn.brings_apply {op : Operation} (h : op.IsOwn) (hother : ¬ op.LeavesQueues) {t : Site}
    (hn : t.shared.Numbered) (id : RoomId) :
    t.shared.Brings (fun _ frame => isStateOf id frame = false) (t.apply op).shared := by
  cases op with
  | happening e =>
    cases e with
    | connect user capacity => exact hn.brings_connect user capacity
    | shutdown =>
      refine hn.brings_dismiss fun p hp => ?_
      obtain ⟨⟨room, -, -⟩, -, rfl⟩ := List.mem_map.mp hp
      exact isStateOf_notice (by rintro s ⟨⟩) (by simp) room _ id
    | create | register | frame | leave | expire | forfeit | wire | pull | pass => exact absurd trivial hother
  | connection connection change => exact hn.brings_modify connection h
  | join | move | broadcast | storage => exact absurd trivial hother

end Operation

/-! ## One operation -/

namespace Site

/-- What an operation means for a room, and for those who hear of it. -/
inductive Advance (t : Site) (id : RoomId) (t' : Site) : Prop
  /-- The room stays as it is, and nobody is told its state. -/
  | rested (kept : ∀ r, t.store.Keeps id r → t'.store.Keeps id r)
      (brings : t.shared.Brings (fun _ frame => isStateOf id frame = false) t'.shared)
  /-- A call on the room is stored, and announced to those who are seated there. -/
  | moved {r : Room} {call : Call} {data : String} {w : Write} (loaded : t.store.Keeps id r)
      (leads : r.Leads data call w) (stored : t'.store.Keeps id w.room)
      (seats : call ≠ .cancel → t'.hub.seats = t.hub.seats)
      (connections : t'.shared.connections =
        (t.shared.postAll (((call.announcements w.room).map (t.hub.bulletin id)).flatMap (·.posts))).connections)

section Settles

variable {t next t' : Site} {op : Operation} {o : Outbox} {told : List Bulletin}

/-- What an operation has led to is stored. -/
theorem Settles.store (h : t.Settles op next o told t') : t'.store = next.store := by
  obtain ⟨bus, heq⟩ := h.eq
  rw [heq]
  change (next.shared.postAll _).storage.store = _
  rw [Shared.postAll_eq]
  rfl

/-- Without bulletins nothing comes back from the bus. -/
theorem Settles.told_nil (h : t.Settles op next o told t') (hnone : o.bulletins = []) : told = [] := by
  rcases h.echoes with htold | htold
  · rw [htold, hnone]
  · rw [htold, hnone, List.map_nil]

/-- An operation that leaves the queues alone brings what it has to say. -/
theorem Settles.connections (h : t.Settles op next o told t') (hop : op.LeavesQueues) :
    t'.shared.connections = (t.shared.postAll (Outbox.frames { o with bulletins := told })).connections := by
  obtain ⟨bus, heq⟩ := h.eq
  rw [heq]
  change (next.shared.postAll _).connections = _
  rw [Shared.postAll_eq, Shared.postAll_eq, h.queues hop]

/-- Any other operation brings what it does to the connections. -/
theorem Settles.connections_other (h : t.Settles op next o told t') (hop : ¬ op.LeavesQueues) :
    t'.shared.connections = (t.apply op).shared.connections := by
  obtain rfl := h.reaction.silent hop
  obtain ⟨bus, heq⟩ := h.eq
  rw [heq, h.told_nil rfl]
  exact (congrArg (fun t : Site => t.shared.connections) (h.applied t.hub.wiring t.shared.bus)).symm

/-- An operation that has nothing to say to a room tells nobody its state. -/
theorem Settles.brings (h : t.Settles op next o told t') (hop : op.IsOwn) (hn : t.shared.Numbered) (id : RoomId)
    (hposts : ∀ p ∈ o.posts, isStateOf id p.2 = false)
    (htold : ∀ b ∈ told, ∀ p ∈ b.posts, isStateOf id p.2 = false) :
    t.shared.Brings (fun _ frame => isStateOf id frame = false) t'.shared := by
  by_cases hleaves : op.LeavesQueues
  · refine hn.brings_postAll (fun p hp => ?_) (h.connections hleaves)
    rcases List.mem_append.mp hp with hp | hp
    · exact hposts p hp
    · obtain ⟨b, hb, hpost⟩ := List.mem_flatMap.mp hp
      exact htold b hb p hpost
  · exact (hop.brings_apply hleaves hn id).of_eq (h.connections_other hleaves)

/-- What an operation means for a room once the bus was drained. -/
theorem Settles.advance (h : t.Settles op next o told t') (hop : op.IsOwn) (hs : t.store.Sound)
    (hn : t.shared.Numbered) (id : RoomId) : t.Advance id t' := by
  have hstore := h.store
  have htold := h.echoes
  have hnone := h.told_nil
  have hconnections := h.connections
  have hbrings := h.brings hop hn id
  cases h.reaction with
  | quiet hgrows =>
    obtain rfl := hnone rfl
    exact .rested (fun r hr => hstore ▸ hgrows.keeps hs hr) (hbrings (by simp) (by simp))
  | elsewhere change =>
    obtain rfl := hnone rfl
    exact .rested (fun r hr => (hstore.trans (hop t.shared.storage)) ▸ hr) (hbrings (by simp) (by simp))
  | @refused room connection bytes _ message hsame =>
    obtain rfl := hnone rfl
    refine .rested (fun r hr => (hstore.trans hsame) ▸ hr) (hbrings (fun p hp => ?_) (by simp))
    rw [List.mem_singleton.mp hp]
    exact isStateOf_notice (by rintro s ⟨⟩) (by simp) room message id
  | @chatted room connection bytes sent hdecode hkind =>
    refine .rested (fun r hr => hstore ▸ hr) (hbrings (by simp) fun b hb p hp => ?_)
    have hpayload := (Action.decode_within hdecode).2
    let chat : Action := { sent with room := some room, user := some (t.shared.userOf connection) }
    rcases htold with rfl | rfl
    · rw [List.mem_singleton.mp hb] at hp
      obtain ⟨c, -, rfl⟩ := List.mem_map.mp hp
      exact isStateOf_chat (show chat.kind = .chat from hkind) hpayload id
    · rw [List.mem_singleton.mp hb] at hp
      exact isStateOf_echo (show chat.kind = .chat from hkind) hpayload id p hp
  | broadcast room action =>
    obtain rfl := hnone rfl
    refine .rested (fun r hr => hstore ▸ hr) (hbrings (fun p hp => ?_) (by simp))
    obtain ⟨c, -, rfl⟩ := List.mem_map.mp hp
    exact hop id
  | @called _ _ room call data r w hasked hloaded hwrite haccepted hseats hleaves =>
    obtain ⟨-, hkeeps, hothers⟩ := hs.landed hloaded hwrite haccepted
    obtain rfl : told = (call.announcements w.room).map (t.hub.bulletin room) := by
      rcases htold with htold | htold
      · exact htold
      · exact htold.trans (t.hub.map_echo_announcements room w.room call)
    by_cases hid : id = room
    · subst hid
      obtain ⟨bus, heq⟩ := h.eq
      refine .moved (hs.of_room hloaded).1 (Room.leads_of_write? hwrite) (hstore ▸ hkeeps) (fun hcall => ?_)
        (hconnections hleaves)
      rw [heq]
      exact hseats hcall
    · refine .rested (fun r' hr' => hstore ▸ (hothers id r' hid).mpr hr') (hbrings (by simp) fun b hb p hp => ?_)
      obtain ⟨a, ha, rfl⟩ := List.mem_map.mp hb
      obtain ⟨c, -, rfl⟩ := List.mem_map.mp hp
      exact Call.announcements_other (hkeeps.id.symm ▸ hid) call a ha

end Settles

/-- The names of the connections are given out in turn. -/
theorem Advance.numbered {t t' : Site} {id : RoomId} (h : t.Advance id t') (hn : t.shared.Numbered) :
    t'.shared.Numbered := by
  cases h with
  | rested _ hbrings => exact hbrings.numbered
  | moved _ _ _ _ hconnections =>
    exact (hn.brings_postAll (P := fun _ _ => True) (fun _ _ => trivial) hconnections).numbered

/-! ## A new position -/

/-- A stored room has come into another position. -/
structure Moves (t t' : Site) (id : RoomId) (r r' : Room) : Prop where
  before : t.store.Keeps id r
  after : t'.store.Keeps id r'
  changed : r.position ≠ r'.position

/-- The call that has brought a room into another position, and what everybody has got of it. -/
structure Announced (t t' : Site) (id : RoomId) (r r' : Room) (call : Call) (next : Room) : Prop where
  isNext : next.id = id
  position : next.position = r'.position
  cancelled : r'.status = .cancelled ↔ call = .cancel
  seats : call ≠ .cancel → t'.hub.seats = t.hub.seats
  length : call ≠ .cancel → ∀ seats, (call.frames next seats).length = (if r.status = .pending then 2 else 1) * seats
  quiet : call = .cancel → t'.shared.connections = t.shared.connections
  got : ∀ c, t'.shared.connection? c =
    (t.shared.connection? c).map fun k => (k.sendAll (call.frames next ((t.hub.seats.snapshot id).count c))).1

/-- A room comes into another position by a call that is announced. -/
theorem Advance.announced {t t' : Site} {id : RoomId} {r r' : Room} (h : t.Advance id t') (hm : t.Moves t' id r r') :
    ∃ call next, t.Announced t' id r r' call next := by
  cases h with
  | rested hkept => exact absurd (Room.position_of_untimed ((hkept r hm.before).unique hm.after)) hm.changed
  | @moved r₀ call data w hloaded hleads hstored hseats hconnections =>
    have hbefore := Room.status_of_untimed (hloaded.unique hm.before)
    have hafter := hstored.unique hm.after
    refine ⟨call, w.room, hstored.id, Room.position_of_untimed hafter, ?_, hseats, fun hcall seats => ?_,
      fun hcall => ?_, fun c => ?_⟩
    · rw [← Room.status_of_untimed hafter]
      exact hleads.status.1
    · rw [Call.length_frames hleads hcall, hbefore]
    · subst hcall
      exact hconnections
    · have hget : t'.shared.connection? c = _ := congrArg (Table.get? c) hconnections
      rw [hget]
      refine (Shared.connection?_postAll _ _ _).trans ?_
      rw [Shared.framesFor_bulletins, List.flatMap_map]
      rfl

section Announced

variable {t t' : Site} {id : RoomId} {r r' : Room} {call : Call} {next : Room}

/-- Everybody gets one frame for each seat that tells the new position. -/
theorem Announced.frame (h : t.Announced t' id r r' call next) (hcall : call ≠ .cancel) :
    ∃ frame, r'.ToldBy frame ∧
      ∀ seats, (call.frames next seats).filter (isStateOf id) = List.replicate seats frame := by
  obtain ⟨frame, htold, hfilter⟩ := Call.filter_frames hcall next
  rw [h.isNext] at hfilter
  rw [Room.ToldBy, Room.stateMembers_of_position h.position] at htold
  exact ⟨frame, htold, hfilter⟩

/-- A connection that has taken every frame has got those of the announcement. -/
theorem Announced.gained (h : t.Announced t' id r r' call next) {c : ConnectionId} {k k' : Connection}
    (hk : t.shared.connection? c = some k) (hk' : t'.shared.connection? c = some k') (hopen : k'.isClosed = false)
    (hdropped : k'.dropped ≤ k.dropped) :
    k'.waiting = k.waiting ++ call.frames next ((t.hub.seats.snapshot id).count c) ∧
      t.shared.gained t'.shared c = call.frames next ((t.hub.seats.snapshot id).count c) := by
  have hgot := h.got c
  rw [hk, hk', Option.map_some, Option.some.injEq] at hgot
  rw [hgot] at hopen hdropped
  have hwaiting := Connection.sendAll_of_taken hopen hdropped
  rw [← hgot] at hwaiting
  refine ⟨hwaiting, ?_⟩
  rw [Shared.gained, Shared.queue, Shared.queue, hk, hk']
  simp [hwaiting]

end Announced

/-! ## A run -/

/-- A hub on its own that has taken in everything from the bus. -/
structure Orderly (t : Site) : Prop where
  drained : t.Drained
  sound : t.store.Sound
  numbered : t.shared.Numbered

/-- A hub before anything is asked of it, on the bus or not. -/
def started (t : Site) (wired : Bool) : Site := if wired then t.meet .wire else t

/-- A hub is in order at the start. -/
theorem orderly_started (grace : Text.Nanos) (winPoints : Int64) {shared : Shared} (hnumbered : shared.Numbered)
    (clock : String) {wired : Bool} (hbus : wired = true → shared.bus.IsPrompt ∧ 2 ≤ shared.bus.capacity) :
    ((opening grace winPoints shared clock).started wired).Orderly := by
  cases wired with
  | false => exact ⟨.inl rfl, Store.sound_empty clock, hnumbered⟩
  | true =>
    obtain ⟨hprompt, hroom⟩ := hbus rfl
    obtain ⟨wiring, bus, hwire, hdrained⟩ := wire_drained (t := opening grace winPoints shared clock) rfl hprompt hroom
    exact (show (opening grace winPoints shared clock).started true = _ from hwire) ▸
      ⟨hdrained, Store.sound_empty clock, hnumbered⟩

/-- What one operation means for a room at a hub in order, and that the hub stays so. -/
theorem Orderly.settle {t : Site} (h : t.Orderly) (isUp : Bool) {op : Operation} (hop : op.IsOwn) :
    (∀ id, t.Advance id (t.settle isUp op)) ∧ (t.settle isUp op).Orderly := by
  obtain ⟨next, o, told, hsettles⟩ := h.drained.settles isUp hop.keepsWiring
  have hadvance (id : RoomId) := hsettles.advance hop h.sound h.numbered id
  exact ⟨hadvance, hsettles.drained, hsettles.store ▸ hsettles.reaction.sound h.sound hop.keepsStore,
    (hadvance 0).numbered h.numbered⟩

/-- A hub stays in order. -/
theorem Orderly.settleAll {t : Site} (h : t.Orderly) {course : List (Bool × Operation)}
    (hown : ∀ e ∈ course, e.2.IsOwn) : (t.settleAll course).Orderly := by
  induction course generalizing t with
  | nil => exact h
  | cons e course ih =>
    obtain ⟨hop, hcourse⟩ := List.forall_mem_cons.mp hown
    exact ih (h.settle e.1 hop).2 hcourse

/-- The frames that come into the queue of a connection, one after the other. -/
def queued (c : ConnectionId) : Site → List (Bool × Operation) → List String
  | _, [] => []
  | t, e :: course => t.shared.gained (t.settle e.1 e.2).shared c ++ queued c (t.settle e.1 e.2) course

/-- The frames of a run come in the order of its operations. -/
theorem queued_append (c : ConnectionId) (t : Site) (course more : List (Bool × Operation)) :
    queued c t (course ++ more) = queued c t course ++ queued c (t.settleAll course) more := by
  induction course generalizing t with
  | nil => rfl
  | cons e course ih =>
    rw [List.cons_append, queued, queued, ih, List.append_assoc]
    rfl

/-- No operation brings a room into another position. -/
def Rests (id : RoomId) : Site → List (Bool × Operation) → Prop
  | _, [] => True
  | t, e :: course => (∀ r r', ¬ t.Moves (t.settle e.1 e.2) id r r') ∧ Rests id (t.settle e.1 e.2) course

/-- As long as a room rests it is stored as it was, and nobody is told its state. -/
theorem Orderly.rests {t : Site} (h : t.Orderly) {id : RoomId} {course : List (Bool × Operation)}
    (hown : ∀ e ∈ course, e.2.IsOwn) (hrests : Rests id t course) :
    (∀ r, t.store.Keeps id r → (t.settleAll course).store.Keeps id r) ∧
      ∀ c, (queued c t course).filter (isStateOf id) = [] := by
  induction course generalizing t with
  | nil => exact ⟨fun _ hr => hr, fun _ => rfl⟩
  | cons e course ih =>
    obtain ⟨hop, hcourse⟩ := List.forall_mem_cons.mp hown
    obtain ⟨hstill, hrest⟩ := hrests
    obtain ⟨hadvance, hnext⟩ := h.settle e.1 hop
    cases hadvance id with
    | rested hkept hbrings =>
      obtain ⟨hkeeps, hnone⟩ := ih hnext hcourse hrest
      refine ⟨fun r hr => hkeeps r (hkept r hr), fun c => ?_⟩
      rw [queued, List.filter_append, hnone, List.append_nil]
      exact List.filter_eq_nil_iff.mpr fun frame hframe => by simp [hbrings.gained c frame hframe]
    | moved hloaded hleads hstored =>
      exact absurd ⟨hloaded, hstored, hleads.position_ne⟩ (hstill _ _)

/-- A room that is found in another status has come into another position. -/
theorem Orderly.moves {t t' : Site} (h : t.Orderly) (h' : t'.Orderly) {id : RoomId} {status status' : Status}
    (hshows : t.store.shows id (·.status == status) = true) (hshows' : t'.store.shows id (·.status == status') = true)
    (hne : status ≠ status') : ∃ r r', t.Moves t' id r r' ∧ r'.status = status' := by
  obtain ⟨r, hr, hstatus⟩ := h.sound.keeps_of_shows hshows
  obtain ⟨r', hr', hstatus'⟩ := h'.sound.keeps_of_shows hshows'
  rw [beq_iff_eq] at hstatus hstatus'
  exact ⟨r, r', ⟨hr, hr', Room.position_ne_of_status (hstatus.symm ▸ hstatus'.symm ▸ hne)⟩, hstatus'⟩

/-! ## Every new position -/

/--
At every hub on its own, wired or not, when a stored room comes into another position, one thing or the other
happens. The room has been given up, and nobody hears of it. Or everybody who is seated there and has the slots
gets one frame for the seat that tells what is stored, and whoever was seated there and has taken everything has
in the end, if the room rests from then on, a frame that tells what is stored as the last one of its kind.
-/
theorem positions_told (grace : Text.Nanos) (winPoints : Int64) {shared : Shared} (hnumbered : shared.Numbered)
    (clock : String) {wired : Bool} (hbus : wired = true → shared.bus.IsPrompt ∧ 2 ≤ shared.bus.capacity)
    {before after : List (Bool × Operation)} {e : Bool × Operation} (hown : ∀ x ∈ before ++ e :: after, x.2.IsOwn)
    {start t t' : Site} (hstart : start = (opening grace winPoints shared clock).started wired)
    (ht : t = start.settleAll before) (ht' : t' = t.settle e.1 e.2) {id : RoomId} {r r' : Room}
    (hmoves : t.Moves t' id r r') :
    (r'.status = .cancelled → t'.shared.connections = t.shared.connections) ∧
    (r'.status ≠ .cancelled → ∀ c k, t.shared.connection? c = some k → ∃ k', t'.shared.connection? c = some k' ∧
      ((if r.status = .pending then 2 else 1) * (t'.hub.seats.snapshot id).count c ≤ k.free →
        ∃ new, k'.waiting = k.waiting ++ new ∧
          (new.filter (isStateOf id)).length = (t'.hub.seats.snapshot id).count c ∧
          ∀ frame ∈ new.filter (isStateOf id), r'.ToldBy frame) ∧
      (c ∈ t'.hub.seats.snapshot id → k'.isClosed = false → k'.dropped = k.dropped → Rests id t' after →
        ∃ frame, ((queued c start (before ++ e :: after)).filter (isStateOf id)).getLast? = some frame ∧
          ∀ now, (start.settleAll (before ++ e :: after)).store.Keeps id now → now.ToldBy frame)) := by
  subst hstart ht ht'
  obtain ⟨hbefore, hop, hafter⟩ : (∀ x ∈ before, x.2.IsOwn) ∧ e.2.IsOwn ∧ ∀ x ∈ after, x.2.IsOwn :=
    ⟨fun x hx => hown x (by simp [hx]), hown e (by simp), fun x hx => hown x (by simp [hx])⟩
  have horderly := (orderly_started grace winPoints hnumbered clock hbus).settleAll hbefore
  generalize hstart : (opening grace winPoints shared clock).started wired = start at *
  obtain ⟨hadvance, hnext⟩ := horderly.settle e.1 hop
  obtain ⟨call, next, hannounced⟩ := (hadvance id).announced hmoves
  refine ⟨fun hcancelled => hannounced.quiet (hannounced.cancelled.mp hcancelled), fun hkept c k hk => ?_⟩
  have hcall : call ≠ .cancel := fun hcancel => hkept (hannounced.cancelled.mpr hcancel)
  obtain ⟨frame, htold, hfilter⟩ := hannounced.frame hcall
  have hgot := hannounced.got c
  rw [hk, Option.map_some] at hgot
  rw [hannounced.seats hcall]
  refine ⟨_, hgot, fun hfree => ?_, fun hseated hopen hdropped hrests => ⟨frame, ?_, fun now hnow => ?_⟩⟩
  · refine ⟨_, ?_, by rw [hfilter, List.length_replicate], fun f hf => ?_⟩
    · rw [Connection.sendAll_waiting, List.take_of_length_le (by rw [hannounced.length hcall]; exact hfree)]
    · rw [hfilter] at hf
      exact (List.eq_of_mem_replicate hf) ▸ htold
  · -- what comes later does not tell the state, and what has come now does
    obtain ⟨-, hnone⟩ := hnext.rests hafter hrests
    obtain ⟨-, hgained⟩ := hannounced.gained hk hgot hopen hdropped.le
    have hpositive := List.count_pos_iff.mpr hseated
    rw [queued_append, queued, List.filter_append, List.filter_append, hnone, List.append_nil, hgained, hfilter,
      List.getLast?_append_of_ne_nil _ (by simpa using hpositive.ne'), List.getLast?_replicate, if_neg hpositive.ne']
  · obtain ⟨hkeeps, -⟩ := hnext.rests hafter hrests
    have hstored := hkeeps r' hmoves.after
    rw [show start.settleAll (before ++ e :: after) = _ from List.foldl_append] at hnow
    have hsame := Room.position_of_untimed (hstored.unique hnow)
    rw [Room.ToldBy, ← Room.stateMembers_of_position hsame]
    exact htold

/-- A user has made a room, and another one is seated there, too. -/
def waiting : List (Bool × Operation) :=
  [(true, .happening (.connect 1 8)), (true, .happening (.connect 2 8)), (true, .happening (.create 1 .ticTacToe)),
   (true, .happening (.register 1 1 0)), (true, .happening (.register 2 1 1))]

/-- A hub on the bus, or not, before anything has happened. -/
def vacant (wired : Bool) : Site := (opening 0 3 { lobby with bus := .new 2 } "").started wired

/-- The room of the two users waits at a hub that is in order. -/
theorem orderly_waiting (wired : Bool) : ((vacant wired).settleAll waiting).Orderly := by
  refine (orderly_started 0 3 (by rintro id c ⟨⟩) "" fun _ => ⟨.inl rfl, by decide⟩).settleAll ?_
  simp [waiting, Operation.IsOwn]

/-- The other user joins while the bus is down, and has a frame that tells what is stored as the last one. -/
theorem join_told :
    ∃ r r', ((vacant true).settleAll waiting).Moves
        (((vacant true).settleAll waiting).settle false (.join 1 2)) 1 r r' ∧
      r'.status = .active ∧
      ∃ frame, ((queued 1 (vacant true) (waiting ++ [(false, .join 1 2)])).filter (isStateOf 1)).getLast? = some frame ∧
        ∀ now, ((vacant true).settleAll (waiting ++ [(false, .join 1 2)])).store.Keeps 1 now → now.ToldBy frame := by
  have horderly := orderly_waiting true
  have hnext := (horderly.settle false (show Operation.IsOwn (.join 1 2) from trivial)).2
  obtain ⟨r, r', hmoves, hactive⟩ := horderly.moves hnext
    (show Store.shows _ 1 (·.status == .pending) = true by decide +kernel)
    (show Store.shows _ 1 (·.status == .active) = true by decide +kernel) (by decide)
  obtain ⟨k, hk, hdropped⟩ : ∃ k, ((vacant true).settleAll waiting).shared.connection? 1 = some k ∧ k.dropped = 0 := by
    decide +kernel
  obtain ⟨-, htold⟩ := @positions_told 0 3 { lobby with bus := .new 2 } (by rintro id c ⟨⟩) "" true
    (fun _ => ⟨.inl rfl, by decide⟩) waiting [] (false, .join 1 2) (by simp [waiting, Operation.IsOwn]) _ _ _ rfl rfl
    rfl 1 r r' hmoves
  obtain ⟨k', hk', -, hlast⟩ := htold (by simp [hactive]) 1 k hk
  obtain ⟨hopen, hdropped'⟩ : k'.isClosed = false ∧ k'.dropped = 0 :=
    (show ∀ k' ∈ (((vacant true).settleAll waiting).settle false (.join 1 2)).shared.connection? 1,
      k'.isClosed = false ∧ k'.dropped = 0 by decide +kernel) k' hk'
  exact ⟨r, r', hmoves, hactive, hlast (by decide +kernel) hopen (hdropped'.trans hdropped.symm) trivial⟩

/-- The creator leaves, the room is given up, and the user who is still seated there hears nothing at all. -/
theorem given_up_untold :
    ∃ r r', ((vacant false).settleAll waiting).Moves
        (((vacant false).settleAll waiting).settle true (.happening (.leave 1 0))) 1 r r' ∧
      r'.status = .cancelled ∧
      (((vacant false).settleAll waiting).settle true (.happening (.leave 1 0))).hub.seats.snapshot 1 = [1] ∧
      ((((vacant false).settleAll waiting).settle true (.happening (.leave 1 0))).shared.connection? 1).map
        (fun k => (k.free, k.waiting)) = some (8, []) := by
  have horderly := orderly_waiting false
  have hnext := (horderly.settle true (show Operation.IsOwn (.happening (.leave 1 0)) from trivial)).2
  obtain ⟨r, r', hmoves, hcancelled⟩ := horderly.moves hnext
    (show Store.shows _ 1 (·.status == .pending) = true by decide +kernel)
    (show Store.shows _ 1 (·.status == .cancelled) = true by decide +kernel) (by decide)
  exact ⟨r, r', hmoves, hcancelled, by decide +kernel, by decide +kernel⟩

end Site

end Parlor.Game
