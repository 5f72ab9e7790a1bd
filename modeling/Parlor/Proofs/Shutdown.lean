import Parlor.Chat.Hub
import Parlor.Proofs.Game.Bustle
import Parlor.Proofs.Game.Grace
import Parlor.Proofs.Game.SeatIndex
import Parlor.Proofs.Offers
import Parlor.Signaling.Hub

/-!
# The end of a server

A hub that is shut down takes leave of everybody who is registered: whatever the number of rooms somebody is
in, one last frame goes into the queue, if it is open and has room, and the queue is closed. No game is decided
by this. The seats are gone before the connections end, so nobody leaves a seat any more, and forfeits that
were armed are dropped and no new ones are armed.
-/

namespace Parlor

/-! ## Dismissals -/

namespace Shared

/-- A last frame finds its way into a queue, and the queue is closed. -/
def dismissed (c : Connection) (frame : String) : Connection := (c.send frame).1.close.1

/-- A second farewell finds the queue closed. -/
theorem dismissed_twice (c : Connection) (frame again : String) :
    dismissed (dismissed c frame) again = dismissed c frame := by
  have hclosed : (dismissed c frame).isClosed = true := by simp [dismissed, Connection.isClosed, Connection.close]
  rw [dismissed, Connection.send_closed hclosed]
  rfl

/-- Of the frames that are meant for a connection at its dismissal, the first one counts. -/
theorem connection?_dismiss (s : Shared) (farewells : List (ConnectionId × String)) (id : ConnectionId) :
    (s.dismiss farewells).connection? id =
      (s.connection? id).map fun c => (framesFor id farewells).head?.elim c (dismissed c) := by
  induction farewells generalizing s with
  | nil => exact Option.map_id'.symm
  | cons farewell rest ih =>
    obtain ⟨other, frame⟩ := farewell
    change (((s.post other frame).close other).dismiss rest).connection? id = _
    rw [ih, close, connection?_modify, connection?_post]
    by_cases hid : other = id
    · have hframes : framesFor id ((other, frame) :: rest) = frame :: framesFor id rest := by simp [framesFor, hid]
      rw [hframes, if_pos hid, if_pos hid, Option.map_map, Option.map_map]
      congr 1
      funext c
      cases (framesFor id rest).head? with
      | none => rfl
      | some again => exact dismissed_twice c frame again
    · have hframes : framesFor id ((other, frame) :: rest) = framesFor id rest := by simp [framesFor, hid]
      rw [hframes, if_neg hid, if_neg hid]

/-- Everybody to whom a farewell is due has been taken leave of, and nothing else has happened. -/
structure TakesLeave (s : Shared) (farewell : ConnectionId → String → Prop) (s' : Shared) : Prop where
  /-- There is room for one last frame, however many are due. -/
  queued : ∀ id c, (∃ frame, farewell id frame) → s.connection? id = some c → c.HasRoom →
    ∃ frame, farewell id frame ∧
      s'.connection? id = some { c with waiting := c.waiting ++ [frame], isOpen := false }
  /-- A full queue loses the first frame, and is closed for the others. -/
  full : ∀ id c, (∃ frame, farewell id frame) → s.connection? id = some c → c.isClosed = false →
    c.capacity ≤ c.waiting.length → s'.connection? id = some { c with dropped := c.dropped + 1, isOpen := false }
  closed : ∀ id c, (∃ frame, farewell id frame) → s.connection? id = some c → c.isClosed = true →
    s'.connection? id = some { c with isOpen := false }
  others : ∀ id, (∀ frame, ¬ farewell id frame) → s'.connection? id = s.connection? id
  rest : s' = { s with connections := s'.connections }

/-- A dismissal changes the connections and nothing else. -/
theorem dismiss_rest (s : Shared) (farewells : List (ConnectionId × String)) :
    s.dismiss farewells = { s with connections := (s.dismiss farewells).connections } := by
  induction farewells generalizing s with
  | nil => rfl
  | cons farewell rest ih =>
    have hfirst : s.dismiss (farewell :: rest) =
        ((s.post farewell.1 farewell.2).close farewell.1).dismiss rest := rfl
    rw [hfirst, ih, post_eq]
    rfl

/-- A dismissal takes leave of those for whom there is a frame. -/
theorem takesLeave_dismiss (s : Shared) (farewells : List (ConnectionId × String)) :
    s.TakesLeave (fun id frame => (id, frame) ∈ farewells) (s.dismiss farewells) := by
  have hmem (id : ConnectionId) (frame : String) : (id, frame) ∈ farewells ↔ frame ∈ framesFor id farewells := by
    simp [framesFor]
  have hdue {id : ConnectionId} (hdue : ∃ frame, (id, frame) ∈ farewells) {c : Connection}
      (hc : s.connection? id = some c) : ∃ frame, (id, frame) ∈ farewells ∧
        (s.dismiss farewells).connection? id = some (dismissed c frame) := by
    obtain ⟨frame, hframe⟩ := hdue
    rw [hmem] at hframe
    obtain ⟨first, others, hframes⟩ := List.exists_cons_of_ne_nil (List.ne_nil_of_mem hframe)
    exact ⟨first, (hmem id first).mpr (hframes ▸ List.mem_cons_self), by simp [connection?_dismiss, hframes, hc]⟩
  refine ⟨fun id c h hc hroom => ?queued, fun id c h hc hopen hfull => ?full, fun id c h hc hclosed => ?closed,
    fun id hnone => ?others, s.dismiss_rest farewells⟩
  case queued =>
    obtain ⟨frame, hframe, hafter⟩ := hdue h hc
    refine ⟨frame, hframe, ?_⟩
    rw [hafter, dismissed, hroom.send]
    rfl
  case full =>
    obtain ⟨frame, -, hafter⟩ := hdue h hc
    rw [hafter, dismissed, Connection.send_full hopen hfull]
    rfl
  case closed =>
    obtain ⟨frame, -, hafter⟩ := hdue h hc
    rw [hafter, dismissed, Connection.send_closed hclosed]
    rfl
  case others =>
    have hframes : framesFor id farewells = [] :=
      List.eq_nil_iff_forall_not_mem.mpr fun frame hframe => hnone frame ((hmem id frame).mpr hframe)
    simp [connection?_dismiss, hframes]

/-- It only matters to whom which frame is due. -/
theorem TakesLeave.congr {s s' : Shared} {due due' : ConnectionId → String → Prop} (h : s.TakesLeave due s')
    (hdue : ∀ id frame, due id frame ↔ due' id frame) : s.TakesLeave due' s' := by
  obtain rfl : due = due' := funext fun id => funext fun frame => propext (hdue id frame)
  exact h

end Shared

/-! ## The hubs -/

/-- The chat hub takes leave of every connection by the same notice. -/
theorem Chat.Hub.shutdown_takesLeave (h : Chat.Hub) (s : Shared) :
    s.TakesLeave
      (fun id frame => (∃ user, (user, id, ()) ∈ h.sockets.entries) ∧ frame = Chat.Message.shutdown.text)
      (h.shutdown s).2.1 := by
  refine (s.takesLeave_dismiss _).congr fun id frame => ?_
  simp only [List.mem_map, Prod.mk.injEq]
  constructor
  · rintro ⟨⟨user, connection, ⟨⟩⟩, hentry, rfl, rfl⟩
    exact ⟨⟨user, hentry⟩, rfl⟩
  · rintro ⟨⟨user, hentry⟩, rfl⟩
    exact ⟨(user, id, ()), hentry, rfl, rfl⟩

/-- The game hub takes leave of every connection for one of its rooms. -/
theorem Game.Hub.shutdown_takesLeave (h : Game.Hub) (s : Shared) :
    s.TakesLeave
      (fun id frame => ∃ room user, (room, user, id) ∈ h.seats.entries ∧ frame = (Game.Action.shutdown room).text)
      (h.shutdown s).2.1 := by
  refine (s.takesLeave_dismiss _).congr fun id frame => ?_
  simp only [List.mem_map, Prod.mk.injEq]
  constructor
  · rintro ⟨⟨room, user, connection⟩, hentry, rfl, rfl⟩
    exact ⟨room, user, hentry, rfl⟩
  · rintro ⟨room, user, hentry, rfl⟩
    exact ⟨(room, user, id), hentry, rfl, rfl⟩

/-- The signaling hub takes leave of every connection for one of its rooms. -/
theorem Signaling.Hub.shutdown_takesLeave (h : Signaling.Hub) (s : Shared) :
    s.TakesLeave
      (fun id frame => ∃ room user peer, (room, user, peer) ∈ h.rooms.entries ∧ peer.connection = id ∧
        frame = (Signaling.Signal.shutdown room).text)
      (h.shutdown s).2.1 := by
  refine (s.takesLeave_dismiss _).congr fun id frame => ?_
  simp only [List.mem_map, Prod.mk.injEq]
  constructor
  · rintro ⟨⟨room, user, peer⟩, hentry, rfl, rfl⟩
    exact ⟨room, user, peer, hentry, rfl, rfl⟩
  · rintro ⟨room, user, peer, hentry, rfl, rfl⟩
    exact ⟨(room, user, peer), hentry, rfl, rfl⟩

/-! ## After the shutdown -/

namespace Game

/-- A hub at which no forfeit is armed any more. -/
structure Hub.Silent (h : Hub) : Prop where
  stopped : h.isStopped = true
  unarmed : h.forfeits = []

/-- A stimulus by which a connection ends, or time passes. -/
def Stimulus.IsParting : Stimulus → Prop
  | .outside (.leave _ _) _ | .elapse _ _ => True
  | _ => False

namespace Site

/-- Once a hub has been shut down, nothing arms a forfeit. -/
theorem silent_meet {t : Site} (h : t.hub.Silent) (e : Happening) : (t.meet e).hub.Silent := by
  cases t.meet_hub e with
  | kept wiring heq => exact heq ▸ ⟨h.stopped, h.unarmed⟩
  | seated user room connection _ _ heq => exact heq ▸ ⟨h.stopped, by simp [Hub.disarm, h.unarmed]⟩
  | left room connection _ _ heq => exact heq ▸ ⟨h.stopped, h.unarmed⟩
  | armed room connection r _ _ _ _ _ hrunning _ => simp [h.stopped] at hrunning
  | fired f _ heq => exact heq ▸ ⟨h.stopped, by simp [h.unarmed]⟩
  | stopped _ heq => exact heq ▸ ⟨rfl, rfl⟩

theorem silent_run {t : Site} (h : t.hub.Silent) (happenings : List Happening) : (t.run happenings).hub.Silent := by
  induction happenings generalizing t with
  | nil => exact h
  | cons e rest ih => exact ih (silent_meet h e)

theorem silent_shutdown (t : Site) : (t.meet .shutdown).hub.Silent := ⟨rfl, rfl⟩

/-- Where no forfeit is armed, a stimulus leads to nothing else. -/
theorem course_of_silent {t : Site} (h : t.hub.Silent) (x : Stimulus) :
    x.course t = match x with
      | .outside e _ => [e]
      | .elapse span clock => [.pass (t.shared.now + span) clock] := by
  cases x with
  | outside e fromOutside => simp [Stimulus.course, (silent_meet h e).unarmed, expiries]
  | elapse span clock => simp [Stimulus.course, h.unarmed, expiries]

/-- After the shutdown no forfeit comes due, whatever happens and however much time passes. -/
theorem no_expiry {t : Site} (h : t.hub.Silent) (later : List Stimulus) (f : Forfeit) :
    .expire f ∉ t.course later := by
  induction later generalizing t with
  | nil => exact List.not_mem_nil
  | cons x rest ih =>
    rw [course, List.mem_append, not_or]
    refine ⟨?_, ih (silent_run h _)⟩
    rw [course_of_silent h]
    cases x with
    | outside e fromOutside =>
      rintro hmem
      obtain rfl := List.mem_singleton.mp hmem
      exact fromOutside
    | elapse span clock => simp

/-- Nobody who has not been registered since the seats were empty leaves a seat. -/
theorem leave_without_trace {t : Site} (hnobody : t.hub.seats = .empty) (happenings : List Happening) {room : RoomId}
    {connection : ConnectionId} (hnew : ∀ user, .register user room connection ∉ happenings) :
    (t.run happenings).meet (.leave room connection) = t.run happenings := by
  refine meet_leave_of_stale fun hseat => ?_
  obtain ⟨before, after, hsplit, -, -⟩ := lastSeated_of_seat hnobody happenings hseat
  exact hnew _ (hsplit ▸ List.mem_append_right _ List.mem_cons_self)

/-- While all seats are empty and no forfeit is armed, connections that end and time that passes decide nothing. -/
theorem parting_keeps {t : Site} (hnobody : t.hub.seats = .empty) (hsilent : t.hub.Silent) {later : List Stimulus}
    (hparting : ∀ x ∈ later, x.IsParting) :
    (t.run (t.course later)).store.rooms = t.store.rooms ∧ (t.run (t.course later)).store.moves = t.store.moves ∧
      (t.run (t.course later)).store.scores = t.store.scores := by
  induction later generalizing t with
  | nil => exact ⟨rfl, rfl, rfl⟩
  | cons x rest ih =>
    obtain ⟨hx, hrest⟩ := List.forall_mem_cons.mp hparting
    rw [course, course_of_silent hsilent]
    cases x with
    | outside e fromOutside =>
      cases e with
      | leave room connection =>
        have hsame : t.meet (.leave room connection) = t := leave_without_trace hnobody [] fun _ => List.not_mem_nil
        simpa only [List.singleton_append, run_cons, run_nil, hsame] using ih hnobody hsilent hrest
      | _ => exact hx.elim
    | elapse span clock => exact ih (t := t.meet (.pass (t.shared.now + span) clock)) hnobody hsilent hrest

end Site

/-! ## A shutdown between two accesses to the store -/

namespace Bustle

/-- The forfeits whose grace is over, though they have not gone off yet. -/
def overdue (b : Bustle) : List Forfeit := b.site.hub.forfeits.filter fun f => f.due ≤ b.site.shared.now

/--
A shutdown while calls are under way, which go on. A forfeit whose grace is over is not called off in time: it
may still go off.
-/
def shutdown (b : Bustle) : Bustle :=
  let t := b.site.meet .shutdown
  { b with site := { t with hub := { t.hub with forfeits := b.overdue } } }

theorem due_le_of_overdue {b : Bustle} {f : Forfeit} (h : f ∈ b.overdue) : f.due ≤ b.site.shared.now := by
  simpa using List.of_mem_filter h

theorem overdue_eq_nil {b : Bustle} (h : ∀ f ∈ b.site.hub.forfeits, b.site.shared.now < f.due) : b.overdue = [] :=
  List.filter_eq_nil_iff.mpr fun f hf => by simpa using h f hf

/-- If no grace is over, the hub is shut down in one go. -/
theorem shutdown_in_turn {b : Bustle} (h : ∀ f ∈ b.site.hub.forfeits, b.site.shared.now < f.due) :
    b.shutdown = { b with site := b.site.meet .shutdown } := by
  unfold shutdown
  rw [overdue_eq_nil h]
  rfl

theorem store_shutdown (b : Bustle) : b.shutdown.store = b.store :=
  congrArg Storage.store (b.site.shared.dismiss_storage _)

/-- A hub that has been shut down arms no forfeit. -/
theorem carryOut_arm_of_stopped {b : Bustle} (h : b.site.hub.isStopped = true) (room : RoomId) (user : UserId) :
    b.carryOut (.arm room user) = b := by
  simp only [carryOut, Hub.arm, h, if_true]

/-- A hub that has been shut down, where only some forfeits may still go off. -/
structure Stopped (b : Bustle) (late : List Forfeit) : Prop where
  stopped : b.site.hub.isStopped = true
  forfeits : b.site.hub.forfeits ⊆ late

theorem stopped_shutdown (b : Bustle) : b.shutdown.Stopped b.overdue := ⟨rfl, List.Subset.refl _⟩

/-- No step arms a forfeit at a hub that has been shut down. -/
theorem Stopped.step {b : Bustle} {late : List Forfeit} (h : b.Stopped late) (e : Step) : (b.step e).Stopped late := by
  cases b.step_change e with
  | idle heq | started _ _ _ heq | left _ _ _ heq | landed _ _ heq =>
    rw [heq]
    exact ⟨h.stopped, h.forfeits⟩
  | spared f _ heq | expired f heq =>
    rw [heq]
    exact ⟨h.stopped, fun g hg => h.forfeits (List.mem_of_mem_erase hg)⟩
  | met event he _ heq =>
    rw [heq]
    cases b.site.meet_hub event with
    | kept wiring hhub => exact ⟨congrArg Hub.isStopped hhub |>.trans h.stopped, hhub ▸ h.forfeits⟩
    | seated user room connection _ _ hhub =>
      exact ⟨congrArg Hub.isStopped hhub |>.trans h.stopped, fun g hg =>
        h.forfeits (Hub.mem_disarm.mp (hhub ▸ hg)).1⟩
    | left _ _ hevent | armed _ _ _ hevent | fired _ hevent | stopped hevent =>
      rw [hevent] at he
      exact he.elim
  | proceeded place task _ heq =>
    rw [heq]
    cases task with
    | look room user =>
      rcases carryOut_look_cases { b with tasks := b.tasks.eraseIdx place } room user with hlook | hlook | ⟨-, hlook⟩ <;>
      · rw [hlook]
        exact ⟨h.stopped, h.forfeits⟩
    | arm room user =>
      rw [carryOut_arm_of_stopped (b := { b with tasks := b.tasks.eraseIdx place }) h.stopped]
      exact ⟨h.stopped, h.forfeits⟩
    | load room call data => exact ⟨h.stopped, h.forfeits⟩

theorem Stopped.run {b : Bustle} {late : List Forfeit} (h : b.Stopped late) (later : List Step) :
    (b.run later).Stopped late := by
  induction later generalizing b with
  | nil => exact h
  | cons e rest ih => exact ih (h.step e)

/-- A forfeit that is not among those that may go off does not. -/
theorem Stopped.expire {b : Bustle} {late : List Forfeit} (h : b.Stopped late) {f : Forfeit} (hf : f ∉ late) :
    b.step (.expire f) = b := if_neg fun harmed => hf (h.forfeits harmed)

/-- No part of a call changes the seats. -/
theorem carryOut_seats (b : Bustle) (task : Task) : (b.carryOut task).site.hub.seats = b.site.hub.seats := by
  cases task with
  | look room user =>
    rcases b.carryOut_look_cases room user with hlook | hlook | ⟨-, hlook⟩ <;> rw [hlook] <;> rfl
  | arm room user =>
    unfold carryOut Hub.arm
    dsimp only
    split <;> rfl
  | load room call data => rfl

/-- A seat was taken before the step, or the step registers its connection. -/
theorem seat_of_step {b : Bustle} {e : Step} {room : RoomId} {user : UserId} {connection : ConnectionId}
    (h : (b.step e).site.hub.seats.get? room user = some connection) :
    b.site.hub.seats.get? room user = some connection ∨
      ∃ atOnce, e = .meet (.register user room connection) atOnce := by
  cases b.step_change e with
  | idle heq | started _ _ _ heq | spared _ _ heq | expired _ heq | landed _ _ heq => exact .inl (by rwa [heq] at h)
  | left left connection _ heq =>
    rw [heq] at h
    exact .inl (Site.seat_of_vacated h)
  | met event he hstep heq =>
    rw [heq] at h
    rcases Site.seat_meet (t := b.site) h with ⟨rfl, -⟩ | ⟨hseat, -⟩
    · exact .inr ⟨he, hstep⟩
    · exact .inl hseat
  | proceeded place task _ heq =>
    rw [heq, carryOut_seats] at h
    exact .inl h

/-- If nobody was seated at first, every seat is of a connection that was registered for it. -/
theorem registered_of_seat {b : Bustle} (hnobody : b.site.hub.seats = .empty) (later : List Step) {room : RoomId}
    {user : UserId} {connection : ConnectionId}
    (h : (b.run later).site.hub.seats.get? room user = some connection) :
    ∃ atOnce, .meet (.register user room connection) atOnce ∈ later := by
  induction later using List.reverseRecOn with
  | nil =>
    rw [run, List.foldl_nil, hnobody] at h
    contradiction
  | append_singleton earlier e ih =>
    rw [run, List.foldl_concat] at h
    rcases seat_of_step h with hseat | ⟨he, rfl⟩
    · obtain ⟨he, hmem⟩ := ih hseat
      exact ⟨he, List.mem_append_left _ hmem⟩
    · exact ⟨he, List.mem_concat_self⟩

/-- Nobody who has not been registered since the seats were empty leaves a seat. -/
theorem leave_without_trace {b : Bustle} (hnobody : b.site.hub.seats = .empty) (later : List Step) {room : RoomId}
    {connection : ConnectionId}
    (hnew : ∀ user atOnce, .meet (.register user room connection) atOnce ∉ later) :
    (b.run later).step (.leave room connection) = b.run later := by
  rcases (b.run later).site.hub.unseat_cases room ((b.run later).site.shared.userOf connection) connection with
    ⟨hseat, -⟩ | ⟨-, hunseat⟩
  · obtain ⟨he, hmem⟩ := registered_of_seat hnobody later hseat
    exact absurd hmem (hnew _ he)
  · simp only [step, hunseat]

/-- A step by which a connection ends, a forfeit comes due, time passes or what is under way goes on. -/
def Step.IsParting : Step → Prop
  | .leave .. | .expire _ | .proceed _ | .land _ => True
  | .meet e _ => ∃ now clock, e = .pass now clock
  | .join .. | .move .. | .forfeit .. => False

/-- While all seats are empty, no forfeit is armed and nothing is under way, a parting only sets the clock. -/
theorem parting_keeps {b : Bustle} (hnobody : b.site.hub.seats = .empty) (hsilent : b.Stopped [])
    (hidle : b.tasks = [] ∧ b.flights = []) {later : List Step} (hparting : ∀ e ∈ later, e.IsParting) :
    (b.run later).store.rooms = b.store.rooms ∧ (b.run later).store.moves = b.store.moves ∧
      (b.run later).store.scores = b.store.scores := by
  induction later generalizing b with
  | nil => exact ⟨rfl, rfl, rfl⟩
  | cons e rest ih =>
    obtain ⟨he, hrest⟩ := List.forall_mem_cons.mp hparting
    have hsame (hsame : b.step e = b) : (b.run (e :: rest)).store.rooms = b.store.rooms ∧
        (b.run (e :: rest)).store.moves = b.store.moves ∧ (b.run (e :: rest)).store.scores = b.store.scores := by
      rw [run, List.foldl_cons, hsame]
      exact ih hnobody hsilent hidle hrest
    cases e with
    | leave room connection => exact hsame (leave_without_trace hnobody [] fun _ _ => List.not_mem_nil)
    | expire f => exact hsame (hsilent.expire List.not_mem_nil)
    | proceed place => exact hsame (by simp only [step, hidle.1, List.getElem?_nil])
    | land place =>
      have hnone : b.traffic.step (.land place) = b.traffic := by simp [Traffic.step, traffic, hidle.2]
      exact hsame (congrArg b.withTraffic hnone)
    | meet event atOnce =>
      obtain ⟨now, clock, rfl⟩ := he
      exact ih (b := b.step (.meet (.pass now clock) atOnce)) hnobody (hsilent.step _) hidle hrest
    | join | move | forfeit => exact he.elim

end Bustle

end Game

/--
A shutdown of a hub in any state counts the members, empties every registry and takes leave of every member's
connection: it is closed, and gets one farewell of one of its rooms behind what waits in its queue if that is
open and has room, and otherwise none. At the game hub nothing that is stored changes by it. After it, whatever
is under way and whatever happens, a forfeit whose grace was not over does not go off, and a connection that has
not been registered again in a room leaves it without any effect. So while connections end and time passes, no
room, no move and no score changes, except by what was under way already.
-/
theorem shutdown_decides_nothing :
    (∀ (h : Chat.Hub) (s : Shared),
      (h.shutdown s).2.2 = h.sockets.memberCount ∧
        (h.shutdown s).1 = { h with sockets := .empty, conversations := .empty, memberships := .empty } ∧
        s.TakesLeave
          (fun id frame => (∃ user, (user, id, ()) ∈ h.sockets.entries) ∧ frame = Chat.Message.shutdown.text)
          (h.shutdown s).2.1) ∧
      (∀ (h : Signaling.Hub) (s : Shared),
        (h.shutdown s).2.2 = h.rooms.memberCount ∧ (h.shutdown s).1 = { h with rooms := .empty } ∧
          s.TakesLeave
            (fun id frame => ∃ room user peer, (room, user, peer) ∈ h.rooms.entries ∧ peer.connection = id ∧
              frame = (Signaling.Signal.shutdown room).text)
            (h.shutdown s).2.1) ∧
      (∀ t : Game.Site,
        (t.hub.shutdown t.shared).2.2 = t.hub.seats.memberCount ∧
          (t.meet .shutdown).hub = { t.hub with
            seats := .empty, userRooms := .empty, forfeits := [], isStopped := true } ∧
          t.shared.TakesLeave
            (fun id frame => ∃ room user, (room, user, id) ∈ t.hub.seats.entries ∧
              frame = (Game.Action.shutdown room).text)
            (t.meet .shutdown).shared ∧
          (t.meet .shutdown).store = t.store ∧
          ((∀ f ∈ t.hub.forfeits, t.shared.now < f.due) → ∀ later : List Game.Stimulus,
            let after := (t.meet .shutdown).run ((t.meet .shutdown).course later)
            ((∀ x ∈ later, x.IsParting) →
              after.store.rooms = t.store.rooms ∧ after.store.moves = t.store.moves ∧
                after.store.scores = t.store.scores) ∧
              (∀ f, .expire f ∉ (t.meet .shutdown).course later) ∧
              ∀ room connection, (∀ user, .register user room connection ∉ (t.meet .shutdown).course later) →
                after.meet (.leave room connection) = after)) ∧
      ∀ (b : Game.Bustle) (later : List Game.Bustle.Step),
        let after := b.shutdown.run later
        b.shutdown.store = b.store ∧
          ((∀ f ∈ b.site.hub.forfeits, b.site.shared.now < f.due) →
            b.shutdown = { b with site := b.site.meet .shutdown }) ∧
          (∀ f, (f ∈ b.site.hub.forfeits → b.site.shared.now < f.due) → after.step (.expire f) = after) ∧
          (∀ room connection, (∀ user atOnce, .meet (.register user room connection) atOnce ∉ later) →
            after.step (.leave room connection) = after) ∧
          ((∀ f ∈ b.site.hub.forfeits, b.site.shared.now < f.due) → b.tasks = [] → b.flights = [] →
            (∀ e ∈ later, e.IsParting) →
              after.store.rooms = b.store.rooms ∧ after.store.moves = b.store.moves ∧
                after.store.scores = b.store.scores) := by
  refine ⟨fun h s => ⟨h.sockets.length_entries, rfl, h.shutdown_takesLeave s⟩,
    fun h s => ⟨h.rooms.length_entries, rfl, h.shutdown_takesLeave s⟩, fun t => ?inOneGo, fun b later => ?underWay⟩
  case inOneGo =>
    have hstore : (t.meet .shutdown).store = t.store :=
      congrArg Game.Storage.store (t.shared.dismiss_storage _)
    refine ⟨t.hub.seats.length_entries, rfl, t.hub.shutdown_takesLeave t.shared, hstore, fun _ later =>
      ⟨fun hparting => ?_, fun f => Game.Site.no_expiry t.silent_shutdown later f,
        fun room connection hnew => Game.Site.leave_without_trace rfl _ hnew⟩⟩
    rw [← hstore]
    exact Game.Site.parting_keeps rfl t.silent_shutdown hparting
  case underWay =>
    refine ⟨b.store_shutdown, Game.Bustle.shutdown_in_turn,
      fun f hgrace => (b.stopped_shutdown.run later).expire fun hover => ?_,
      fun room connection => Game.Bustle.leave_without_trace rfl later, fun hgrace htasks hflights hparting => ?_⟩
    · exact absurd (hgrace (List.mem_of_mem_filter hover)) (Nat.not_lt.mpr (Game.Bustle.due_le_of_overdue hover))
    · have hsilent : b.shutdown.Stopped [] := by
        rw [← Game.Bustle.overdue_eq_nil hgrace]
        exact b.stopped_shutdown
      rw [← b.store_shutdown]
      exact Game.Bustle.parting_keeps (b := b.shutdown) rfl hsilent ⟨htasks, hflights⟩ hparting

namespace Game

/-- A connection in two rooms, in one of which the opponent has left the game. -/
def Site.crowded : Site :=
  (opening 5 3 lobby "").run
    [.connect 1 8, .connect 2 8, .create 1 .ticTacToe, .register 1 1 0, .register 2 1 1, sends 1 .joinRoom .null,
     .create 1 .ticTacToe, .register 1 2 0, .leave 1 1]

/-- The forfeit of the opponent who has left. -/
def Bustle.crowdedForfeit : Forfeit := { room := 1, user := 2, due := 5, ticket := 0 }

/-- The connection gets one farewell for both rooms, and neither its end nor the grace decides a game. -/
theorem Site.crowded_shutdown :
    (crowded.hub.shutdown crowded.shared).2.2 = 2 ∧ crowded.hub.forfeits = [Bustle.crowdedForfeit] ∧
      (∃ c frame, crowded.shared.connection? 0 = some c ∧
        (crowded.meet .shutdown).shared.connection? 0 =
          some { c with waiting := c.waiting ++ [frame], isOpen := false }) ∧
      ((crowded.meet .shutdown).run ((crowded.meet .shutdown).course
        [.outside (.leave 1 0) trivial, .outside (.leave 2 0) trivial, .elapse 100 ""])).store.rooms =
          crowded.store.rooms ∧
      (({ site := crowded } : Bustle).shutdown.run
        [.leave 1 0, .leave 2 0, .meet (.pass 100 "") trivial, .expire Bustle.crowdedForfeit, .proceed 0,
         .land 0]).store.rooms = crowded.store.rooms := by
  obtain ⟨hcount, -, hleave, -, hinOneGo⟩ := shutdown_decides_nothing.2.2.1 crowded
  have hforfeits : crowded.hub.forfeits = [Bustle.crowdedForfeit] := by decide +kernel
  have hgrace : ∀ f ∈ crowded.hub.forfeits, crowded.shared.now < f.due := by
    rw [hforfeits]
    decide +kernel
  obtain ⟨c, hc, hroom⟩ : ∃ c, crowded.shared.connection? 0 = some c ∧ c.HasRoom := by
    have hany : ∃ c ∈ crowded.shared.connection? 0, c.isClosed = false ∧ c.waiting.length < c.capacity := by
      decide +kernel
    exact hany
  obtain ⟨frame, -, hafter⟩ := hleave.queued 0 c ⟨_, 1, 1, by decide +kernel, rfl⟩ hc hroom
  have hunderWay (later : List Bustle.Step) :=
    (shutdown_decides_nothing.2.2.2 { site := crowded } later).2.2.2.2 hgrace rfl rfl
  refine ⟨hcount.trans (by decide +kernel), hforfeits, ⟨c, frame, hc, hafter⟩, ((hinOneGo hgrace _).1 ?_).1,
    (hunderWay _ ?_).1⟩
  · simp [Stimulus.IsParting]
  · simp [Bustle.Step.IsParting]

/-- A creator alone in a room. -/
def Bustle.waiting : Bustle :=
  { site := (Site.opening 5 3 Site.lobby "").run [.connect 1 8, .create 1 .ticTacToe, .register 1 1 0] }

/-- The grace of the opponent who has left is over. -/
def Bustle.belated : Bustle := { site := Site.crowded.meet (.pass 5 "") }

/--
A creator who registers again after the shutdown and leaves gives the room up. A forfeit whose grace is over at
the shutdown may still decide the game.
-/
theorem Bustle.registered_again_or_overdue :
    ((waiting.store.room 1).toOption.bind (·.map Room.status) = some .pending ∧
      ((waiting.shutdown.run
        [.meet (.register 1 1 0) trivial, .leave 1 0, .proceed 0, .proceed 0, .land 0]).store.room 1).toOption.bind
          (·.map Room.status) = some .cancelled) ∧
    (belated.store.room 1).toOption.bind (·.map Room.status) = some .active ∧
      ((belated.shutdown.run [.expire crowdedForfeit, .proceed 0, .land 0]).store.room 1).toOption.bind
        (·.map Room.status) = some .finished := by
  decide +kernel

end Game

end Parlor
