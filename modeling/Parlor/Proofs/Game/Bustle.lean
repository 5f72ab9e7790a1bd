import Parlor.Proofs.Game.Access
import Parlor.Proofs.Game.Seats

/-!
# Calls that overlap

The calls at a hub, cut at every access to the store: whoever leaves gives up the seat first, has the
room loaded then, and only after that is the room given up or a forfeit armed. In between the other
calls go on, in any order, also in those that a lock on the room would rule out. A call that nobody
interrupts does what the hub does.
-/

namespace Parlor.Game

/-! ## Calls under way -/

/-- What a call at a hub has still to do. -/
inductive Task where
  /-- A user has left a seat, and the room is to be loaded. -/
  | look (room : RoomId) (user : UserId)
  /-- The room of a user who has left was active, and a forfeit is to be armed. -/
  | arm (room : RoomId) (user : UserId)
  /-- The room is to be loaded for a call that may write it. -/
  | load (room : RoomId) (call : Call) (data : String)

/-- A hub with the calls that are under way, and their writes on the way to the store. -/
structure Bustle where
  site : Site
  tasks : List Task := []
  flights : List Flight := []

/-- What happens between two accesses to the store. -/
def Happening.AtOnce : Happening → Prop
  | .connect .. | .create .. | .register .. | .pass .. => True
  | .frame .. | .leave .. | .expire _ | .forfeit .. | .wire | .pull | .shutdown => False

namespace Bustle

/-- A part of a call at a hub. -/
inductive Step where
  /-- Something happens that accesses the store once at most. -/
  | meet (e : Happening) (atOnce : e.AtOnce)
  /-- A connection with a seat asks to join the game in the room. -/
  | join (connection : ConnectionId) (room : RoomId)
  /-- A connection with a seat asks for a move. -/
  | move (connection : ConnectionId) (room : RoomId) (move : Move) (data : String)
  /-- A connection is taken off its seat. -/
  | leave (room : RoomId) (connection : ConnectionId)
  /-- An armed forfeit is due. -/
  | expire (f : Forfeit)
  /-- Somebody is to forfeit a game unless seated. -/
  | forfeit (room : RoomId) (user : UserId)
  /-- The next part of a call under way. -/
  | proceed (place : Nat)
  /-- A write reaches the store. -/
  | land (place : Nat)

/-- The store of the games. -/
def store (b : Bustle) : Store := b.site.store

/-- The store and the writes on their way to it. -/
def traffic (b : Bustle) : Traffic := ⟨b.store, b.flights⟩

/-- Puts a store and the writes on their way in place. -/
def withTraffic (b : Bustle) (t : Traffic) : Bustle where
  site :=
    { b.site with
      shared := { b.site.shared with storage := { b.site.shared.storage with store := t.store } } }
  tasks := b.tasks
  flights := t.flights

/-- Adds what a call has still to do. -/
def plan (b : Bustle) (task : Task) : Bustle := { b with tasks := b.tasks ++ [task] }

/-- Starts a call for a connection that has a seat. -/
def ask (b : Bustle) (connection : ConnectionId) (room : RoomId) (call : Call) (data : String) : Bustle :=
  if b.site.hub.seats.get? room (b.site.shared.userOf connection) = some connection then
    b.plan (.load room call data)
  else b

/-- Starts a forfeit, unless the user is seated. -/
def startForfeit (b : Bustle) (room : RoomId) (user : UserId) : Bustle :=
  if b.site.hub.isRegistered room user then b else b.plan (.load room (.forfeit user) "")

/-- Carries a part of a call out. -/
def carryOut (b : Bustle) : Task → Bustle
  | .look room user =>
    match b.store.room room with
    | .ok (some r) =>
      if r.status = .pending ∧ r.creator = user then b.plan (.load room .cancel "")
      else if r.status = .active ∧ r.isParticipant user then b.plan (.arm room user)
      else b
    | .ok none | .error _ => b
  | .arm room user =>
    let (hub, shared) := b.site.hub.arm b.site.shared room user
    { b with site := { hub, shared } }
  | .load room call data => b.withTraffic (b.traffic.step (.load room call data b.site.hub.winPoints))

/-- What a step leads to. -/
def step (b : Bustle) : Step → Bustle
  | .meet e _ => { b with site := b.site.meet e }
  | .join connection room => b.ask connection room (.join (b.site.shared.userOf connection)) ""
  | .move connection room move data => b.ask connection room (.move (b.site.shared.userOf connection) move) data
  | .leave room connection =>
    match b.site.hub.unseat room (b.site.shared.userOf connection) connection with
    | (hub, true) => { b with site := { b.site with hub } }.plan (.look room (b.site.shared.userOf connection))
    | (_, false) => b
  | .expire f =>
    if f ∈ b.site.hub.forfeits then
      { b with
        site := { b.site with hub := { b.site.hub with forfeits := b.site.hub.forfeits.erase f } } }.startForfeit
        f.room f.user
    else b
  | .forfeit room user => b.startForfeit room user
  | .proceed place =>
    match b.tasks[place]? with
    | some task => { b with tasks := b.tasks.eraseIdx place }.carryOut task
    | none => b
  | .land place => b.withTraffic (b.traffic.step (.land place))

/-- What several steps lead to, one after the other. -/
def run (b : Bustle) (steps : List Step) : Bustle := steps.foldl step b

/-- What the first of some steps lead to. -/
def after (b : Bustle) (steps : List Step) (i : Nat) : Bustle := b.run (steps.take i)

/-- What all steps have led to is not led any further. -/
theorem after_of_length_le {b : Bustle} {steps : List Step} {i : Nat} (h : steps.length ≤ i) :
    b.after steps i = b.after steps steps.length := by
  rw [after, after, List.take_of_length_le h, List.take_length]

/-- One more step starts from what those before it have led to. -/
theorem after_succ {b : Bustle} {steps : List Step} {i : Nat} {e : Step} (h : steps[i]? = some e) :
    b.after steps (i + 1) = (b.after steps i).step e := by
  simp [after, run, List.take_add_one, h]

/-- After the last step nothing changes any more. -/
theorem after_succ_of_none {b : Bustle} {steps : List Step} {i : Nat} (h : steps[i]? = none) :
    b.after steps (i + 1) = b.after steps i := by
  simp [after, List.take_add_one, h]

/-! ## Calls that nobody interrupts -/

/-- A call that is to load a room, and then makes its write, is an attempt. -/
theorem load_in_turn (t : Site) (room : RoomId) (call : Call) (data : String) :
    (({ site := t } : Bustle).plan (.load room call data)).run [.proceed 0, .land 0] =
      ({ site := t } : Bustle).withTraffic ⟨t.store.attempt room call data t.hub.winPoints, []⟩ :=
  congrArg (({ site := t } : Bustle).withTraffic) (t.store.attempt_eq_run room call data t.hub.winPoints)

/-- Where nothing is under way and nothing on its way, nothing goes on. -/
theorem run_idle (t : Site) : ({ site := t } : Bustle).run [.proceed 0, .land 0] = { site := t } := rfl

/-- What follows when a seat was left, in one go. -/
theorem look_in_turn {t : Site} (h : t.shared.storage.trouble = .none) (room : RoomId) (user : UserId) :
    (({ site := t } : Bustle).plan (.look room user)).run [.proceed 0, .proceed 0, .land 0] =
      { site := ⟨(t.hub.afterLeaving t.shared room user).1, (t.hub.afterLeaving t.shared room user).2⟩ } := by
  have hcall : t.shared.call (·.room room) = (t.shared, (t.store.room room).mapError Failure.storage) :=
    Hub.call_room h room
  change (({ site := t } : Bustle).carryOut (.look room user)).run [.proceed 0, .land 0] = _
  rw [carryOut, Hub.afterLeaving, hcall]
  change (match t.store.room room with
    | .ok (some r) => _
    | .ok none | .error _ => _ : Bustle).run _ = _
  cases hroom : t.store.room room with
  | error fault => exact run_idle t
  | ok found =>
    cases found with
    | none => exact run_idle t
    | some r =>
      simp only [Except.mapError]
      split
      case isTrue hwaits =>
        rw [load_in_turn, Hub.cancelPending_of_waits h hroom hwaits "" t.hub.winPoints]
        rfl
      case isFalse =>
        split
        · rfl
        · exact run_idle t

/-- A leave in one go does what the hub does. -/
theorem leave_in_turn {t : Site} (h : t.shared.storage.trouble = .none) (room : RoomId) (connection : ConnectionId) :
    ({ site := t } : Bustle).run [.leave room connection, .proceed 0, .proceed 0, .land 0] =
      { site := t.meet (.leave room connection) } := by
  rw [run, List.foldl_cons, step]
  rcases t.hub.unseat_cases room (t.shared.userOf connection) connection with ⟨-, hunseat⟩ | ⟨-, hunseat⟩
  · simp only [Site.meet, Hub.unregister, hunseat]
    exact look_in_turn (t := { t with hub := t.hub.vacated room (t.shared.userOf connection) }) h room _
  · simp only [Site.meet, Hub.unregister, hunseat]
    rfl

/-- A forfeit in one go does to the store what the hub does. -/
theorem forfeit_in_turn {t : Site} (h : t.shared.storage.trouble = .none) (room : RoomId) (user : UserId) :
    ({ site := t } : Bustle).run [.forfeit room user, .proceed 0, .land 0] =
      ({ site := t } : Bustle).withTraffic ⟨(t.meet (.forfeit room user)).store, []⟩ := by
  have hstore : (t.meet (.forfeit room user)).store =
      (t.hub.forfeitIfAbsent t.shared room user).1.storage.store := rfl
  rw [hstore, Hub.forfeitIfAbsent_storage h t.hub room user "", run, List.foldl_cons, step, startForfeit]
  by_cases hseated : t.hub.isRegistered room user
  · rw [if_pos hseated, if_pos hseated]
    rfl
  · rw [if_neg hseated, if_neg hseated]
    exact load_in_turn t room (.forfeit user) ""

/-- A forfeit that is due, in one go, does to the forfeits and to the store what the hub does. -/
theorem expire_in_turn {t : Site} (h : t.shared.storage.trouble = .none) {f : Forfeit} (hf : f ∈ t.hub.forfeits) :
    ({ site := t } : Bustle).run [.expire f, .proceed 0, .land 0] =
      ({ site := { t with hub := (t.meet (.expire f)).hub } } : Bustle).withTraffic
        ⟨(t.meet (.expire f)).store, []⟩ := by
  have hstep : ({ site := t } : Bustle).step (.expire f) =
      ({ site := { t with hub := { t.hub with forfeits := t.hub.forfeits.erase f } } } : Bustle).startForfeit
        f.room f.user := if_pos hf
  rw [run, List.foldl_cons, hstep]
  exact forfeit_in_turn (t := { t with hub := { t.hub with forfeits := t.hub.forfeits.erase f } }) h f.room f.user

/-- A join in one go does to the store what the hub does. -/
theorem join_in_turn {t : Site} (h : t.shared.storage.trouble = .none) {room : RoomId} {connection : ConnectionId}
    (hseat : t.hub.seats.get? room (t.shared.userOf connection) = some connection) :
    ({ site := t } : Bustle).run [.join connection room, .proceed 0, .land 0] =
      ({ site := t } : Bustle).withTraffic
        ⟨(t.hub.joinRoom t.shared room (t.shared.userOf connection)).1.storage.store, []⟩ := by
  have hstep : ({ site := t } : Bustle).step (.join connection room) =
      ({ site := t } : Bustle).plan (.load room (.join (t.shared.userOf connection)) "") := if_pos hseat
  rw [Hub.joinRoom_storage h t.hub room _ "", run, List.foldl_cons, hstep]
  exact load_in_turn t room _ ""

/-- A move in one go does to the store what the hub does. -/
theorem move_in_turn {t : Site} (h : t.shared.storage.trouble = .none) {room : RoomId} {connection : ConnectionId}
    (hseat : t.hub.seats.get? room (t.shared.userOf connection) = some connection) (move : Move)
    (payload : Json.Value) :
    ({ site := t } : Bustle).run [.move connection room move payload.text, .proceed 0, .land 0] =
      ({ site := t } : Bustle).withTraffic
        ⟨(t.hub.makeMove t.shared room (t.shared.userOf connection) move payload).1.storage.store, []⟩ := by
  have hstep : ({ site := t } : Bustle).step (.move connection room move payload.text) =
      ({ site := t } : Bustle).plan (.load room (.move (t.shared.userOf connection) move) payload.text) :=
    if_pos hseat
  rw [Hub.makeMove_storage h t.hub room _ move payload, run, List.foldl_cons, hstep]
  exact load_in_turn t room _ payload.text

/-! ## What a step can do -/

/-- What a step can lead to. -/
inductive Change (b : Bustle) (e : Step) (b' : Bustle) : Prop
  | idle (eq : b' = b)
  | met (event : Happening) (atOnce : event.AtOnce) (step : e = .meet event atOnce)
    (eq : b' = { b with site := b.site.meet event })
  /-- A call is started that may write the room. -/
  | started (room : RoomId) (call : Call) (data : String) (eq : b' = b.plan (.load room call data))
  /-- A seat is left, and the room is to be loaded. -/
  | left (room : RoomId) (connection : ConnectionId)
    (current : b.site.hub.seats.get? room (b.site.shared.userOf connection) = some connection)
    (eq : b' = { b with site := { b.site with hub := b.site.hub.vacated room (b.site.shared.userOf connection) } }.plan
      (.look room (b.site.shared.userOf connection)))
  /-- A forfeit is due of a player who is seated. -/
  | spared (f : Forfeit) (seated : b.site.hub.isRegistered f.room f.user = true)
    (eq : b' = { b with
      site := { b.site with hub := { b.site.hub with forfeits := b.site.hub.forfeits.erase f } } })
  /-- A forfeit is due of a player who is not seated, and is started. -/
  | expired (f : Forfeit)
    (eq : b' = { b with
      site := { b.site with hub := { b.site.hub with forfeits := b.site.hub.forfeits.erase f } } }.plan
      (.load f.room (.forfeit f.user) ""))
  /-- A part of a call that was planned is carried out. -/
  | proceeded (place : Nat) (task : Task) (planned : b.tasks[place]? = some task)
    (eq : b' = { b with tasks := b.tasks.eraseIdx place }.carryOut task)
  | landed (place : Nat) (event : e = .land place) (eq : b' = b.withTraffic (b.traffic.step (.land place)))

/-- A call is started for a connection that has a seat, or nothing happens. -/
theorem ask_change (b : Bustle) (e : Step) (connection : ConnectionId) (room : RoomId) (call : Call) (data : String) :
    b.Change e (b.ask connection room call data) := by
  unfold ask
  split
  · exact .started room call data rfl
  · exact .idle rfl

/-- What each step can lead to. -/
theorem step_change (b : Bustle) (e : Step) : b.Change e (b.step e) := by
  cases e with
  | meet e he => exact .met e he rfl rfl
  | join connection room => exact b.ask_change _ connection room _ _
  | move connection room move data => exact b.ask_change _ connection room _ _
  | leave room connection =>
    rcases b.site.hub.unseat_cases room (b.site.shared.userOf connection) connection with
      ⟨hcurrent, hunseat⟩ | ⟨-, hunseat⟩
    · exact .left room connection hcurrent (by simp only [step, hunseat])
    · exact .idle (by simp only [step, hunseat])
  | expire f =>
    by_cases hf : f ∈ b.site.hub.forfeits
    · by_cases hseated : b.site.hub.isRegistered f.room f.user
      · exact .spared f hseated ((if_pos hf).trans (if_pos hseated))
      · exact .expired f ((if_pos hf).trans (if_neg hseated))
    · exact .idle (if_neg hf)
  | forfeit room user =>
    by_cases hseated : b.site.hub.isRegistered room user
    · exact .idle (if_pos hseated)
    · exact .started room (.forfeit user) "" (if_neg hseated)
  | proceed place =>
    cases htask : b.tasks[place]? with
    | none => exact .idle (by simp only [step, htask])
    | some task => exact .proceeded place task htask (by simp only [step, htask])
  | land place => exact .landed place rfl rfl

/-- A room that is looked at is to be given up or waited for, or nothing follows. -/
theorem carryOut_look_cases (b : Bustle) (room : RoomId) (user : UserId) :
    b.carryOut (.look room user) = b ∨ b.carryOut (.look room user) = b.plan (.load room .cancel "") ∨
      (∃ r, b.store.room room = .ok (some r) ∧ r.status = .active ∧ r.isParticipant user = true) ∧
        b.carryOut (.look room user) = b.plan (.arm room user) := by
  unfold carryOut
  dsimp only
  split
  case h_1 r hroom =>
    split
    · exact .inr (.inl rfl)
    · split
      case isTrue hactive => exact .inr (.inr ⟨⟨r, hroom, hactive⟩, rfl⟩)
      case isFalse => exact .inl rfl
  all_goals exact .inl rfl

/-- No part of a call writes the store before its write has come there. -/
theorem carryOut_store (b : Bustle) (task : Task) : (b.carryOut task).store = b.store := by
  cases task with
  | look room user =>
    rcases b.carryOut_look_cases room user with hlook | hlook | ⟨-, hlook⟩ <;> rw [hlook] <;> rfl
  | arm room user =>
    unfold carryOut Hub.arm
    dsimp only
    split <;> rfl
  | load room call data =>
    change (b.traffic.step (.load room call data b.site.hub.winPoints)).store = b.store
    unfold Traffic.step Traffic.send
    dsimp only
    split
    · split <;> rfl
    all_goals rfl

/-- A forfeit is armed in place of another one. -/
theorem carryOut_arm {b : Bustle} (hrunning : b.site.hub.isStopped = false) (room : RoomId) (user : UserId) :
    b.carryOut (.arm room user) =
      { b with
        site :=
          { hub := { b.site.hub.disarm room user with
              forfeits := (b.site.hub.disarm room user).forfeits ++
                [⟨room, user, b.site.shared.now + b.site.hub.grace, b.site.shared.armed⟩] }
            shared := { b.site.shared with armed := b.site.shared.armed + 1 } } } := by
  simp only [carryOut, Hub.arm, hrunning, Bool.false_eq_true, if_false]
  rfl

/-- What happens at once is served by the store in one go. -/
theorem traffic_meet (b : Bustle) {e : Happening} (he : e.AtOnce) :
    ∃ steps, ({ b with site := b.site.meet e } : Bustle).traffic = b.traffic.run steps := by
  cases e with
  | connect | register =>
    refine ⟨[], ?_⟩
    unfold traffic store Site.meet Site.store
    dsimp only
    try split
    all_goals rfl
  | create creator gameType =>
    rcases b.site.shared.storage.insert_cases (·.createRoom creator gameType) with hstore | hstore
    · exact ⟨[], congrArg (Traffic.mk · b.flights) hstore⟩
    · exact ⟨[.create creator gameType], congrArg (Traffic.mk · b.flights) hstore⟩
  | pass now clock => exact ⟨[.tick clock], rfl⟩
  | frame | leave | expire | forfeit | wire | pull | shutdown => exact he.elim

/-- Every step is some steps of the traffic. -/
theorem traffic_step (b : Bustle) (e : Step) : ∃ steps, (b.step e).traffic = b.traffic.run steps := by
  cases b.step_change e with
  | idle heq | started _ _ _ heq | left _ _ _ heq | spared _ _ heq | expired _ heq =>
    exact ⟨[], by rw [heq]; rfl⟩
  | met event he _ heq =>
    rw [heq]
    exact b.traffic_meet he
  | landed place _ heq => exact ⟨[.land place], by rw [heq]; rfl⟩
  | proceeded place task _ heq =>
    rw [heq]
    cases task with
    | look room user =>
      rcases carryOut_look_cases { b with tasks := b.tasks.eraseIdx place } room user with h | h | ⟨-, h⟩ <;>
        exact ⟨[], by rw [h]; rfl⟩
    | arm room user =>
      refine ⟨[], ?_⟩
      unfold carryOut Hub.arm
      dsimp only
      split <;> rfl
    | load room call data => exact ⟨[.load room call data b.site.hub.winPoints], rfl⟩

/-- A hub stays running. -/
theorem running_step {b : Bustle} (h : b.site.hub.isStopped = false) (e : Step) :
    (b.step e).site.hub.isStopped = false := by
  cases b.step_change e with
  | idle heq | started _ _ _ heq | left _ _ _ heq | spared _ _ heq | expired _ heq | landed _ _ heq =>
    rw [heq]
    exact h
  | met event he _ heq =>
    rw [heq]
    cases b.site.meet_hub event with
    | kept _ hhub | seated _ _ _ _ _ hhub =>
      rw [hhub]
      exact h
    | left _ _ hevent | armed _ _ _ hevent | fired _ hevent | stopped hevent =>
      rw [hevent] at he
      exact he.elim
  | proceeded place task _ heq =>
    rw [heq]
    cases task with
    | look room user =>
      rcases carryOut_look_cases { b with tasks := b.tasks.eraseIdx place } room user with hlook | hlook | ⟨-, hlook⟩ <;>
        rw [hlook] <;> exact h
    | arm room user => exact congrArg (·.site.hub.isStopped) (carryOut_arm h room user) |>.trans h
    | load room call data => exact h

/-- What has come before leads to what comes later. -/
theorem after_traffic (b : Bustle) (steps : List Step) {i j : Nat} (hij : i ≤ j) :
    ∃ run, (b.after steps j).traffic = (b.after steps i).traffic.run run := by
  induction j, hij using Nat.le_induction with
  | base => exact ⟨[], rfl⟩
  | succ j _ ih =>
    obtain ⟨run, hrun⟩ := ih
    cases hstep : steps[j]? with
    | none => exact ⟨run, after_succ_of_none hstep ▸ hrun⟩
    | some e =>
      obtain ⟨more, hmore⟩ := (b.after steps j).traffic_step e
      refine ⟨run ++ more, ?_⟩
      rw [after_succ hstep, hmore, hrun, Traffic.run_append]

end Bustle

/-! ## What is still under way -/

/-- An element stays in a list from which another one is taken out. -/
theorem mem_eraseIdx_of_ne {α : Type} {l : List α} {place : Nat} {x y : α} (hx : x ∈ l) (hy : l[place]? = some y)
    (hne : x ≠ y) : x ∈ l.eraseIdx place := by
  obtain ⟨i, hi⟩ := List.mem_iff_getElem?.mp hx
  refine List.mem_eraseIdx_iff_getElem?.mpr ⟨i, ?_, hi⟩
  rintro rfl
  rw [hi, Option.some.injEq] at hy
  exact hne hy

/-- A write stays on its way until it lands. -/
theorem Traffic.mem_flights_land {t : Traffic} {f : Flight} (hf : f ∈ t.flights) (place : Nat) :
    f ∈ (t.step (.land place)).flights ∨ t.flights[place]? = some f := by
  cases hflight : t.flights[place]? with
  | none => exact .inl (by simpa only [Traffic.step, hflight] using hf)
  | some g =>
    by_cases hsame : f = g
    · exact .inr (congrArg some hsame.symm)
    · exact .inl (by simpa only [Traffic.step, hflight] using mem_eraseIdx_of_ne hf hflight hsame)

end Parlor.Game
