import Parlor.Proofs.Game.Bustle
import Mathlib.Data.Nat.Order.Lemmas

/-!
# Leaving while others are busy

A leave that was judged while the room still waited arms no forfeit, also if the game has started in the
meantime. So a player of an active room whom nobody waits for is one who was not there when the game
started, and whose leave had been judged by then. Everybody else is seated, or has an armed forfeit.
-/

namespace Parlor.Game

open Text (Nanos)

/-! ## Who is waited for -/

namespace Bustle

/-- A user has a seat. -/
def Seated (b : Bustle) (id : RoomId) (user : UserId) : Prop := b.site.hub.isRegistered id user = true

/-- A forfeit of a user is armed. -/
def Armed (b : Bustle) (id : RoomId) (user : UserId) : Prop :=
  ∃ f ∈ b.site.hub.forfeits, f.room = id ∧ f.user = user

/-- Somebody sees to it that a game does not wait for a user for ever. -/
inductive Minded (b : Bustle) (id : RoomId) (user : UserId) : Prop
  | seated (seated : b.Seated id user)
  | armed (armed : b.Armed id user)
  | leaving (task : .look id user ∈ b.tasks)
  | arming (task : .arm id user ∈ b.tasks)
  | starting (data : String) (task : .load id (.forfeit user) data ∈ b.tasks)
  | ending (f : Flight) (flight : f ∈ b.flights) (room : f.loaded.id = id) (call : f.call = .forfeit user)

/-- Users are minded as long as nothing is lost of what sees to it. -/
theorem Minded.mono {b b' : Bustle} {id : RoomId} {user : UserId} (h : b.Minded id user)
    (hseated : b.Seated id user → b'.Minded id user) (harmed : b.Armed id user → b'.Minded id user)
    (htasks : ∀ task ∈ b.tasks, task ∈ b'.tasks) (hflights : ∀ f ∈ b.flights, f ∈ b'.flights) :
    b'.Minded id user := by
  cases h with
  | seated hseat => exact hseated hseat
  | armed hf => exact harmed hf
  | leaving htask => exact .leaving (htasks _ htask)
  | arming htask => exact .arming (htasks _ htask)
  | starting data htask => exact .starting data (htasks _ htask)
  | ending f hf hroom hcall => exact .ending f (hflights f hf) hroom hcall

/-- What is planned takes nothing away. -/
theorem Minded.plan {b : Bustle} {id : RoomId} {user : UserId} (h : b.Minded id user) (task : Task) :
    (b.plan task).Minded id user :=
  h.mono (fun hseat => .seated hseat) (fun hf => .armed hf) (fun _ hmem => List.mem_append_left _ hmem) fun _ hf => hf

/-! ## What a step can add -/

/-- What was planned is there, beside what was there before. -/
theorem mem_plan {b : Bustle} {task other : Task} : other ∈ (b.plan task).tasks ↔ other ∈ b.tasks ∨ other = task := by
  simp [plan]

/-- Nothing that happens at once arms a forfeit. -/
theorem forfeits_meet {t : Site} {e : Happening} (he : e.AtOnce) {f : Forfeit} (hf : f ∈ (t.meet e).hub.forfeits) :
    f ∈ t.hub.forfeits := by
  cases t.meet_hub e with
  | kept wiring heq =>
    rw [heq] at hf
    exact hf
  | seated user room connection _ _ heq =>
    rw [heq] at hf
    exact (Hub.mem_disarm.mp hf).1
  | left _ _ hevent | armed _ _ _ hevent | fired _ hevent | stopped hevent =>
    rw [hevent] at he
    exact he.elim

/-- A forfeit is armed only where that was to be done. -/
theorem armed_step {b : Bustle} {e : Step} {id : RoomId} {user : UserId} (h : (b.step e).Armed id user) :
    b.Armed id user ∨ .arm id user ∈ b.tasks := by
  obtain ⟨f, hf, rfl, rfl⟩ := h
  cases b.step_change e with
  | idle heq | started _ _ _ heq | left _ _ _ heq | landed _ _ heq =>
    rw [heq] at hf
    exact .inl ⟨f, hf, rfl, rfl⟩
  | met event he _ heq =>
    rw [heq] at hf
    exact .inl ⟨f, forfeits_meet he hf, rfl, rfl⟩
  | spared g _ heq | expired g heq =>
    rw [heq] at hf
    exact .inl ⟨f, List.mem_of_mem_erase hf, rfl, rfl⟩
  | proceeded place task hplanned heq =>
    rw [heq] at hf
    cases task with
    | look room user =>
      rcases carryOut_look_cases { b with tasks := b.tasks.eraseIdx place } room user with h | h | ⟨-, h⟩ <;>
        rw [h] at hf <;> exact .inl ⟨f, hf, rfl, rfl⟩
    | arm room user =>
      unfold carryOut Hub.arm at hf
      dsimp only at hf
      split at hf
      · exact .inl ⟨f, hf, rfl, rfl⟩
      · rcases List.mem_append.mp hf with hf | hf
        · exact .inl ⟨f, (Hub.mem_disarm.mp hf).1, rfl, rfl⟩
        · rw [List.mem_singleton.mp hf]
          exact .inr (List.mem_of_getElem? hplanned)
    | load room call data => exact .inl ⟨f, hf, rfl, rfl⟩

/-- Where a task comes from that is still to be done after a step. -/
inductive Origin (b : Bustle) : Task → Prop
  | kept {task : Task} (planned : task ∈ b.tasks) : b.Origin task
  | load (room : RoomId) (call : Call) (data : String) : b.Origin (.load room call data)
  /-- A seat has been left. -/
  | look {room : RoomId} {user : UserId} (seated : b.Seated room user) : b.Origin (.look room user)
  /-- The room of a seat that was left has turned out to be active. -/
  | arm {room : RoomId} {user : UserId} {r : Room} (looked : .look room user ∈ b.tasks)
      (loaded : b.store.room room = .ok (some r)) (active : r.status = .active)
      (player : r.isParticipant user = true) : b.Origin (.arm room user)

/-- Every task comes from somewhere. -/
theorem origin_of_mem_step {b : Bustle} {e : Step} {task : Task} (h : task ∈ (b.step e).tasks) : b.Origin task := by
  cases b.step_change e with
  | idle heq | met _ _ _ heq | spared _ _ heq | landed _ _ heq =>
    rw [heq] at h
    exact .kept h
  | started room call data heq | expired _ heq =>
    rw [heq, mem_plan] at h
    rcases h with h | rfl
    · exact .kept h
    · exact .load ..
  | left room connection hcurrent heq =>
    rw [heq, mem_plan] at h
    rcases h with h | rfl
    · exact .kept h
    · refine .look ?_
      rw [Seated, Hub.isRegistered, Registry.contains, hcurrent]
      rfl
  | proceeded place other hplanned heq =>
    rw [heq] at h
    cases other with
    | look room user =>
      rcases carryOut_look_cases { b with tasks := b.tasks.eraseIdx place } room user with
        hlook | hlook | ⟨⟨r, hloaded, hactive, hplayer⟩, hlook⟩ <;> rw [hlook] at h
      · exact .kept (List.mem_of_mem_eraseIdx h)
      · rcases mem_plan.mp h with h | rfl
        · exact .kept (List.mem_of_mem_eraseIdx h)
        · exact .load ..
      · rcases mem_plan.mp h with h | rfl
        · exact .kept (List.mem_of_mem_eraseIdx h)
        · exact .arm (List.mem_of_getElem? hplanned) hloaded hactive hplayer
    | arm | load => exact .kept (List.mem_of_mem_eraseIdx h)

/-- A room is looked at only when a seat there was left. -/
theorem look_step {b : Bustle} {e : Step} {id : RoomId} {user : UserId} (h : .look id user ∈ (b.step e).tasks) :
    .look id user ∈ b.tasks ∨ b.Seated id user := by
  cases origin_of_mem_step h with
  | kept hplanned => exact .inl hplanned
  | look hseat => exact .inr hseat

/-- A forfeit is to be armed only where a seat was left and the room was active. -/
theorem arm_step {b : Bustle} {e : Step} {id : RoomId} {user : UserId} (h : .arm id user ∈ (b.step e).tasks) :
    .arm id user ∈ b.tasks ∨ .look id user ∈ b.tasks ∧
      ∃ r, b.store.room id = .ok (some r) ∧ r.status = .active ∧ r.isParticipant user = true := by
  cases origin_of_mem_step h with
  | kept hplanned => exact .inl hplanned
  | arm hlooked hloaded hactive hplayer => exact .inr ⟨hlooked, _, hloaded, hactive, hplayer⟩

/-- The course of a hub that is not shut down: forfeits are armed in rooms in which a game has started. -/
structure Sound (b : Bustle) : Prop where
  traffic : b.traffic.Sound
  running : b.site.hub.isStopped = false
  begun : ∀ id user, b.Armed id user ∨ .arm id user ∈ b.tasks → b.store.Begun id

/-- A game that has started stays one that has started. -/
theorem begun_step {b : Bustle} (h : b.traffic.Sound) {id : RoomId} (hbegun : b.store.Begun id) (e : Step) :
    (b.step e).store.Begun id := by
  obtain ⟨steps, hrun⟩ := b.traffic_step e
  have hlater := h.begun_run hbegun steps
  rwa [← hrun] at hlater

/-- Every step keeps the course sound. -/
theorem Sound.step {b : Bustle} (h : b.Sound) (e : Step) : (b.step e).Sound := by
  obtain ⟨steps, hrun⟩ := b.traffic_step e
  refine ⟨hrun ▸ h.traffic.run steps, running_step h.running e, fun id user hminded => ?_⟩
  rcases hminded with harmed | harm
  · exact begun_step h.traffic (h.begun id user (armed_step harmed)) e
  · rcases arm_step harm with harm | ⟨-, r, hroom, hactive, -⟩
    · exact begun_step h.traffic (h.begun id user (.inr harm)) e
    · -- an active room that was loaded has an opponent
      have hkeeps := h.traffic.keeps_of_room hroom
      obtain ⟨rival, hplay⟩ := (h.traffic.lawful hkeeps).inPlay hactive
      exact begun_step h.traffic ⟨r, rival, hkeeps, hplay.opponent⟩ e

/-! ## Nobody is lost while a game goes on -/

/-- Whoever is minded is minded after something has happened at once. -/
theorem Minded.met {b : Bustle} {id : RoomId} {user : UserId} (hm : b.Minded id user) {event : Happening}
    (he : event.AtOnce) : ({ b with site := b.site.meet event } : Bustle).Minded id user := by
  refine hm.mono (fun hseat => .seated ?_) (fun ⟨f, hf, hroom, huser⟩ => ?_) (fun _ h => h) fun _ h => h
  · change (b.site.meet event).hub.isRegistered id user = true
    cases b.site.meet_hub event with
    | kept _ hhub =>
      rw [hhub]
      exact hseat
    | seated name room connection _ _ hhub =>
      rw [hhub, Hub.isRegistered_seated]
      split
      · rfl
      · exact hseat
    | left _ _ hevent | armed _ _ _ hevent | fired _ hevent | stopped hevent =>
      rw [hevent] at he
      exact he.elim
  · cases hchange : b.site.meet_hub event with
    | kept _ hhub => exact .armed ⟨f, by simpa only [hhub] using hf, hroom, huser⟩
    | seated name room connection _ _ hhub =>
      by_cases hsame : id = room ∧ user = name
      · -- a forfeit is called off because its player is seated
        refine .seated ?_
        change (b.site.meet event).hub.isRegistered id user = true
        rw [hhub, Hub.isRegistered_seated, if_pos hsame]
      · refine .armed ⟨f, ?_, hroom, huser⟩
        rw [hhub]
        exact Hub.mem_disarm.mpr ⟨hf, fun hr hu => hsame ⟨hroom ▸ hr, huser ▸ hu⟩⟩
    | left _ _ hevent | armed _ _ _ hevent | fired _ hevent | stopped hevent =>
      rw [hevent] at he
      exact he.elim

/-- Whoever is minded is minded after a forfeit has come due, which is started unless its player is seated. -/
theorem Minded.erased {b : Bustle} {id : RoomId} {user : UserId} (hm : b.Minded id user) (f : Forfeit) {b' : Bustle}
    (hhub : b'.site.hub = { b.site.hub with forfeits := b.site.hub.forfeits.erase f })
    (htasks : ∀ task ∈ b.tasks, task ∈ b'.tasks) (hflights : ∀ g ∈ b.flights, g ∈ b'.flights)
    (hf : f.room = id → f.user = user → b'.Minded id user) : b'.Minded id user := by
  refine hm.mono (fun hseat => .seated ?_) (fun ⟨g, hg, hroom, huser⟩ => ?_) htasks hflights
  · rw [Seated, hhub]
    exact hseat
  · by_cases hne : g = f
    · exact hf (hne ▸ hroom) (hne ▸ huser)
    · exact .armed ⟨g, by rw [hhub]; exact (List.mem_erase_of_ne hne).mpr hg, hroom, huser⟩

/-- Whoever is minded is minded after something else was carried out. -/
theorem Minded.carriedOut {b : Bustle} (hrunning : b.site.hub.isStopped = false) {id : RoomId} {user : UserId}
    (hm : b.Minded id user) (task : Task) : (b.carryOut task).Minded id user := by
  cases task with
  | look room name =>
    rcases b.carryOut_look_cases room name with hlook | hlook | ⟨-, hlook⟩ <;> rw [hlook]
    · exact hm
    · exact hm.plan _
    · exact hm.plan _
  | arm room name =>
    rw [carryOut_arm hrunning]
    refine hm.mono (fun hseat => .seated hseat) (fun ⟨f, hf, hroom, huser⟩ => ?_) (fun _ h => h) fun _ h => h
    by_cases hsame : f.room = room ∧ f.user = name
    · exact .armed ⟨_, List.mem_append_right _ List.mem_cons_self, hsame.1 ▸ hroom, hsame.2 ▸ huser⟩
    · exact .armed ⟨f, List.mem_append_left _ (Hub.mem_disarm.mpr ⟨hf, fun hr hu => hsame ⟨hr, hu⟩⟩), hroom, huser⟩
  | load room call data =>
    refine hm.mono (fun hseat => .seated hseat) (fun hf => .armed hf) (fun _ h => h) fun f hf => ?_
    change f ∈ (b.traffic.step (.load room call data b.site.hub.winPoints)).flights
    unfold Traffic.step Traffic.send
    dsimp only
    split
    · split
      · exact List.mem_append_left _ hf
      · exact hf
    all_goals exact hf

/-- What sees to it that a game does not wait is still there when a task is taken out, or was that task. -/
theorem Minded.taken {b : Bustle} {id : RoomId} {user : UserId} (hm : b.Minded id user) {place : Nat} {task : Task}
    (hplanned : b.tasks[place]? = some task) :
    ({ b with tasks := b.tasks.eraseIdx place } : Bustle).Minded id user ∨
      task = .look id user ∨ task = .arm id user ∨ ∃ data, task = .load id (.forfeit user) data := by
  cases hm with
  | seated hseat => exact .inl (.seated hseat)
  | armed harmed => exact .inl (.armed harmed)
  | ending f hf hroom hcall => exact .inl (.ending f hf hroom hcall)
  | leaving htask =>
    by_cases hsame : .look id user = task
    · exact .inr (.inl hsame.symm)
    · exact .inl (.leaving (mem_eraseIdx_of_ne htask hplanned hsame))
  | arming htask =>
    by_cases hsame : .arm id user = task
    · exact .inr (.inr (.inl hsame.symm))
    · exact .inl (.arming (mem_eraseIdx_of_ne htask hplanned hsame))
  | starting data htask =>
    by_cases hsame : .load id (.forfeit user) data = task
    · exact .inr (.inr (.inr ⟨data, hsame.symm⟩))
    · exact .inl (.starting data (mem_eraseIdx_of_ne htask hplanned hsame))

/-- A part of a call that sees to it that an active game does not wait for a user leads to the next one. -/
theorem minded_carryOut {b : Bustle} (hrunning : b.site.hub.isStopped = false) {id : RoomId} {user : UserId} {r : Room}
    (hr : b.store.Keeps id r) (hlawful : r.Lawful) (hactive : r.status = .active) (hplayer : r.isParticipant user = true)
    {task : Task}
    (htask : task = .look id user ∨ task = .arm id user ∨ ∃ data, task = .load id (.forfeit user) data) :
    (b.carryOut task).Minded id user := by
  obtain ⟨r', hroom, hsame⟩ := hr.room
  have hactive' : r'.status = .active := (Room.status_of_untimed hsame).trans hactive
  rcases htask with rfl | rfl | ⟨data, rfl⟩
  · have hplayer' : r'.isParticipant user = true := (Room.isParticipant_of_untimed hsame user).trans hplayer
    have hlook : b.carryOut (.look id user) = b.plan (.arm id user) := by
      simp [carryOut, hroom, hactive', hplayer']
    rw [hlook]
    exact .arming (mem_plan.mpr (.inr rfl))
  · rw [carryOut_arm hrunning]
    exact .armed ⟨_, List.mem_append_right _ List.mem_cons_self, rfl, rfl⟩
  · obtain ⟨winner, hwinner⟩ := hlawful.opponentOf?_of_participant hactive hplayer
    have hwinner' : r'.opponentOf? user = some winner := (Room.opponentOf?_of_untimed hsame user).trans hwinner
    have hwrite := Room.write?_forfeit hactive' hwinner' data
    have hsent := Traffic.step_load (t := b.traffic) hroom hwrite b.site.hub.winPoints
    refine .ending ⟨r', .forfeit user, data, b.site.hub.winPoints, _, hwrite⟩ ?_ (hr.of_room hroom).id rfl
    change _ ∈ (b.traffic.step (.load id (.forfeit user) data b.site.hub.winPoints)).flights
    rw [hsent]
    exact List.mem_append_right _ List.mem_cons_self

/-- Whoever is minded stays so as long as the game in the room goes on. -/
theorem Minded.step {b : Bustle} {id : RoomId} {user : UserId} (hm : b.Minded id user) (h : b.Sound) {e : Step}
    {r : Room} (hr : (b.step e).store.Keeps id r) (hactive : r.status = .active)
    (hplayer : r.isParticipant user = true) : (b.step e).Minded id user := by
  cases b.step_change e with
  | idle heq => rwa [heq]
  | met event he _ heq =>
    rw [heq]
    exact hm.met he
  | started room call data heq =>
    rw [heq]
    exact hm.plan _
  | left room connection _ heq =>
    rw [heq]
    by_cases hsame : id = room ∧ user = b.site.shared.userOf connection
    · obtain ⟨rfl, rfl⟩ := hsame
      exact .leaving (mem_plan.mpr (.inr rfl))
    · have hvacated : ({ b with site := { b.site with
          hub := b.site.hub.vacated room (b.site.shared.userOf connection) } } : Bustle).Minded id user := by
        refine hm.mono (fun hseat => .seated ?_) (fun harmed => .armed harmed) (fun _ h => h) fun _ h => h
        rw [Seated, Hub.isRegistered_vacated, if_neg hsame]
        exact hseat
      exact hvacated.plan _
  | spared f hseated heq =>
    rw [heq]
    exact hm.erased f rfl (fun _ h => h) (fun _ h => h) fun hroom huser => .seated (hroom ▸ huser ▸ hseated)
  | expired f heq =>
    rw [heq]
    refine hm.erased f rfl (fun _ h => List.mem_append_left _ h) (fun _ h => h) fun hroom huser => ?_
    exact .starting "" (mem_plan.mpr (.inr (by rw [hroom, huser])))
  | proceeded place task hplanned heq =>
    rw [heq] at hr ⊢
    rcases hm.taken hplanned with hm | htask
    · exact Minded.carriedOut (b := { b with tasks := b.tasks.eraseIdx place }) h.running hm task
    · rw [carryOut_store] at hr
      exact minded_carryOut (b := { b with tasks := b.tasks.eraseIdx place }) h.running hr (h.traffic.lawful hr)
        hactive hplayer htask
  | landed place hevent heq =>
    rw [heq] at hr ⊢
    cases hm with
    | seated hseat => exact .seated hseat
    | armed harmed => exact .armed harmed
    | leaving htask => exact .leaving htask
    | arming htask => exact .arming htask
    | starting data htask => exact .starting data htask
    | ending f hf hroom hcall =>
      rcases Traffic.mem_flights_land (t := b.traffic) hf place with hf | hflight
      · exact .ending f hf hroom hcall
      · exact absurd hactive (h.traffic.ended_of_forfeit hflight hcall (hroom ▸ hr))

/-! ## Whole courses -/

/-- The course stays sound. -/
theorem Sound.after {b : Bustle} (h : b.Sound) (steps : List Step) (i : Nat) : (b.after steps i).Sound := by
  induction i with
  | zero => exact h
  | succ i ih =>
    cases hstep : steps[i]? with
    | none => rwa [after_succ_of_none hstep]
    | some e => exact after_succ hstep ▸ ih.step e

/-- A game that has started stays one that has started. -/
theorem Sound.begun_after {b : Bustle} (h : b.Sound) {steps : List Step} {i j : Nat} (hij : i ≤ j) {id : RoomId}
    (hbegun : (b.after steps i).store.Begun id) : (b.after steps j).store.Begun id := by
  obtain ⟨run, hrun⟩ := b.after_traffic steps hij
  have hlater := (h.after steps i).traffic.begun_run hbegun run
  rwa [← hrun] at hlater

/-- A game that goes on has gone on since it started. -/
theorem Sound.active_of_after {b : Bustle} (h : b.Sound) {steps : List Step} {i j : Nat} (hij : i ≤ j) {id : RoomId}
    (hbegun : (b.after steps i).store.Begun id) {r : Room} (hr : (b.after steps j).store.Keeps id r)
    (hactive : r.status = .active) :
    ∃ r₀, (b.after steps i).store.Keeps id r₀ ∧ r₀.status = .active ∧
      ∀ user, r₀.isParticipant user = r.isParticipant user := by
  obtain ⟨run, hrun⟩ := b.after_traffic steps hij
  refine (h.after steps i).traffic.active_of_run hbegun run ?_ hactive
  rw [← hrun]
  exact hr

/-- Whoever is minded when or before a game starts stays so as long as it goes on. -/
theorem Sound.minded_after {b : Bustle} (h : b.Sound) {steps : List Step} {i j : Nat} (hij : i ≤ j) {id : RoomId}
    {user : UserId} (hm : (b.after steps i).Minded id user) (hbegun : (b.after steps (i + 1)).store.Begun id)
    {r : Room} (hr : (b.after steps j).store.Keeps id r) (hactive : r.status = .active)
    (hplayer : r.isParticipant user = true) : (b.after steps j).Minded id user := by
  suffices hall : ∀ k, i ≤ k → k ≤ j → (b.after steps k).Minded id user from hall j hij (Nat.le_refl j)
  intro k hik
  induction k, hik using Nat.le_induction with
  | base => exact fun _ => hm
  | succ k hik ih =>
    intro hkj
    have hk := ih (Nat.le_of_succ_le hkj)
    cases hstep : steps[k]? with
    | none => rwa [after_succ_of_none hstep]
    | some e =>
      obtain ⟨r₀, hr₀, hactive₀, hplayers⟩ :=
        h.active_of_after hkj (h.begun_after (Nat.succ_le_succ hik) hbegun) hr hactive
      rw [after_succ hstep] at hr₀ ⊢
      exact hk.step (h.after steps k) hr₀ hactive₀ ((hplayers user).trans hplayer)

/-- A user has no seat and no armed forfeit, and no leave of the user is under way. -/
structure Gone (b : Bustle) (id : RoomId) (user : UserId) : Prop where
  absent : ¬ b.Seated id user
  unarmed : ¬ b.Armed id user
  judged : .look id user ∉ b.tasks
  settled : .arm id user ∉ b.tasks

/-- Whoever is gone stays gone until there is a seat again. -/
theorem Gone.after {b : Bustle} {steps : List Step} {i j : Nat} (hij : i ≤ j) {id : RoomId} {user : UserId}
    (hgone : (b.after steps i).Gone id user) (habsent : ∀ k, i ≤ k → ¬ (b.after steps k).Seated id user) :
    (b.after steps j).Gone id user := by
  induction j, hij using Nat.le_induction with
  | base => exact hgone
  | succ j hij ih =>
    have hlater := habsent (j + 1) (Nat.le_succ_of_le hij)
    cases hstep : steps[j]? with
    | none => rwa [after_succ_of_none hstep]
    | some e =>
      rw [after_succ hstep] at hlater ⊢
      exact {
        absent := hlater
        unarmed := fun harmed => (armed_step harmed).elim ih.unarmed ih.settled
        judged := fun hlook => (look_step hlook).elim ih.judged ih.absent
        settled := fun harm => (arm_step harm).elim ih.settled fun hlook => ih.judged hlook.1 }

/-- Once every call has returned, whoever is minded is seated or has an armed forfeit. -/
theorem Minded.returned {b : Bustle} {id : RoomId} {user : UserId} (hm : b.Minded id user) (htasks : b.tasks = [])
    (hflights : b.flights = []) : b.Seated id user ∨ b.Armed id user := by
  cases hm with
  | seated hseat => exact .inl hseat
  | armed harmed => exact .inr harmed
  | leaving htask | arming htask | starting _ htask =>
    rw [htasks] at htask
    contradiction
  | ending f hf =>
    rw [hflights] at hf
    contradiction

/-- A new hub over an empty store, with nothing under way. -/
def opening (grace : Nanos) (winPoints : Int64) (shared : Shared) (clock : String) : Bustle where
  site := .opening grace winPoints shared clock

/-- The course of a new hub is sound. -/
theorem sound_opening (grace : Nanos) (winPoints : Int64) (shared : Shared) (clock : String) :
    (opening grace winPoints shared clock).Sound :=
  ⟨Traffic.sound_start clock, rfl, fun _ _ hminded => by
    rcases hminded with ⟨f, hf, -⟩ | harm
    · exact absurd hf List.not_mem_nil
    · exact absurd harm List.not_mem_nil⟩

/-- A game that has started in the course of a new hub has started with one of the steps. -/
theorem exists_begins {grace : Nanos} {winPoints : Int64} {shared : Shared} {clock : String} {steps : List Step}
    {id : RoomId} (hbegun : ((opening grace winPoints shared clock).after steps steps.length).store.Begun id) :
    ∃ i, i ≤ steps.length ∧ ¬ ((opening grace winPoints shared clock).after steps i).store.Begun id ∧
      ((opening grace winPoints shared clock).after steps (i + 1)).store.Begun id := by
  have hempty : ¬ ((opening grace winPoints shared clock).after steps 0).store.Begun id := by
    rintro ⟨_, _, ⟨row, hrow, -⟩, -⟩
    simp [after, run, opening, store, Site.opening, Site.fresh, Site.store, Store.row?] at hrow
  obtain ⟨i, hnot, hstarts⟩ := Nat.exists_not_and_succ_of_not_zero_of_exists
    (p := fun k => ((opening grace winPoints shared clock).after steps k).store.Begun id) hempty ⟨_, hbegun⟩
  refine ⟨i, (Nat.le_total i steps.length).resolve_right fun hle => hnot ?_, hnot, hstarts⟩
  exact (sound_opening grace winPoints shared clock).begun_after hle hbegun

/--
A game starts without a user who has no seat and whose leave, if there was one, has been judged, and the
user does not come back.
-/
def Stranded (b : Bustle) (steps : List Step) (id : RoomId) (user : UserId) : Prop :=
  ∃ i, ¬ (b.after steps i).store.Begun id ∧ (b.after steps (i + 1)).store.Begun id ∧
    .look id user ∉ (b.after steps i).tasks ∧ ∀ k, i ≤ k → ¬ (b.after steps k).Seated id user

/--
Once every call has returned, each player of an active room is seated or has an armed forfeit there,
unless the game has started without that player, whose leave had been judged by then if there was one,
and who has not come back.
-/
theorem seated_or_armed_iff (grace : Nanos) (winPoints : Int64) (shared : Shared) (clock : String)
    (steps : List Step) {last : Bustle} (hlast : (opening grace winPoints shared clock).after steps steps.length = last)
    (htasks : last.tasks = []) (hflights : last.flights = []) {id : RoomId} {r : Room} (hr : last.store.Keeps id r)
    (hactive : r.status = .active) {user : UserId} (hplayer : r.isParticipant user = true) :
    last.Seated id user ∨ last.Armed id user ↔ ¬ (opening grace winPoints shared clock).Stranded steps id user := by
  have h := sound_opening grace winPoints shared clock
  have hbegins := @exists_begins grace winPoints shared clock steps id
  generalize opening grace winPoints shared clock = b at h hbegins hlast
  subst hlast
  constructor
  · rintro hminded ⟨i, hnot, hbegun, hlook, habsent⟩
    have hi : i ≤ steps.length := by
      refine Nat.le_of_not_lt fun hlt => hnot ?_
      rwa [after_succ_of_none (List.getElem?_eq_none (Nat.le_of_lt hlt))] at hbegun
    -- before the game starts there is no forfeit
    have hgone : (b.after steps i).Gone id user := {
      absent := habsent i (Nat.le_refl i)
      unarmed := fun harmed => hnot ((h.after steps i).begun id user (.inl harmed))
      judged := hlook
      settled := fun harm => hnot ((h.after steps i).begun id user (.inr harm)) }
    have hgone' := hgone.after hi habsent
    exact hminded.elim hgone'.absent hgone'.unarmed
  · intro hstranded
    have hstarted : (b.after steps steps.length).store.Begun id := by
      obtain ⟨rival, hplay⟩ := ((h.after steps steps.length).traffic.lawful hr).inPlay hactive
      exact ⟨r, rival, hr, hplay.opponent⟩
    obtain ⟨i, hi, hnot, hbegun⟩ := hbegins hstarted
    -- somebody minds the user when the game starts, or does so later on
    obtain ⟨k, hik, hk, hm⟩ : ∃ k, i ≤ k ∧ k ≤ steps.length ∧ (b.after steps k).Minded id user := by
      by_cases hlook : .look id user ∈ (b.after steps i).tasks
      · exact ⟨i, Nat.le_refl i, hi, .leaving hlook⟩
      · have hback : ∃ k, i ≤ k ∧ (b.after steps k).Seated id user := by
          by_contra hnever
          exact hstranded ⟨i, hnot, hbegun, hlook, fun k hik hseat => hnever ⟨k, hik, hseat⟩⟩
        obtain ⟨k, hik, hseat⟩ := hback
        rcases Nat.le_total k steps.length with hk | hk
        · exact ⟨k, hik, hk, .seated hseat⟩
        · exact ⟨_, hi, Nat.le_refl _, .seated (after_of_length_le hk ▸ hseat)⟩
    exact (h.minded_after hk hm (h.begun_after (Nat.succ_le_succ hik) hbegun) hr hactive hplayer).returned htasks
      hflights

/-- Two users take seats, and one creates a room. -/
def seatedPair : List Step :=
  [.meet (.connect 1 8) trivial, .meet (.connect 2 8) trivial, .meet (.create 1 .ticTacToe) trivial,
   .meet (.register 1 1 0) trivial, .meet (.register 2 1 1) trivial]

/-- The creator leaves an active game. -/
def leftPlaying : List Step := seatedPair ++ [.join 1 1, .proceed 0, .land 0, .leave 1 0, .proceed 0, .proceed 0]

/--
The creator leaves, and the room is loaded while it still waits. Before it is given up the other user
joins the game, and then there is nothing to give up any more. The two calls that may write the room
load it one after the other.
-/
def leftWaiting : List Step :=
  seatedPair ++ [.leave 1 0, .join 1 1, .proceed 0, .proceed 0, .land 0, .proceed 0]

/-- A test of a stored room is passed by a room that is stored, once every write has landed. -/
theorem keeps_after {steps : List Step} (id : RoomId) (test : Room → Bool)
    (hreturned : ((opening 5 3 Site.lobby "").after steps steps.length).flights.isEmpty = true)
    (hshows : ((opening 5 3 Site.lobby "").after steps steps.length).store.shows id test = true) :
    ∃ r, ((opening 5 3 Site.lobby "").after steps steps.length).store.Keeps id r ∧ test r = true := by
  have hsound := ((sound_opening 5 3 Site.lobby "").after steps steps.length).traffic
  rw [traffic, List.isEmpty_iff.mp hreturned] at hsound
  exact Store.Sound.keeps_of_shows hsound hshows

/-- A creator who left an active game was not away when it started. -/
theorem leftPlaying_not_stranded : ¬ (opening 5 3 Site.lobby "").Stranded leftPlaying 1 1 := by
  have hflights : ((opening 5 3 Site.lobby "").after leftPlaying leftPlaying.length).flights.isEmpty = true := by
    decide +kernel
  have htasks : ((opening 5 3 Site.lobby "").after leftPlaying leftPlaying.length).tasks.isEmpty = true := by
    decide +kernel
  obtain ⟨r, hr, htest⟩ := keeps_after 1 (fun r => r.status == .active && r.isParticipant 1) hflights
    (by decide +kernel)
  obtain ⟨hactive, hplayer⟩ : r.status = .active ∧ r.isParticipant 1 = true := by simpa using htest
  have harmed : ((opening 5 3 Site.lobby "").after leftPlaying leftPlaying.length).Armed 1 1 :=
    ⟨⟨1, 1, 5, 0⟩, by decide +kernel, rfl, rfl⟩
  exact (seated_or_armed_iff 5 3 Site.lobby "" leftPlaying rfl (List.isEmpty_iff.mp htasks)
    (List.isEmpty_iff.mp hflights) hr hactive hplayer).mp (.inr harmed)

/-- A creator who left while the room still waited plays in an active room that waits for nobody. -/
theorem leftWaiting_waits_for_ever :
    ((opening 5 3 Site.lobby "").after leftWaiting 5).Seated 1 1 ∧
      ∃ last, (opening 5 3 Site.lobby "").after leftWaiting leftWaiting.length = last ∧
        last.tasks = [] ∧ last.flights = [] ∧ ¬ last.Seated 1 1 ∧ ¬ last.Armed 1 1 ∧
        ∃ r, last.store.Keeps 1 r ∧ r.status = .active ∧ r.isParticipant 1 = true := by
  have hflights : ((opening 5 3 Site.lobby "").after leftWaiting leftWaiting.length).flights.isEmpty = true := by
    decide +kernel
  have htasks : ((opening 5 3 Site.lobby "").after leftWaiting leftWaiting.length).tasks.isEmpty = true := by
    decide +kernel
  have hforfeits : ((opening 5 3 Site.lobby "").after leftWaiting leftWaiting.length).site.hub.forfeits = [] := by
    decide +kernel
  obtain ⟨r, hr, htest⟩ := keeps_after 1 (fun r => r.status == .active && r.isParticipant 1) hflights
    (by decide +kernel)
  obtain ⟨hactive, hplayer⟩ : r.status = .active ∧ r.isParticipant 1 = true := by simpa using htest
  have habsent : ((opening 5 3 Site.lobby "").after leftWaiting leftWaiting.length).site.hub.isRegistered 1 1 = false := by
    decide +kernel
  have hfirst : ((opening 5 3 Site.lobby "").after leftWaiting 5).site.hub.isRegistered 1 1 = true := by decide +kernel
  refine ⟨hfirst, ?_⟩
  generalize (opening 5 3 Site.lobby "").after leftWaiting leftWaiting.length = last at *
  refine ⟨last, rfl, List.isEmpty_iff.mp htasks, List.isEmpty_iff.mp hflights,
    fun hseat => ?_, fun ⟨f, hf, _⟩ => ?_, r, hr, hactive, hplayer⟩
  · rw [Seated, habsent] at hseat
    contradiction
  · rw [hforfeits] at hf
    contradiction

end Bustle

end Parlor.Game
