import Parlor.Proofs.Game.Access
import Parlor.Proofs.Game.Seats

/-!
# The grace of a forfeit

A hub with a clock. What comes from outside happens at once, and while time passes every forfeit is
carried out at the moment at which it is due. A player who leaves a seat in an active room, and does not
come back to it, loses the game exactly when the grace has passed, and nobody loses a game by a forfeit
in any other way.
-/

namespace Parlor.Game

open Text (Nanos)

namespace Site

/-! ## What can be observed -/

/--
A room ends by the forfeit of a user: its board stays as it was before the end, and the winner is the
player whom the user has played against.
-/
def Forfeits (t : Site) (e : Happening) (id : RoomId) (user : UserId) : Prop :=
  ∃ r r' winner, t.store.Keeps id r ∧ r.status ≠ .finished ∧ (t.meet e).store.Keeps id r' ∧
    r'.status = .finished ∧ r'.board = r.board ∧ r'.winner = some winner ∧ r'.opponentOf? user = some winner

/-- A game with a player goes on in a room. -/
def Active (t : Site) (id : RoomId) (user : UserId) : Prop :=
  ∃ r, t.store.Keeps id r ∧ r.status = .active ∧ r.isParticipant user = true

/-- The connection that sits for a player in an active room is disconnected. -/
def Abandons (t : Site) (e : Happening) (id : RoomId) (user : UserId) : Prop :=
  ∃ connection, e = .leave id connection ∧ t.shared.userOf connection = user ∧
    t.hub.seats.get? id user = some connection ∧ t.Active id user

/-- A user takes a seat in a room, or changes to another connection. -/
def Seats (t : Site) (e : Happening) (id : RoomId) (user : UserId) : Prop :=
  ∃ connection, e = .register user id connection ∧ t.hub.canRegister user id = true

/-- The hub after the first happenings of a course. -/
def after (t : Site) (course : List Happening) (i : Nat) : Site := t.run (course.take i)

@[simp] theorem after_zero (t : Site) (course : List Happening) : t.after course 0 = t := rfl

/-- One more happening is met by what those before it have led to. -/
theorem after_succ {t : Site} {course : List Happening} {i : Nat} {e : Happening} (h : course[i]? = some e) :
    t.after course (i + 1) = (t.after course i).meet e := by
  simp [after, run, List.take_add_one, h]

/-- After the last happening nothing changes any more. -/
theorem after_succ_of_none {t : Site} {course : List Happening} {i : Nat} (h : course[i]? = none) :
    t.after course (i + 1) = t.after course i := by
  simp [after, List.take_add_one, h]

/-- All happenings of a course lead to what the course leads to. -/
@[simp] theorem after_length (t : Site) (course : List Happening) : t.after course course.length = t.run course := by
  simp [after]

end Site

/-! ## Forfeits on time -/

/-- What may come to a hub from outside. -/
def Happening.FromOutside : Happening → Prop
  | .connect .. | .create .. | .register .. | .frame .. | .leave .. | .wire | .pull => True
  | .expire _ | .forfeit .. | .shutdown | .pass .. => False

namespace Site

/-- What may happen next at a hub that carries forfeits out as soon as they are due. -/
inductive Admits (t : Site) : Happening → Prop
  | outside {e : Happening} (outside : e.FromOutside) (prompt : ∀ f ∈ t.hub.forfeits, t.shared.now < f.due) :
    t.Admits e
  | expire {f : Forfeit} (armed : f ∈ t.hub.forfeits) (due : f.due ≤ t.shared.now) : t.Admits (.expire f)
  | pass {now : Nanos} {clock : String} (later : t.shared.now ≤ now) (prompt : ∀ f ∈ t.hub.forfeits, now ≤ f.due) :
    t.Admits (.pass now clock)

/-- Nothing is wrong with a hub, and no forfeit is overdue. -/
structure OnTime (t : Site) (grace : Nanos) : Prop where
  untroubled : t.shared.storage.trouble = .none
  responsive : t.shared.bus.mode ≠ .stalled
  sound : t.store.Sound
  tidy : t.hub.Tidy
  awaits : t.hub.Awaits t.store
  running : t.hub.isStopped = false
  grace : t.hub.grace = grace
  prompt : ∀ f ∈ t.hub.forfeits, t.shared.now ≤ f.due

/-- Only the shutdown stops a hub, and nothing changes its grace. -/
theorem meet_settings (t : Site) {e : Happening} (h : e ≠ .shutdown) :
    (t.meet e).hub.grace = t.hub.grace ∧ (t.meet e).hub.isStopped = t.hub.isStopped := by
  cases t.meet_hub e with
  | kept wiring heq | seated user room connection _ _ heq | left room connection _ _ heq
  | armed room connection r _ _ _ _ _ _ heq | fired f _ heq => exact heq ▸ ⟨rfl, rfl⟩
  | stopped hevent => exact absurd hevent h

/-- A forfeit that is armed was armed before, or a player has just abandoned the room. -/
theorem armed_cases {t : Site} (hs : t.store.Sound) {e : Happening} {f : Forfeit} (hf : f ∈ (t.meet e).hub.forfeits) :
    f ∈ t.hub.forfeits ∨ t.Abandons e f.room f.user ∧ f.due = t.shared.now + t.hub.grace := by
  cases t.meet_hub e with
  | kept wiring heq =>
    rw [heq] at hf
    exact .inl hf
  | seated user room connection _ _ heq =>
    rw [heq] at hf
    exact .inl (Hub.mem_disarm.mp hf).1
  | left room connection _ _ heq =>
    rw [heq] at hf
    exact .inl hf
  | armed room connection r hevent hcurrent hloaded hactive hplayer _ heq =>
    rw [heq] at hf
    rcases List.mem_append.mp hf with hf | hf
    · exact .inl (Hub.mem_disarm.mp hf).1
    · rw [List.mem_singleton.mp hf]
      exact .inr ⟨⟨connection, hevent, rfl, hcurrent, r, (hs.of_room hloaded).1, hactive, hplayer⟩, rfl⟩
  | fired g _ heq =>
    rw [heq] at hf
    exact .inl (List.mem_of_mem_erase hf)
  | stopped _ heq =>
    rw [heq] at hf
    contradiction

/-- What may happen next leaves a hub on time. -/
theorem OnTime.meet {t : Site} {grace : Nanos} (h : t.OnTime grace) {e : Happening} (ha : t.Admits e) :
    (t.meet e).OnTime grace := by
  have hshutdown : e ≠ .shutdown := by
    rintro rfl
    cases ha with
    | outside houtside => exact houtside
  obtain ⟨hgrace, hrunning⟩ := t.meet_settings hshutdown
  have htime : (t.meet e).shared.bus.mode ≠ .stalled ∧
      ∀ f ∈ (t.meet e).hub.forfeits, (t.meet e).shared.now ≤ f.due := by
    by_cases hpass : ∃ now clock, e = .pass now clock
    · obtain ⟨now, clock, rfl⟩ := hpass
      refine ⟨h.responsive, fun f hf => ?_⟩
      cases ha with
      | outside houtside => exact houtside.elim
      | pass _ hprompt => exact hprompt f hf
    · obtain ⟨hnow, hmode⟩ := meet_moment h.responsive (e := e) fun now clock heq => hpass ⟨now, clock, heq⟩
      refine ⟨hmode ▸ h.responsive, fun f hf => ?_⟩
      rw [hnow]
      rcases armed_cases h.sound hf with hf | ⟨-, hdue⟩
      · exact h.prompt f hf
      · exact hdue ▸ Nat.le_add_right _ _
  exact
    { untroubled := (meet_storage h.untroubled e).1
      responsive := htime.1
      sound := h.sound.served (t.meet_served e)
      tidy := h.tidy.meet e
      awaits := h.awaits.meet h.sound e
      running := hrunning.trans h.running
      grace := hgrace.trans h.grace
      prompt := htime.2 }

/-! ## What a forfeit comes from -/

end Site

/-- Two users who play against the same one are the same. -/
theorem Room.InPlay.opponentOf?_injective {r : Room} {rival : UserId} (h : r.InPlay rival) {a b other : UserId}
    (ha : r.opponentOf? a = some other) (hb : r.opponentOf? b = some other) : a = b := by
  have hdistinct := h.distinct
  rcases (opponentOf?_eq_some_iff h.opponent).mp ha with ⟨rfl, rfl⟩ | ⟨-, rfl, rfl⟩ <;>
    rcases (opponentOf?_eq_some_iff h.opponent).mp hb with ⟨rfl, hother⟩ | ⟨-, rfl, hother⟩
  · rfl
  · exact absurd hother hdistinct
  · exact absurd hother.symm hdistinct
  · rfl

namespace Site

/-- A room ends by a forfeit only when a forfeit of the user is due just now and the game goes on. -/
theorem OnTime.forfeits_cause {t : Site} {grace : Nanos} (h : t.OnTime grace) {e : Happening} (ha : t.Admits e)
    {id : RoomId} {user : UserId} (hforfeits : t.Forfeits e id user) :
    t.Active id user ∧ ∃ f ∈ t.hub.forfeits, e = .expire f ∧ f.room = id ∧ f.user = user ∧ f.due = t.shared.now := by
  obtain ⟨r, r', winner, hr, hbefore, hr', hended, hboard, hwinner, hother⟩ := hforfeits
  have hchanged : ¬ (t.meet e).store.Keeps id r := fun hsame =>
    hbefore ((Room.status_of_untimed (hsame.unique hr')).trans hended)
  cases (meet_storage h.untroubled e).2 with
  | kept heq => exact absurd (heq ▸ hr) hchanged
  | ticked now clock _ heq => exact absurd (heq ▸ hr.congr rfl) hchanged
  | created creator gameType heq => exact absurd (heq ▸ h.sound.createRoom_keeps hr creator gameType) hchanged
  | attempted id' call data hasked heq =>
    rw [heq] at hr' hchanged
    rcases h.sound.attempt_cases id' call data t.hub.winPoints with ⟨r₀, w, hr₀, hlawful, hleads, hkeeps⟩ | ⟨hidle, -⟩
    · obtain rfl : id = id' := by
        by_contra hid
        exact hchanged ((hkeeps id r).mpr (by rwa [if_neg hid]))
      have hresult : r'.untimed = w.room.untimed := by simpa using (hkeeps id r').mp hr'
      have hfound := hr₀.unique hr
      cases hleads with
      | join =>
        have hstatus := Room.status_of_untimed hresult
        rw [hended] at hstatus
        contradiction
      | cancel =>
        have hstatus := Room.status_of_untimed hresult
        rw [hended] at hstatus
        contradiction
      | @move mover other _ m c hlegal =>
        -- a move fills a cell that was free
        have hset : r'.board = r₀.board.set c (some m) :=
          (Room.board_of_untimed hresult).trans (r₀.afterMove_frame mover other c m).2.2.2.2.1
        have hcell : (r₀.board.set c (some m)).get c = none := by
          rw [← hset, hboard, ← Room.board_of_untimed hfound, hlegal.free]
        simp [Board.get_set] at hcell
      | @forfeit absent winner' hactive hopponent =>
        obtain ⟨rival, hplay⟩ := hlawful.inPlay hactive
        rw [Room.eq_of_untimed hresult] at hwinner hother
        obtain rfl : winner' = winner := Option.some.inj hwinner
        obtain rfl : user = absent := hplay.opponentOf?_injective hother hopponent
        have hplayer := Room.isParticipant_of_opponentOf?_eq_some hopponent
        refine ⟨⟨r₀, hr₀, hactive, hplayer⟩, ?_⟩
        cases ha with
        | @outside _ houtside => cases e <;> simp_all [Asks, Happening.FromOutside, Call.AskedBy]
        | @expire f harmed hdue =>
          obtain ⟨hroom, huser, -⟩ := hasked
          exact ⟨f, harmed, rfl, hroom, (Call.forfeit.inj huser).symm, le_antisymm hdue (h.prompt f harmed)⟩
        | pass => exact hasked.elim
    · rw [hidle] at hchanged
      exact absurd hr hchanged

/-- A forfeit that is carried out while the game goes on ends the room. -/
theorem OnTime.expire_forfeits {t : Site} {grace : Nanos} (h : t.OnTime grace) {f : Forfeit}
    (hf : f ∈ t.hub.forfeits) (hactive : t.Active f.room f.user) : t.Forfeits (.expire f) f.room f.user := by
  obtain ⟨r, hr, hstatus, hplayer⟩ := hactive
  obtain ⟨winner, hwinner⟩ := (h.sound.lawful hr).opponentOf?_of_participant hstatus hplayer
  have hstore := meet_expire_store h.untroubled (h.tidy.absent f hf)
  refine ⟨r, r.wonBy winner, winner, hr, by simp [hstatus], ?_, rfl, rfl, rfl, hwinner⟩
  rw [hstore]
  exact h.sound.attempt_forfeit hr hstatus hwinner "" t.hub.winPoints

/-! ## How long a forfeit stays armed -/

/-- Whoever takes a seat is registered. -/
theorem Seats.isRegistered {t : Site} {e : Happening} {id : RoomId} {user : UserId} (h : t.Seats e id user) :
    (t.meet e).hub.isRegistered id user = true := by
  obtain ⟨connection, rfl, hfree⟩ := h
  simp only [meet, Hub.register, if_pos hfree]
  rw [Hub.isRegistered_seated, if_pos ⟨rfl, rfl⟩]

/-- A forfeit stays armed until it is carried out or its player takes a seat. -/
theorem OnTime.stays_armed {t : Site} {grace : Nanos} (h : t.OnTime grace) {e : Happening} (ha : t.Admits e)
    {f : Forfeit} (hf : f ∈ t.hub.forfeits) (hexpire : e ≠ .expire f) (hseats : ¬ t.Seats e f.room f.user) :
    f ∈ (t.meet e).hub.forfeits := by
  cases t.meet_hub e with
  | kept wiring heq => exact heq ▸ hf
  | seated user room connection hevent hfree heq =>
    refine heq ▸ Hub.mem_disarm.mpr ⟨hf, fun hroom huser => hseats ⟨connection, ?_, ?_⟩⟩
    · rw [hevent, hroom, huser]
    · rwa [hroom, huser]
  | left room connection _ _ heq => exact heq ▸ hf
  | armed room connection r _ hcurrent _ _ _ _ heq =>
    refine heq ▸ List.mem_append_left _ (Hub.mem_disarm.mpr ⟨hf, fun hroom huser => ?_⟩)
    -- nobody who has a seat to leave has a forfeit
    have habsent := h.tidy.absent f hf
    rw [hroom, huser, Hub.isRegistered, Registry.contains, hcurrent] at habsent
    contradiction
  | fired g hevent heq =>
    refine heq ▸ (List.mem_erase_of_ne ?_).mpr hf
    rintro rfl
    exact hexpire hevent
  | stopped hevent =>
    subst hevent
    cases ha with
    | outside houtside => exact houtside.elim

/-- A player who abandons an active room has a forfeit that is due when the grace has passed. -/
theorem OnTime.abandons_armed {t : Site} {grace : Nanos} (h : t.OnTime grace) {e : Happening} {id : RoomId}
    {user : UserId} (habandons : t.Abandons e id user) :
    (∃ f ∈ (t.meet e).hub.forfeits, f.room = id ∧ f.user = user ∧ f.due = t.shared.now + grace) ∧
      (t.meet e).Active id user := by
  obtain ⟨connection, rfl, rfl, hcurrent, r, hr, hactive, hplayer⟩ := habandons
  obtain ⟨r', hroom, hsame⟩ := hr.room
  rw [Room.eq_of_untimed hsame] at hroom
  have hcall : t.shared.call (·.room id) = (t.shared, (t.store.room id).mapError Failure.storage) :=
    Hub.call_room h.untroubled id
  have hmeet : t.meet (.leave id connection) =
      { hub := ((t.hub.vacated id (t.shared.userOf connection)).arm t.shared id (t.shared.userOf connection)).1
        shared := ((t.hub.vacated id (t.shared.userOf connection)).arm t.shared id (t.shared.userOf connection)).2 } := by
    rcases t.hub.unseat_cases id (t.shared.userOf connection) connection with ⟨-, hunseat⟩ | ⟨hother, -⟩
    · have hnotPending : ¬ r.status = .pending := by simp [hactive]
      simp only [Site.meet, Hub.unregister, hunseat, Hub.afterLeaving, hcall, hroom, Except.mapError, hnotPending, false_and,
        if_false]
      rw [if_pos ⟨hactive, hplayer⟩]
    · exact absurd hcurrent hother
  have hrunning : (t.hub.vacated id (t.shared.userOf connection)).isStopped = false := h.running
  rw [hmeet]
  simp only [Hub.arm, hrunning, Bool.false_eq_true, if_false]
  refine ⟨⟨_, List.mem_append_right _ List.mem_cons_self, rfl, rfl, ?_⟩, r, hr, hactive, hplayer⟩
  exact congrArg (t.shared.now + ·) h.grace

/-! ## Courses on time -/

/-- Every forfeit of a course is carried out as soon as it is due. -/
def Prompt (t : Site) (course : List Happening) : Prop :=
  ∀ i e, course[i]? = some e → (t.after course i).Admits e

/-- No forfeit is due. -/
def Settled (t : Site) : Prop := ∀ f ∈ t.hub.forfeits, t.shared.now < f.due

/-- The first happening of a course may happen, and the others are prompt after it. -/
theorem prompt_cons {t : Site} {e : Happening} {rest : List Happening} (he : t.Admits e)
    (hrest : (t.meet e).Prompt rest) : t.Prompt (e :: rest) := by
  intro i e' hi
  cases i with
  | zero =>
    obtain rfl : e = e' := by simpa using hi
    exact he
  | succ i => exact hrest i e' (by simpa using hi)

/-- A prompt course may be followed by another one. -/
theorem Prompt.append {t : Site} {first rest : List Happening} (hfirst : t.Prompt first)
    (hrest : (t.run first).Prompt rest) : t.Prompt (first ++ rest) := by
  induction first generalizing t with
  | nil => exact hrest
  | cons e first ih =>
    have htail : (t.meet e).Prompt first := fun i e' hi => hfirst (i + 1) e' (by simpa using hi)
    exact prompt_cons (hfirst 0 e rfl) (ih htail hrest)

/-- A hub stays on time in a prompt course. -/
theorem OnTime.after {t : Site} {grace : Nanos} (h : t.OnTime grace) {course : List Happening}
    (hprompt : t.Prompt course) (i : Nat) : (t.after course i).OnTime grace := by
  induction i with
  | zero => exact h
  | succ i ih =>
    cases he : course[i]? with
    | none => rwa [after_succ_of_none he]
    | some e => exact after_succ he ▸ ih.meet (hprompt i e he)

/-- A forfeit that is armed in a prompt course was armed when its player left, who has not come back since. -/
theorem OnTime.abandoned {t : Site} {grace : Nanos} (h : t.OnTime grace) (hnone : t.hub.forfeits = [])
    {course : List Happening} (hprompt : t.Prompt course) (i : Nat) {f : Forfeit}
    (hf : f ∈ (t.after course i).hub.forfeits) :
    ∃ j e, j < i ∧ course[j]? = some e ∧ (t.after course j).Abandons e f.room f.user ∧
      (t.after course j).shared.now + grace = f.due ∧
      ∀ k e', j < k → k < i → course[k]? = some e' → ¬ (t.after course k).Seats e' f.room f.user := by
  induction i with
  | zero => simp [hnone] at hf
  | succ i ih =>
    have hon := h.after hprompt i
    cases he : course[i]? with
    | none =>
      rw [after_succ_of_none he] at hf
      obtain ⟨j, e, hj, hje, habandons, hdue, haway⟩ := ih hf
      refine ⟨j, e, by omega, hje, habandons, hdue, fun k e' hjk hki hk => ?_⟩
      rcases Nat.lt_succ_iff_lt_or_eq.mp hki with hki | rfl
      · exact haway k e' hjk hki hk
      · rw [he] at hk
        contradiction
    | some e =>
      have hnext := hon.meet (hprompt i e he)
      rw [after_succ he] at hf
      rcases armed_cases hon.sound hf with hold | ⟨habandons, hdue⟩
      · obtain ⟨j, e', hj, hje, habandons, hdue, haway⟩ := ih hold
        refine ⟨j, e', by omega, hje, habandons, hdue, fun k e'' hjk hki hk hseats => ?_⟩
        rcases Nat.lt_succ_iff_lt_or_eq.mp hki with hki | rfl
        · exact haway k e'' hjk hki hk hseats
        · -- whoever has just taken a seat has no forfeit
          obtain rfl : e = e'' := by simpa [he] using hk
          have habsent := hnext.tidy.absent f hf
          rw [hseats.isRegistered] at habsent
          contradiction
      · exact ⟨i, e, by omega, he, habandons, by rw [hdue, hon.grace], fun k e' hik hki => by omega⟩

/-- A stored room that has ended stays as it is in the rest of a course. -/
theorem after_keeps_ended {t : Site} (hs : t.store.Sound) {course : List Happening} {i j : Nat} (hij : i ≤ j)
    {id : RoomId} {r : Room} (hr : (t.after course i).store.Keeps id r) (hended : r.status.isTerminal = true) :
    (t.after course j).store.Keeps id r := by
  induction j, hij using Nat.le_induction with
  | base => exact hr
  | succ j _ ih =>
    cases he : course[j]? with
    | none => rwa [after_succ_of_none he]
    | some e =>
      rw [after_succ he]
      exact Store.Sound.served_keeps_ended (sound_run hs _) ((t.after course j).meet_served e) ih hended

/-- As long as a forfeit is due just now, nothing but a forfeit ends a game. -/
theorem OnTime.stays_active {t : Site} {grace : Nanos} (h : t.OnTime grace) {e : Happening} (ha : t.Admits e)
    (hdue : ∃ f ∈ t.hub.forfeits, f.due = (t.meet e).shared.now) {id : RoomId} {user : UserId}
    (hactive : t.Active id user) (hforfeits : ∀ f ∈ t.hub.forfeits, e = .expire f → f.room ≠ id) :
    (t.meet e).Active id user := by
  obtain ⟨r, hr, hstatus, hplayer⟩ := hactive
  cases ha with
  | outside houtside hprompt =>
    -- nothing comes from outside while a forfeit is due
    obtain ⟨f, hf, hnow⟩ := hdue
    obtain ⟨hmoment, -⟩ := meet_moment h.responsive (e := e) fun now clock heq => by
      rw [heq] at houtside
      exact houtside
    rw [hmoment] at hnow
    exact absurd hnow (hprompt f hf).ne'
  | @expire g hg hover =>
    refine ⟨r, ?_, hstatus, hplayer⟩
    rw [meet_expire_store h.untroubled (h.tidy.absent g hg)]
    exact (h.sound.attempt_keeps_other (Ne.symm (hforfeits g hg rfl)) _ _ _ r).mpr hr
  | pass => exact ⟨r, hr.congr rfl, hstatus, hplayer⟩

/-- A forfeit that is armed in an active room is carried out when it is due, if nothing comes in between. -/
theorem OnTime.carried_out {t : Site} {grace : Nanos} (h : t.OnTime grace) {course : List Happening}
    (hprompt : t.Prompt course) (hsettled : (t.run course).Settled) {f : Forfeit}
    (hreached : f.due ≤ (t.run course).shared.now) {j : Nat}
    (haway : ∀ k e, j < k → course[k]? = some e → (t.after course k).shared.now < f.due →
      ¬ (t.after course k).Seats e f.room f.user)
    (hgoes : ∀ k, j < k → k ≤ course.length → (t.after course k).shared.now < f.due →
      (t.after course k).Active f.room f.user)
    (halone : ∀ k e other, j < k → course[k]? = some e → (t.after course k).shared.now = f.due → other ≠ f.user →
      ¬ (t.after course k).Forfeits e f.room other)
    (k : Nat) (hjk : j < k) (hk : k ≤ course.length) (hf : f ∈ (t.after course k).hub.forfeits)
    (hactive : (t.after course k).Active f.room f.user) :
    ∃ i e, j < i ∧ course[i]? = some e ∧ (t.after course i).shared.now = f.due ∧
      (t.after course i).Forfeits e f.room f.user := by
  -- the forfeit stays armed and the room active until the forfeit is carried out, which the end enforces
  induction hleft : course.length - k generalizing k with
  | zero =>
    obtain rfl : k = course.length := by omega
    rw [after_length] at hf
    exact absurd (hsettled f hf) (not_lt.mpr hreached)
  | succ left ih =>
    obtain ⟨e, he⟩ : ∃ e, course[k]? = some e := ⟨_, List.getElem?_eq_getElem (by omega)⟩
    have hon := h.after hprompt k
    have hadmits := hprompt k e he
    have hnext : (t.after course (k + 1)).OnTime grace := h.after hprompt (k + 1)
    by_cases hexpire : e = .expire f
    · subst hexpire
      have hnow : (t.after course k).shared.now = f.due := by
        cases hadmits with
        | outside houtside => exact houtside.elim
        | expire _ hover => exact le_antisymm (hon.prompt f hf) hover
      exact ⟨k, _, hjk, he, hnow, hon.expire_forfeits hf hactive⟩
    · have hseats : ¬ (t.after course k).Seats e f.room f.user := by
        rintro hseats
        refine haway k e hjk he ?_ hseats
        obtain ⟨connection, rfl, -⟩ := hseats
        cases hadmits with
        | outside _ hquiet => exact hquiet f hf
      have harmed := hon.stays_armed hadmits hf hexpire hseats
      have hactive' : (t.after course (k + 1)).Active f.room f.user := by
        rcases lt_or_eq_of_le (hnext.prompt f (after_succ he ▸ harmed)) with hbefore | hnow
        · exact hgoes (k + 1) (by omega) (by omega) hbefore
        · rw [after_succ he] at hnow ⊢
          refine hon.stays_active hadmits ⟨f, hf, hnow.symm⟩ hactive fun g hg hevent hroom => ?_
          -- the forfeit of the other player would end the room at the same moment
          subst hevent
          have hother : g.user ≠ f.user := fun huser =>
            hexpire (congrArg Happening.expire (hon.tidy.unique hg hf hroom huser))
          obtain ⟨hmoment, -⟩ := meet_moment hon.responsive (e := .expire g) (by simp)
          refine halone k _ g.user hjk he (hmoment ▸ hnow) hother (hroom ▸ hon.expire_forfeits hg ?_)
          obtain ⟨r, hr, hstatus, -⟩ := hactive
          obtain ⟨r', winner, hr', hwinner⟩ := hon.awaits g hg
          rw [hroom] at hr'
          rw [Room.eq_of_untimed (hr'.unique hr)] at hwinner
          exact ⟨r, hroom ▸ hr, hstatus, Room.isParticipant_of_opponentOf?_eq_some hwinner⟩
      exact ih (k + 1) (by omega) (by omega) (after_succ he ▸ harmed) hactive' (by omega)

/-- The forfeits in a course keep to a grace. -/
structure KeepsGrace (t : Site) (course : List Happening) (grace : Nanos) : Prop where
  /--
  A room ends by the forfeit of a player only while the game goes on, and only when the grace has just
  passed since the player's connection was disconnected in the active room, without any return since.
  -/
  caused : ∀ i e id user, course[i]? = some e → (t.after course i).Forfeits e id user →
    (t.after course i).Active id user ∧
      ∃ j e', j < i ∧ course[j]? = some e' ∧ (t.after course j).Abandons e' id user ∧
        (t.after course j).shared.now + grace = (t.after course i).shared.now ∧
        ∀ k e'', j < k → k < i → course[k]? = some e'' → ¬ (t.after course k).Seats e'' id user
  /--
  When the grace has passed since a player has left the seat, and the player has not come back, the
  game has gone on all the time and no other forfeit ends it at that moment, then it ends by this one.
  -/
  carriedOut : ∀ j e' id user moment, course[j]? = some e' → (t.after course j).Abandons e' id user →
    (t.after course j).shared.now + grace = moment → moment ≤ (t.run course).shared.now →
    (∀ k e, j < k → course[k]? = some e → (t.after course k).shared.now < moment →
      ¬ (t.after course k).Seats e id user) →
    (∀ k, j < k → k ≤ course.length → (t.after course k).shared.now < moment → (t.after course k).Active id user) →
    (∀ k e other, j < k → course[k]? = some e → (t.after course k).shared.now = moment → other ≠ user →
      ¬ (t.after course k).Forfeits e id other) →
    ∃ i e, j < i ∧ course[i]? = some e ∧ (t.after course i).shared.now = moment ∧
      (t.after course i).Forfeits e id user
  /-- The disconnection of a connection that was replaced changes nothing. -/
  replaced : ∀ i id connection, course[i]? = some (.leave id connection) →
    (t.after course i).hub.seats.get? id ((t.after course i).shared.userOf connection) ≠ some connection →
    t.after course (i + 1) = t.after course i
  /-- No room ends by a forfeit twice. -/
  once : ∀ i j e e' id user user', i < j → course[i]? = some e → course[j]? = some e' →
    (t.after course i).Forfeits e id user → ¬ (t.after course j).Forfeits e' id user'

/-- A prompt course that ends when nothing is due keeps to the grace of its hub. -/
theorem OnTime.keepsGrace {t : Site} {grace : Nanos} (h : t.OnTime grace) (hnone : t.hub.forfeits = [])
    {course : List Happening} (hprompt : t.Prompt course) (hsettled : (t.run course).Settled) :
    t.KeepsGrace course grace := by
  refine ⟨fun i e id user he hforfeits => ?_, fun j e' id user moment he' habandons hmoment hreached haway hgoes halone => ?_,
    fun i id connection he hreplaced => ?_, fun i j e e' id user user' hij he he' hforfeits hagain => ?_⟩
  · obtain ⟨hactive, f, hf, -, rfl, rfl, hdue⟩ := (h.after hprompt i).forfeits_cause (hprompt i e he) hforfeits
    obtain ⟨j, e', hj, he', habandons, hmoment, haway⟩ := h.abandoned hnone hprompt i hf
    exact ⟨hactive, j, e', hj, he', habandons, hmoment.trans hdue, haway⟩
  · obtain ⟨⟨f, hf, rfl, rfl, hdue⟩, hactive⟩ := (h.after hprompt j).abandons_armed habandons
    obtain rfl : f.due = moment := hdue.trans hmoment
    obtain ⟨hlength, -⟩ := List.getElem?_eq_some_iff.mp he'
    exact h.carried_out hprompt hsettled hreached haway hgoes halone (j + 1) (Nat.lt_succ_self j) hlength
      (after_succ he' ▸ hf) (after_succ he' ▸ hactive)
  · rw [after_succ he]
    rcases (t.after course i).hub.unseat_cases id ((t.after course i).shared.userOf connection) connection with
      ⟨hcurrent, -⟩ | ⟨-, hunseat⟩
    · exact absurd hcurrent hreplaced
    · simp only [Site.meet, Hub.unregister, hunseat]
  · -- the room has ended for good
    obtain ⟨-, r, -, -, -, hr, hended, -⟩ := hforfeits
    obtain ⟨r', -, -, hr', hbefore, -⟩ := hagain
    have hkept := after_keeps_ended h.sound (Nat.succ_le_of_lt hij) (after_succ he ▸ hr) (by rw [hended]; rfl)
    exact hbefore ((Room.status_of_untimed (hr'.unique hkept)).trans hended)

end Site

/-! ## The clock -/

/-- What a hub with a clock is exposed to. -/
inductive Stimulus where
  | outside (e : Happening) (fromOutside : e.FromOutside)
  /-- Time passes. -/
  | elapse (span : Nanos) (clock : String)

/-- The first of two forfeits. -/
def Forfeit.first (best : Option Forfeit) (f : Forfeit) : Option Forfeit :=
  match best with
  | none => some f
  | some b => if f.precedes b then some f else some b

/-- The forfeit that is due first. -/
def Hub.nextForfeit? (h : Hub) : Option Forfeit := h.forfeits.foldl Forfeit.first none

namespace Site

/-- At most `n` forfeits that are due by a moment, each carried out when it is due. -/
def expiries (t : Site) (moment : Nanos) (clock : String) : (n : Nat) → List Happening
  | 0 => []
  | n + 1 =>
    match t.hub.nextForfeit? with
    | none => []
    | some f =>
      if f.due ≤ moment then
        .pass f.due clock :: .expire f :: (t.run [.pass f.due clock, .expire f]).expiries moment clock n
      else []

end Site

/-- What a stimulus leads to: whatever is due happens in the order of its time. -/
def Stimulus.course (t : Site) : Stimulus → List Happening
  | .outside e _ =>
    let next := t.meet e
    e :: next.expiries next.shared.now next.store.clock next.hub.forfeits.length
  | .elapse span clock =>
    t.expiries (t.shared.now + span) clock t.hub.forfeits.length ++ [.pass (t.shared.now + span) clock]

namespace Site

/-- What several stimuli lead to, one after the other. -/
def course (t : Site) : List Stimulus → List Happening
  | [] => []
  | s :: rest => s.course t ++ (t.run (s.course t)).course rest

end Site

/-- A forfeit that comes before another is not due later. -/
theorem Forfeit.due_le_of_precedes {f g : Forfeit} (h : f.precedes g = true) : f.due ≤ g.due := by
  simp only [precedes, Bool.or_eq_true, Bool.and_eq_true, decide_eq_true_iff, beq_iff_eq] at h
  rcases h with hlt | ⟨heq, -⟩
  · exact hlt.le
  · exact heq.le

/-- A forfeit that does not come before another is not due earlier. -/
theorem Forfeit.due_le_of_not_precedes {f g : Forfeit} (h : ¬ f.precedes g = true) : g.due ≤ f.due := by
  simp only [precedes, Bool.or_eq_true, decide_eq_true_iff, not_or, not_lt] at h
  exact h.1

/-- The first of some forfeits is one of them, and none of them is due before it. -/
theorem Forfeit.foldl_first (b : Forfeit) (forfeits : List Forfeit) :
    ∃ f, forfeits.foldl first (some b) = some f ∧ f ∈ b :: forfeits ∧ ∀ g ∈ b :: forfeits, f.due ≤ g.due := by
  induction forfeits generalizing b with
  | nil => exact ⟨b, rfl, List.mem_cons_self, by simp⟩
  | cons g rest ih =>
    by_cases hg : g.precedes b
    · obtain ⟨f, hfirst, hmem, hleast⟩ := ih g
      refine ⟨f, by simpa [first, hg] using hfirst, List.mem_cons_of_mem b hmem, ?_⟩
      rw [List.forall_mem_cons]
      exact ⟨(hleast g List.mem_cons_self).trans (due_le_of_precedes hg), hleast⟩
    · obtain ⟨f, hfirst, hmem, hleast⟩ := ih b
      rw [List.forall_mem_cons] at hleast
      refine ⟨f, by simpa [first, hg] using hfirst, ?_, ?_⟩
      · rcases List.mem_cons.mp hmem with rfl | hmem
        · exact List.mem_cons_self
        · exact List.mem_cons_of_mem b (List.mem_cons_of_mem g hmem)
      · rw [List.forall_mem_cons, List.forall_mem_cons]
        exact ⟨hleast.1, hleast.1.trans (due_le_of_not_precedes hg), hleast.2⟩

/-- There is a first forfeit as soon as one is armed, and then none is due before it. -/
theorem Hub.nextForfeit?_cases (h : Hub) :
    h.forfeits = [] ∧ h.nextForfeit? = none ∨
      ∃ f ∈ h.forfeits, h.nextForfeit? = some f ∧ ∀ g ∈ h.forfeits, f.due ≤ g.due := by
  unfold nextForfeit?
  cases h.forfeits with
  | nil => exact .inl ⟨rfl, rfl⟩
  | cons b rest =>
    obtain ⟨f, hfirst, hmem, hleast⟩ := Forfeit.foldl_first b rest
    exact .inr ⟨f, hmem, hfirst, hleast⟩

/-- The first forfeit is one that is armed, and none is due before it. -/
theorem Hub.first_of_nextForfeit? {h : Hub} {f : Forfeit} (hnext : h.nextForfeit? = some f) :
    f ∈ h.forfeits ∧ ∀ g ∈ h.forfeits, f.due ≤ g.due := by
  rcases h.nextForfeit?_cases with ⟨-, hnone⟩ | ⟨g, hg, hfirst, hleast⟩
  · rw [hnone] at hnext
    contradiction
  · obtain rfl : g = f := Option.some.inj (hfirst.symm.trans hnext)
    exact ⟨hg, hleast⟩

namespace Site

/-- The time up to a forfeit, and then the forfeit. -/
structure Expiry (t : Site) (grace : Nanos) (clock : String) (f : Forfeit) : Prop where
  pass : t.Admits (.pass f.due clock)
  expire : (t.meet (.pass f.due clock)).Admits (.expire f)
  onTime : (t.run [.pass f.due clock, .expire f]).OnTime grace
  now : (t.run [.pass f.due clock, .expire f]).shared.now = f.due
  ticked : (t.run [.pass f.due clock, .expire f]).store.clock = clock
  forfeits : (t.run [.pass f.due clock, .expire f]).hub.forfeits = t.hub.forfeits.erase f

/-- The forfeit that is due first may be carried out after the time up to it. -/
theorem OnTime.expiry {t : Site} {grace : Nanos} (h : t.OnTime grace) (clock : String) {f : Forfeit}
    (hf : f ∈ t.hub.forfeits) (hfirst : ∀ g ∈ t.hub.forfeits, f.due ≤ g.due) : t.Expiry grace clock f := by
  have hpass : t.Admits (.pass f.due clock) := .pass (h.prompt f hf) hfirst
  have hwaited := h.meet hpass
  have hexpire : (t.meet (.pass f.due clock)).Admits (.expire f) := .expire hf le_rfl
  exact
    { pass := hpass
      expire := hexpire
      onTime := hwaited.meet hexpire
      now := (meet_moment hwaited.responsive (e := .expire f) (by simp)).1
      ticked := meet_clock hwaited.untroubled (e := .expire f) (by simp)
      forfeits := rfl }

/-- What is carried out up to a moment is carried out on time, and nothing is left that is due then. -/
theorem OnTime.expiries_prompt {t : Site} {grace : Nanos} (h : t.OnTime grace) {moment : Nanos}
    (hmoment : t.shared.now ≤ moment) (clock : String) {n : Nat} (hn : t.hub.forfeits.length ≤ n) :
    t.Prompt (t.expiries moment clock n) ∧ (t.run (t.expiries moment clock n)).shared.now ≤ moment ∧
      ∀ f ∈ (t.run (t.expiries moment clock n)).hub.forfeits, moment < f.due := by
  induction n generalizing t with
  | zero =>
    have hnone : t.hub.forfeits = [] := List.eq_nil_of_length_eq_zero (Nat.le_zero.mp hn)
    exact ⟨fun i e he => by simp [expiries] at he, hmoment, by simp [expiries, hnone]⟩
  | succ n ih =>
    rcases t.hub.nextForfeit?_cases with ⟨hnone, hnext⟩ | ⟨f, hf, hnext, hfirst⟩
    · simp only [expiries, hnext]
      exact ⟨fun i e he => by simp at he, hmoment, by simp [hnone]⟩
    · by_cases hdue : f.due ≤ moment
      · -- time goes on to the first forfeit, which is carried out
        obtain ⟨hpass, hexpire, hfired, hmoment, -, hforfeits⟩ := h.expiry clock hf hfirst
        have hlength : (t.run [.pass f.due clock, .expire f]).hub.forfeits.length ≤ n := by
          rw [hforfeits, List.length_erase_of_mem hf]
          omega
        obtain ⟨hprompt, hnow, hleft⟩ := ih hfired (hmoment.trans_le hdue) hlength
        simp only [expiries, hnext, if_pos hdue]
        exact ⟨prompt_cons hpass (prompt_cons hexpire hprompt), hnow, hleft⟩
      · simp only [expiries, hnext, if_neg hdue]
        exact ⟨fun i e he => by simp at he, hmoment,
          fun g hg => (not_le.mp hdue).trans_le (hfirst g hg)⟩

/-- What a stimulus leads to is prompt, and nothing is due afterwards. -/
theorem OnTime.stimulus_prompt {t : Site} {grace : Nanos} (h : t.OnTime grace) (hsettled : t.Settled) (s : Stimulus) :
    t.Prompt (s.course t) ∧ (t.run (s.course t)).Settled := by
  cases s with
  | outside e houtside =>
    have he : t.Admits e := .outside houtside hsettled
    have hmet := h.meet he
    obtain ⟨hprompt, hnow, hleft⟩ := hmet.expiries_prompt le_rfl (t.meet e).store.clock le_rfl
    exact ⟨prompt_cons he hprompt, fun f hf => hnow.trans_lt (hleft f hf)⟩
  | elapse span clock =>
    obtain ⟨hprompt, hnow, hleft⟩ := h.expiries_prompt (Nat.le_add_right t.shared.now span) clock le_rfl
    have hpass : (t.run (t.expiries (t.shared.now + span) clock t.hub.forfeits.length)).Admits
        (.pass (t.shared.now + span) clock) := .pass hnow fun f hf => (hleft f hf).le
    refine ⟨hprompt.append (prompt_cons hpass fun i e he => by simp at he), fun f hf => ?_⟩
    simp only [Stimulus.course, run, List.foldl_append, List.foldl_cons, List.foldl_nil] at hf ⊢
    exact hleft f hf

/-- Whatever a hub is exposed to, every forfeit is carried out when it is due. -/
theorem OnTime.course_prompt {t : Site} {grace : Nanos} (h : t.OnTime grace) (hsettled : t.Settled)
    (stimuli : List Stimulus) : t.Prompt (t.course stimuli) ∧ (t.run (t.course stimuli)).Settled := by
  induction stimuli generalizing t with
  | nil => exact ⟨fun i e he => by simp [course] at he, hsettled⟩
  | cons s rest ih =>
    obtain ⟨hprompt, hsettled'⟩ := h.stimulus_prompt hsettled s
    have hon : (t.run (s.course t)).OnTime grace := by
      rw [← after_length]
      exact h.after hprompt _
    obtain ⟨hrest, hlast⟩ := ih hon hsettled'
    refine ⟨hprompt.append hrest, ?_⟩
    rwa [course, run, List.foldl_append]

/-- A new hub is on time. -/
theorem onTime_opening (grace : Nanos) (winPoints : Int64) {shared : Shared} (clock : String)
    (huntroubled : shared.storage.trouble = .none) (hresponsive : shared.bus.mode ≠ .stalled) :
    (opening grace winPoints shared clock).OnTime grace where
  untroubled := huntroubled
  responsive := hresponsive
  sound := Store.sound_empty clock
  tidy := Hub.tidy_new grace winPoints
  awaits := by simp [opening, fresh, Hub.Awaits]
  running := rfl
  grace := rfl
  prompt := by simp [opening, fresh]

/-- Whatever a new hub is exposed to, its forfeits keep to its grace. -/
theorem forfeits_keep_grace (grace : Nanos) (winPoints : Int64) (shared : Shared) (clock : String)
    (huntroubled : shared.storage.trouble = .none) (hresponsive : shared.bus.mode ≠ .stalled)
    (stimuli : List Stimulus) :
    (opening grace winPoints shared clock).KeepsGrace ((opening grace winPoints shared clock).course stimuli) grace := by
  have hon := onTime_opening grace winPoints clock huntroubled hresponsive
  obtain ⟨hprompt, hsettled⟩ := hon.course_prompt (by simp [Settled, opening, fresh]) stimuli
  exact hon.keepsGrace rfl hprompt hsettled

/-- The creator of a room leaves, comes back on another connection in time, and leaves again. -/
def leftTwice : List Stimulus :=
  [.outside (.connect 1 8) trivial, .outside (.connect 2 8) trivial, .outside (.create 1 .ticTacToe) trivial,
   .outside (.register 1 1 0) trivial, .outside (.register 2 1 1) trivial,
   .outside (sends 1 .joinRoom .null) trivial, .elapse 3 "", .outside (.leave 1 0) trivial, .elapse 4 "",
   .outside (.connect 1 8) trivial, .outside (.register 1 1 2) trivial, .outside (.leave 1 2) trivial,
   .outside (.leave 1 0) trivial, .elapse 6 ""]

/-- The second window starts anew: what ends the room five nanoseconds after the second leave was caused by it. -/
theorem leftTwice_forfeited :
    let t := opening 5 3 lobby ""
    let course := t.course leftTwice
    ∃ i e, course[i]? = some e ∧ (t.after course i).shared.now = 12 ∧ (t.after course i).Forfeits e 1 1 ∧
      ∃ j e', j < i ∧ course[j]? = some e' ∧ (t.after course j).Abandons e' 1 1 ∧
        (t.after course j).shared.now + 5 = 12 := by
  intro t course
  have hkeeps : t.KeepsGrace course 5 := forfeits_keep_grace 5 3 lobby "" rfl (by simp [lobby, Bus.MemoryBus.new]) leftTwice
  obtain ⟨e, he⟩ : ∃ e, course[14]? = some e :=
    ⟨_, List.getElem?_eq_getElem (show 14 < course.length by decide +kernel)⟩
  have hnow : (t.after course 14).shared.now = 12 := by decide +kernel
  have hsound (i : Nat) : (t.after course i).store.Sound := sound_run (t := t) (Store.sound_empty "") _
  obtain ⟨r, hr, hbefore⟩ := (hsound 14).keeps_of_shows
    (show Store.shows _ 1 (fun r => r.status == .active && r.board == .empty) = true by decide +kernel)
  obtain ⟨r', hr', hafter⟩ := (hsound 15).keeps_of_shows (show Store.shows _ 1 (fun r =>
    r.status == .finished && r.board == .empty && r.winner == some 2 && r.opponentOf? 1 == some 2) = true by decide +kernel)
  simp only [Bool.and_eq_true, beq_iff_eq] at hbefore hafter
  obtain ⟨⟨⟨hended, hboard'⟩, hwinner⟩, hother⟩ := hafter
  have hforfeits : (t.after course 14).Forfeits e 1 1 :=
    ⟨r, r', 2, hr, by simp [hbefore.1], after_succ he ▸ hr', hended, hboard'.trans hbefore.2.symm, hwinner, hother⟩
  obtain ⟨-, j, e', hj, he', habandons, hmoment, -⟩ := hkeeps.caused 14 e 1 1 he hforfeits
  exact ⟨14, e, he, hnow, hforfeits, j, e', hj, he', habandons, hmoment.trans hnow⟩

end Site

end Parlor.Game
