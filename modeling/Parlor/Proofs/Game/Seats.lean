import Parlor.Proofs.Game.Attempts
import Parlor.Proofs.Game.Replay
import Parlor.Proofs.Registry
import Mathlib.Data.List.Pairwise

/-!
# Seats and forfeits

Who sits where at a hub, and which forfeits it has armed. One lemma says what each happening can do to
them. From it follows what holds at every hub: no room has more seats than it may have, nobody who sits
in a room has a forfeit there, and nobody has two.

A seat is free for a player unless two others sit in the room, whoever they are.
-/

namespace Parlor.Game

open Text (Nanos)

/-! ## What each operation does to the seats -/

namespace Hub

/-- A hub after a user has left a seat. -/
def vacated (h : Hub) (room : RoomId) (user : UserId) : Hub :=
  { h with
    seats := h.seats.setMembers room ((h.seats.membersOf room).erase user)
    userRooms := (h.userRooms.unregister user room).1 }

/-- A connection is taken off the seat that it has, or has none. -/
theorem unseat_cases (h : Hub) (room : RoomId) (user : UserId) (connection : ConnectionId) :
    (h.seats.get? room user = some connection ∧ h.unseat room user connection = (h.vacated room user, true)) ∨
      h.seats.get? room user ≠ some connection ∧ h.unseat room user connection = (h, false) := by
  rcases h.seats.unregisterIf_cases room user (· == connection) with ⟨value, hvalue, heq, hseats⟩ | ⟨hnone, hseats⟩
  · obtain rfl : value = connection := by simpa using heq
    exact .inl ⟨hvalue, by simp only [unseat, hseats, vacated]⟩
  · refine .inr ⟨fun hcurrent => ?_, by simp only [unseat, hseats]⟩
    simpa using hnone connection hcurrent

/-- What follows when somebody has left a seat: a forfeit is armed, or the hub stays as it is. -/
theorem afterLeaving_cases (h : Hub) (s : Shared) (id : RoomId) (user : UserId) :
    (∃ r, s.storage.store.room id = .ok (some r) ∧ r.status = .active ∧ r.isParticipant user = true ∧
        h.isStopped = false ∧ (h.afterLeaving s id user).1 =
          { h.disarm id user with
            forfeits := (h.disarm id user).forfeits ++ [⟨id, user, s.now + h.grace, s.armed⟩] }) ∨
      (h.afterLeaving s id user).1 = h := by
  have hcall : s.call (·.room id) =
      ((s.call (·.room id)).1, (s.storage.room id).2.mapError Failure.storage) := rfl
  have hread : (s.storage.room id).2 = s.storage.store.room id ∨
      (s.storage.room id).2 = .error Storage.offlineFault := (s.storage.read_cases (·.room id)).2
  rw [afterLeaving, hcall]
  split
  case h_1 s' r hanswer =>
    obtain ⟨rfl, hfound⟩ := Prod.mk.inj hanswer
    -- what was answered is what was read
    have hloaded : s.storage.store.room id = .ok (some r) := by
      rcases hread with hread | hread
      · rw [hread] at hfound
        cases hroom : s.storage.store.room id with
        | error fault => simp [hroom, Except.mapError] at hfound
        | ok found => simpa [hroom, Except.mapError] using hfound
      · simp [hread, Except.mapError] at hfound
    split
    · exact .inr rfl
    · split
      case isTrue hactive =>
        unfold arm
        split
        · exact .inr rfl
        case isFalse hstopped =>
          exact .inl ⟨r, hloaded, hactive.1, hactive.2, by simpa using hstopped, rfl⟩
      · exact .inr rfl
  · exact .inr rfl

end Hub

namespace Site

/-- What a happening can do to a hub. -/
inductive HubChange (t : Site) (e : Happening) (hub : Hub) : Prop
  /-- The seats and the forfeits stay as they are. -/
  | kept (wiring : Wiring) (eq : hub = { t.hub with wiring })
  /-- Somebody takes a seat, and has no forfeit there any more. -/
  | seated (user : UserId) (room : RoomId) (connection : ConnectionId) (event : e = .register user room connection)
      (free : t.hub.canRegister user room = true)
      (eq : hub = { t.hub with
        seats := t.hub.seats.register room user connection
        userRooms := t.hub.userRooms.register user room () }.disarm room user)
  /-- A seat is left, and nothing follows at the hub. -/
  | left (room : RoomId) (connection : ConnectionId) (event : e = .leave room connection)
      (current : t.hub.seats.get? room (t.shared.userOf connection) = some connection)
      (eq : hub = t.hub.vacated room (t.shared.userOf connection))
  /-- A player leaves a seat in a game that goes on, and a forfeit is armed. -/
  | armed (room : RoomId) (connection : ConnectionId) (r : Room) (event : e = .leave room connection)
      (current : t.hub.seats.get? room (t.shared.userOf connection) = some connection)
      (loaded : t.store.room room = .ok (some r)) (active : r.status = .active)
      (player : r.isParticipant (t.shared.userOf connection) = true) (running : t.hub.isStopped = false)
      (eq : hub = { (t.hub.vacated room (t.shared.userOf connection)).disarm room (t.shared.userOf connection) with
        forfeits := (t.hub.disarm room (t.shared.userOf connection)).forfeits ++
          [⟨room, t.shared.userOf connection, t.shared.now + t.hub.grace, t.shared.armed⟩] })
  /-- A forfeit is no longer armed. -/
  | fired (f : Forfeit) (event : e = .expire f) (eq : hub = { t.hub with forfeits := t.hub.forfeits.erase f })
  /-- Everybody has to leave. -/
  | stopped (event : e = .shutdown)
      (eq : hub = { t.hub with seats := .empty, userRooms := .empty, forfeits := [], isStopped := true })

/-- What each happening can do to the hub. -/
theorem meet_hub (t : Site) (e : Happening) : t.HubChange e (t.meet e).hub := by
  have hkept {hub : Hub} (heq : hub = t.hub) : t.HubChange e hub := .kept t.hub.wiring heq
  cases e with
  | connect | create | frame | forfeit | pull | pass => exact hkept rfl
  | register user room connection =>
    by_cases hfree : t.hub.canRegister user room
    · exact .seated user room connection rfl hfree (by simp only [meet, Hub.register, if_pos hfree])
    · exact hkept (by simp only [meet, Hub.register, if_neg hfree])
  | leave room connection =>
    rcases t.hub.unseat_cases room (t.shared.userOf connection) connection with
      ⟨hcurrent, hunseat⟩ | ⟨-, hunseat⟩
    · have hmeet : (t.meet (.leave room connection)).hub = ((t.hub.vacated room
          (t.shared.userOf connection)).afterLeaving t.shared room (t.shared.userOf connection)).1 := by
        simp only [meet, Hub.unregister, hunseat]
      rcases (t.hub.vacated room (t.shared.userOf connection)).afterLeaving_cases t.shared room
        (t.shared.userOf connection) with ⟨r, hloaded, hactive, hplayer, hrunning, heq⟩ | heq
      · exact .armed room connection r rfl hcurrent hloaded hactive hplayer hrunning (hmeet.trans heq)
      · exact .left room connection rfl hcurrent (hmeet.trans heq)
    · exact hkept (by simp only [meet, Hub.unregister, hunseat])
  | expire f => exact .fired f rfl rfl
  | wire =>
    cases hconnect : t.hub.wiring.connect t.shared (Channel.allUnder Channel.gameStem) with
    | mk shared result =>
      cases result with
      | error fault => exact hkept (by simp only [meet, Hub.wire, hconnect])
      | ok wiring => exact .kept wiring (by simp only [meet, Hub.wire, hconnect])
  | shutdown => exact .stopped rfl rfl

end Site

/-! ## What holds at every hub -/

namespace Hub

/-- The seats are within bounds, and forfeits are armed for absent users, at most one for each. -/
structure Tidy (h : Hub) : Prop where
  distinct : ∀ room, (h.peers room).Nodup
  bounded : ∀ room, (h.peers room).length ≤ roomCapacity
  absent : ∀ f ∈ h.forfeits, h.isRegistered f.room f.user = false
  single : h.forfeits.Pairwise fun f g => f.room = g.room → f.user ≠ g.user

/-- The forfeits that are left after one was called off. -/
theorem mem_disarm {h : Hub} {room : RoomId} {user : UserId} {f : Forfeit} :
    f ∈ (h.disarm room user).forfeits ↔ f ∈ h.forfeits ∧ (f.room = room → f.user ≠ user) := by
  simp [disarm, imp_iff_not_or]

/-- Whoever leaves a seat is no longer registered, and nobody else is affected. -/
theorem isRegistered_vacated (h : Hub) (room other : RoomId) (user name : UserId) :
    (h.vacated room user).isRegistered other name =
      if other = room ∧ name = user then false else h.isRegistered other name := by
  rw [isRegistered, Registry.contains, vacated, Registry.get?_setMembers_erase]
  split <;> rfl

/-- Whoever takes a seat is registered, and nobody else is affected. -/
theorem isRegistered_seated (h : Hub) (room other : RoomId) (user name : UserId) (connection : ConnectionId)
    (userRooms : Registry UserId RoomId Unit) :
    ({ h with seats := h.seats.register room user connection, userRooms }.disarm room user).isRegistered other name =
      if other = room ∧ name = user then true else h.isRegistered other name := by
  change ((h.seats.register room user connection).get? other name).isSome = _
  rw [Registry.get?_register]
  split <;> rfl

/-- A user has one forfeit in a room. -/
theorem Tidy.unique {h : Hub} (ht : h.Tidy) {f g : Forfeit} (hf : f ∈ h.forfeits) (hg : g ∈ h.forfeits)
    (hroom : f.room = g.room) (huser : f.user = g.user) : f = g := by
  let Same (f g : Forfeit) : Prop := f.room = g.room → f.user = g.user → f = g
  have hsymm : Std.Symm Same := ⟨fun _ _ hsame hroom huser => (hsame hroom.symm huser.symm).symm⟩
  have hpairs : h.forfeits.Pairwise Same := ht.single.imp fun hne hroom huser => absurd huser (hne hroom)
  exact hpairs.forall_of_forall (fun _ _ _ _ => rfl) hf hg hroom huser

/-- Seats that are left stay within bounds. -/
theorem Tidy.vacated {h : Hub} (ht : h.Tidy) (room : RoomId) (user : UserId) : (h.vacated room user).Tidy := by
  have hpeers (other : RoomId) : ((h.vacated room user).peers other).Sublist (h.peers other) :=
    h.seats.members_setMembers_erase_sublist room other user
  refine ⟨fun other => (ht.distinct other).sublist (hpeers other),
    fun other => (hpeers other).length_le.trans (ht.bounded other), fun f hf => ?_, ht.single⟩
  rw [isRegistered_vacated]
  split
  · rfl
  · exact ht.absent f hf

/-- Fewer forfeits are as tidy. -/
theorem Tidy.sublist {h : Hub} (ht : h.Tidy) {forfeits : List Forfeit} (hsub : forfeits.Sublist h.forfeits) :
    { h with forfeits }.Tidy :=
  ⟨ht.distinct, ht.bounded, fun f hf => ht.absent f (hsub.subset hf), ht.single.sublist hsub⟩

/-- Somebody who takes a free seat has no forfeit, and the seats stay within bounds. -/
theorem Tidy.seated {h : Hub} (ht : h.Tidy) {user : UserId} {room : RoomId} (hfree : h.canRegister user room = true)
    (connection : ConnectionId) (userRooms : Registry UserId RoomId Unit) :
    ({ h with seats := h.seats.register room user connection, userRooms }.disarm room user).Tidy := by
  refine ⟨fun other => Registry.nodup_members_register ht.distinct room other user connection,
    fun other => Registry.length_members_register_le ht.bounded (fun hnew => ?_) other connection, fun f hf => ?_,
    ht.single.sublist List.filter_sublist⟩
  · simpa [canRegister, hnew] using hfree
  · obtain ⟨hf, hother⟩ := mem_disarm.mp hf
    rw [isRegistered_seated, if_neg fun hsame => hother hsame.1 hsame.2]
    exact ht.absent f hf

/-- A forfeit that is armed for somebody absent, in place of another, keeps the forfeits tidy. -/
theorem Tidy.armed {h : Hub} (ht : h.Tidy) {f : Forfeit} (habsent : h.isRegistered f.room f.user = false) :
    { h.disarm f.room f.user with forfeits := (h.disarm f.room f.user).forfeits ++ [f] }.Tidy := by
  refine ⟨ht.distinct, ht.bounded, fun g hg => ?_, ?_⟩
  · rcases List.mem_append.mp hg with hg | hg
    · exact ht.absent g (mem_disarm.mp hg).1
    · rw [List.mem_singleton.mp hg]
      exact habsent
  · refine List.pairwise_append.mpr ⟨ht.single.sublist List.filter_sublist, by simp, fun g hg f' hf' => ?_⟩
    rw [List.mem_singleton.mp hf']
    exact (mem_disarm.mp hg).2

end Hub

/-- Whatever happens keeps a hub tidy. -/
theorem Hub.Tidy.meet {t : Site} (h : t.hub.Tidy) (e : Happening) : (t.meet e).hub.Tidy := by
  cases t.meet_hub e with
  | kept wiring heq => exact heq ▸ ⟨h.distinct, h.bounded, h.absent, h.single⟩
  | seated user room connection _ hfree heq => exact heq ▸ h.seated hfree connection _
  | left room connection _ _ heq => exact heq ▸ h.vacated room _
  | armed room connection r _ _ _ _ _ _ heq =>
    have habsent : (t.hub.vacated room (t.shared.userOf connection)).isRegistered room
        (t.shared.userOf connection) = false := by rw [Hub.isRegistered_vacated, if_pos ⟨rfl, rfl⟩]
    exact heq ▸ (h.vacated room (t.shared.userOf connection)).armed
      (f := ⟨room, t.shared.userOf connection, t.shared.now + t.hub.grace, t.shared.armed⟩) habsent
  | fired f _ heq => exact heq ▸ h.sublist List.erase_sublist
  | stopped _ heq => exact heq ▸ ⟨fun _ => .nil, fun _ => Nat.zero_le _, by simp, .nil⟩

namespace Site

/-- A hub that was tidy stays so, whatever happens. -/
theorem tidy_run {t : Site} (h : t.hub.Tidy) (happenings : List Happening) : (t.run happenings).hub.Tidy := by
  induction happenings generalizing t with
  | nil => exact h
  | cons e happenings ih => exact ih (h.meet e)

end Site

/-- A new hub is tidy. -/
theorem Hub.tidy_new (grace : Nanos) (winPoints : Int64) : Tidy { grace, winPoints } :=
  ⟨fun _ => .nil, fun _ => Nat.zero_le _, by simp, .nil⟩

/-! ## Whom a hub waits for -/

/-- Whoever has a forfeit plays in a stored room, against somebody who would win it. -/
def Hub.Awaits (h : Hub) (s : Store) : Prop :=
  ∀ f ∈ h.forfeits, ∃ r winner, s.Keeps f.room r ∧ r.opponentOf? f.user = some winner

/-- Whatever is served, those for whom a hub waits play on against the same users. -/
theorem Hub.Awaits.served {h : Hub} {s s' : Store} (ha : h.Awaits s) (hs : s.Sound) (hserved : s.Served s') :
    h.Awaits s' := by
  intro f hf
  obtain ⟨r, winner, hr, hwinner⟩ := ha f hf
  obtain ⟨r', hr', hnext⟩ := hs.served_keeps hserved hr
  exact ⟨r', winner, hr', hnext.opponentOf? hwinner⟩

/-- Whatever happens, a hub waits for players of stored rooms only. -/
theorem Hub.Awaits.meet {t : Site} (h : t.hub.Awaits t.store) (hs : t.store.Sound) (e : Happening) :
    (t.meet e).hub.Awaits (t.meet e).store := by
  have hafter : (t.meet e).hub.Awaits t.store := by
    intro f hf
    cases t.meet_hub e with
    | kept wiring heq => exact h f (by simpa only [heq] using hf)
    | seated user room connection _ _ heq =>
      rw [heq] at hf
      exact h f (Hub.mem_disarm.mp hf).1
    | left room connection _ _ heq =>
      rw [heq] at hf
      exact h f hf
    | armed room connection r _ _ hloaded hactive hplayer _ heq =>
      rw [heq] at hf
      rcases List.mem_append.mp hf with hf | hf
      · exact h f (Hub.mem_disarm.mp hf).1
      · obtain ⟨hkeeps, hlawful⟩ := hs.of_room hloaded
        obtain ⟨winner, hwinner⟩ := hlawful.opponentOf?_of_participant hactive hplayer
        rw [List.mem_singleton.mp hf]
        exact ⟨r, winner, hkeeps, hwinner⟩
    | fired g _ heq =>
      rw [heq] at hf
      exact h f (List.mem_of_mem_erase hf)
    | stopped _ heq =>
      rw [heq] at hf
      contradiction
  exact hafter.served hs (t.meet_served e)

/-- Whoever is seated after a happening was seated before, or has registered. -/
theorem Site.isRegistered_meet {t : Site} {e : Happening} {room : RoomId} {user : UserId}
    (h : (t.meet e).hub.isRegistered room user = true) :
    t.hub.isRegistered room user = true ∨ ∃ connection, e = .register user room connection := by
  have hvacated (other : RoomId) (name : UserId)
      (h : (t.hub.vacated other name).isRegistered room user = true) : t.hub.isRegistered room user = true := by
    rw [Hub.isRegistered_vacated] at h
    split at h
    · contradiction
    · exact h
  cases t.meet_hub e with
  | kept wiring heq => exact .inl (by rwa [heq] at h)
  | seated name other connection hevent _ heq =>
    rw [heq, Hub.isRegistered_seated] at h
    split at h
    case isTrue hsame => exact .inr ⟨connection, by rw [hevent, hsame.1, hsame.2]⟩
    case isFalse => exact .inl h
  | left other connection _ _ heq =>
    rw [heq] at h
    exact .inl (hvacated _ _ h)
  | armed other connection r _ _ _ _ _ _ heq =>
    rw [heq] at h
    exact .inl (hvacated _ _ h)
  | fired f _ heq => exact .inl (by rwa [heq] at h)
  | stopped _ heq =>
    rw [heq] at h
    simp [Hub.isRegistered, Registry.contains, Registry.get?, Table.get?] at h

/-! ## Coming back -/

namespace Hub

/-- Two others sit in a room. -/
def TakenByOthers (h : Hub) (room : RoomId) (user : UserId) : Prop :=
  ∃ a b, a ≠ b ∧ a ≠ user ∧ b ≠ user ∧ h.isRegistered room a = true ∧ h.isRegistered room b = true

/-- The users seated in a room are those who are registered there. -/
theorem mem_peers_iff {h : Hub} {room : RoomId} {user : UserId} :
    user ∈ h.peers room ↔ h.isRegistered room user = true := h.seats.mem_members_iff room user

/-- A seat is free for a user unless two others sit in the room. -/
theorem Tidy.canRegister_iff {h : Hub} (ht : h.Tidy) (room : RoomId) (user : UserId) :
    h.canRegister user room = true ↔ ¬ h.TakenByOthers room user := by
  have hbound := ht.bounded room
  have hnodup := ht.distinct room
  have hfree : h.canRegister user room = true ↔ user ∈ h.peers room ∨ (h.peers room).length < 2 := by
    rw [canRegister, Bool.or_eq_true, decide_eq_true_iff, ← Registry.length_members]
    exact or_congr_left mem_peers_iff.symm
  simp only [hfree, TakenByOthers, ← mem_peers_iff]
  generalize h.peers room = peers at hbound hnodup
  match peers with
  | [] => simp
  | [a] =>
    refine iff_of_true (.inr Nat.one_lt_two) ?_
    rintro ⟨b, c, hne, -, -, hb, hc⟩
    exact hne ((List.mem_singleton.mp hb).trans (List.mem_singleton.mp hc).symm)
  | [a, b] =>
    have hne : a ≠ b := by simpa using hnodup
    constructor
    · rintro (huser | hlength) ⟨c, d, hcd, hc, hd, hmemC, hmemD⟩
      · grind
      · simp at hlength
    · intro hothers
      by_contra hnot
      obtain ⟨ha, hb⟩ : a ≠ user ∧ b ≠ user := by simpa [eq_comm] using hnot
      exact hothers ⟨a, b, hne, ha, hb, by simp, by simp⟩
  | _ :: _ :: _ :: _ => exact absurd hbound (by simp [roomCapacity])

end Hub

namespace Site

/-- A new hub over an empty store. -/
def opening (grace : Nanos) (winPoints : Int64) (shared : Shared) (clock : String) : Site :=
  fresh { grace, winPoints } shared clock

/--
A player of an active room can always take a seat in it unless two others sit there, and `register`
succeeds exactly then. So a player can come back whenever nobody but the two players has a seat,
whether or not a forfeit is armed.
-/
theorem player_returns_iff (grace : Nanos) (winPoints : Int64) (shared : Shared) (clock : String)
    (happenings : List Happening) {id : RoomId} {r : Room}
    (hr : ((opening grace winPoints shared clock).run happenings).store.Keeps id r) (hactive : r.status = .active)
    {user : UserId} (hplayer : r.isParticipant user = true) (connection : ConnectionId) :
    let hub := ((opening grace winPoints shared clock).run happenings).hub
    ((∃ hub', hub.register user id connection = .ok hub') ↔ ¬ hub.TakenByOthers id user) ∧
      (hub.canRegister user id = true ↔ ¬ hub.TakenByOthers id user) ∧
      ((∀ other, hub.isRegistered id other = true → r.isParticipant other = true) →
        hub.canRegister user id = true) := by
  have hsound := sound_run (t := opening grace winPoints shared clock) (Store.sound_empty clock) happenings
  have htidy := tidy_run (t := opening grace winPoints shared clock) (Hub.tidy_new grace winPoints) happenings
  generalize (opening grace winPoints shared clock).run happenings = t at hr hsound htidy
  intro hub
  have hfree : hub.canRegister user id = true ↔ ¬ hub.TakenByOthers id user := htidy.canRegister_iff id user
  refine ⟨?_, hfree, fun hplayers => hfree.mpr ?_⟩
  · rw [← hfree, Hub.register]
    by_cases hcan : hub.canRegister user id <;> simp [hcan]
  · -- an active room has two players, and only one of them is another user
    obtain ⟨rival, hplay⟩ := (hsound.lawful hr).inPlay hactive
    have hplayers' (other : UserId) (hother : hub.isRegistered id other = true) :
        other = r.creator ∨ other = rival := by
      have hparticipant := hplayers other hother
      rw [Room.isParticipant, Bool.or_eq_true, beq_iff_eq, beq_iff_eq, hplay.opponent, Option.some.injEq]
        at hparticipant
      exact hparticipant.imp Eq.symm Eq.symm
    rw [Room.isParticipant, Bool.or_eq_true, beq_iff_eq, beq_iff_eq, hplay.opponent, Option.some.injEq] at hplayer
    rintro ⟨a, b, hne, ha, hb, hseatA, hseatB⟩
    have hcasesA := hplayers' a hseatA
    have hcasesB := hplayers' b hseatB
    grind

/-- What the servers share before anything has happened. -/
def lobby : Shared := { timestamp := "", patience := 0, bus := .new 1, storage := { store := { clock := "" } } }

/-- Three users come, two of them play, and the creator of the room leaves. -/
def creatorGone : List Happening :=
  [.connect 1 8, .connect 2 8, .connect 3 8, .create 1 .ticTacToe, .register 1 1 0, .register 2 1 1,
   sends 1 .joinRoom .null, .leave 1 0]

/-- A player with an armed forfeit comes back to a room in which only the other player sits. -/
theorem creator_returns :
    ∃ r, ((opening 5 3 lobby "").run creatorGone).store.Keeps 1 r ∧ r.status = .active ∧
      ((opening 5 3 lobby "").run creatorGone).hub.forfeits = [⟨1, 1, 5, 0⟩] ∧
      ∃ hub, ((opening 5 3 lobby "").run creatorGone).hub.register 1 1 0 = .ok hub := by
  have hsound := sound_run (t := opening 5 3 lobby "") (Store.sound_empty "") creatorGone
  obtain ⟨r, hr, htest⟩ := hsound.keeps_of_shows
    (show Store.shows _ 1 (fun r => r.status == .active && r.isParticipant 1) = true by decide +kernel)
  obtain ⟨hactive, hplayer⟩ : r.status = .active ∧ r.isParticipant 1 = true := by simpa using htest
  have harmed : ((opening 5 3 lobby "").run creatorGone).hub.forfeits = [⟨1, 1, 5, 0⟩] := by decide +kernel
  obtain ⟨hregister, hfree, -⟩ := player_returns_iff 5 3 lobby "" creatorGone hr hactive hplayer 0
  exact ⟨r, hr, hactive, harmed, hregister.mpr (hfree.mp (by decide +kernel))⟩

/-- An outsider takes the seat of a player with an armed forfeit, who is then shut out of the game. -/
theorem creator_shut_out :
    ∃ r, ((opening 5 3 lobby "").run (creatorGone ++ [.register 3 1 2])).store.Keeps 1 r ∧
      r.status = .active ∧ r.isParticipant 1 = true ∧ r.isParticipant 3 = false ∧
      ((opening 5 3 lobby "").run (creatorGone ++ [.register 3 1 2])).hub.forfeits = [⟨1, 1, 5, 0⟩] ∧
      ((opening 5 3 lobby "").run (creatorGone ++ [.register 3 1 2])).hub.canRegister 1 1 = false ∧
      ∀ connection, ((opening 5 3 lobby "").run (creatorGone ++ [.register 3 1 2])).hub.register 1 1 connection =
        .error .roomFull := by
  have hsound := sound_run (t := opening 5 3 lobby "") (Store.sound_empty "") (creatorGone ++ [.register 3 1 2])
  obtain ⟨r, hr, htest⟩ := hsound.keeps_of_shows (show Store.shows _ 1
    (fun r => r.status == .active && r.isParticipant 1 && !r.isParticipant 3) = true by decide +kernel)
  obtain ⟨⟨hactive, hplayer⟩, houtsider⟩ :
      (r.status = .active ∧ r.isParticipant 1 = true) ∧ r.isParticipant 3 = false := by simpa using htest
  have hfull : ((opening 5 3 lobby "").run (creatorGone ++ [.register 3 1 2])).hub.canRegister 1 1 = false := by
    decide +kernel
  exact ⟨r, hr, hactive, hplayer, houtsider, by decide +kernel, hfull, fun connection => by simp [Hub.register, hfull]⟩

end Site

end Parlor.Game
