import Parlor.Cluster
import Parlor.Proofs.Game.Access
import Parlor.Proofs.Game.Seats

/-!
# Forfeits on several servers

Servers that share a store and a bus, each with seats and forfeits of its own. When a forfeit comes due
on a server, only the seats of that server are looked at. So it ends every game that goes on, also one
to which its player has come back on another server; only a player who always comes to the same server
is safe.
-/

namespace Parlor

open Game
open Text (Nanos)

namespace Cluster

/-! ## What happens at a server -/

/-- The store of the games. -/
def store (c : Cluster) : Store := c.shared.storage.store

/-- The games of a server. -/
def hub? (c : Cluster) (i : Nat) : Option Hub := (c.server? i).map (·.games)

/-- What a happening at a server leads to. -/
def meet (c : Cluster) (i : Nat) (e : Happening) : Cluster :=
  c.tell i fun v s =>
    let t := (Site.mk v.games s).meet e
    ({ v with games := t.hub }, t.shared)

/-- A server at which a forfeit is due meets it. -/
theorem fire_eq_meet (c : Cluster) (i : Nat) (f : Forfeit) : c.fire i f = c.meet i (.expire f) := rfl

/-- What several happenings lead to, one after the other, each at its own server. -/
def run (c : Cluster) (incidents : List (Nat × Happening)) : Cluster :=
  incidents.foldl (fun c incident => c.meet incident.1 incident.2) c

/-- The last incident meets what those before it have led to. -/
theorem run_append (c : Cluster) (incidents : List (Nat × Happening)) (i : Nat) (e : Happening) :
    c.run (incidents ++ [(i, e)]) = (c.run incidents).meet i e := by simp [run]

/-- A happening changes the hub of its server and what all servers share, and no other hub. -/
theorem meet_eq {c : Cluster} {i : Nat} {hub : Hub} (h : c.hub? i = some hub) (e : Happening) :
    (c.meet i e).shared = ((Site.mk hub c.shared).meet e).shared ∧
      ∀ j, (c.meet i e).hub? j = if j = i then some ((Site.mk hub c.shared).meet e).hub else c.hub? j := by
  obtain ⟨v, hv, rfl⟩ := Option.map_eq_some_iff.mp h
  have hmeet : c.meet i e = { c with
      servers := c.servers.set i { v with games := ((Site.mk v.games c.shared).meet e).hub }
      shared := ((Site.mk v.games c.shared).meet e).shared } := by
    simp only [meet, tell, ask, hv]
  refine ⟨by rw [hmeet], fun j => ?_⟩
  rw [hmeet, hub?, server?]
  by_cases hj : j = i
  · obtain ⟨hlt, -⟩ := List.getElem?_eq_some_iff.mp hv
    rw [if_pos hj, hj, List.getElem?_set_self hlt, Option.map_some]
  · rw [if_neg hj, List.getElem?_set_ne (Ne.symm hj)]
    rfl

/-- Nothing happens at a server that there is not. -/
theorem meet_of_none {c : Cluster} {i : Nat} (h : c.hub? i = none) (e : Happening) : c.meet i e = c := by
  simp only [meet, tell, ask, Option.map_eq_none_iff.mp h]

/-! ## What holds on every server -/

/-- Servers that have just come up over an empty store. -/
structure IsNew (c : Cluster) : Prop where
  rooms : c.store = { clock := c.store.clock }
  untroubled : c.shared.storage.trouble = .none
  hubs : ∀ i hub, c.hub? i = some hub → ∃ grace winPoints, hub = { grace, winPoints }

/-- The store is sound, and every server is tidy and waits for players of stored rooms only. -/
structure Orderly (c : Cluster) : Prop where
  untroubled : c.shared.storage.trouble = .none
  sound : c.store.Sound
  tidy : ∀ i hub, c.hub? i = some hub → hub.Tidy
  awaits : ∀ i hub, c.hub? i = some hub → hub.Awaits c.store

/-- New servers are orderly. -/
theorem IsNew.orderly {c : Cluster} (h : c.IsNew) : c.Orderly := by
  refine ⟨h.untroubled, ?_, fun i hub hhub => ?_, fun i hub hhub => ?_⟩
  · rw [h.rooms]
    exact Store.sound_empty _
  · obtain ⟨grace, winPoints, rfl⟩ := h.hubs i hub hhub
    exact Hub.tidy_new grace winPoints
  · obtain ⟨grace, winPoints, rfl⟩ := h.hubs i hub hhub
    simp [Hub.Awaits]

/-- Whatever happens at a server keeps all servers orderly. -/
theorem Orderly.meet {c : Cluster} (h : c.Orderly) (i : Nat) (e : Happening) : (c.meet i e).Orderly := by
  cases hhub : c.hub? i with
  | none => rwa [meet_of_none hhub]
  | some hub =>
    obtain ⟨hshared, hhubs⟩ := meet_eq hhub e
    have hstore : (c.meet i e).store = ((Site.mk hub c.shared).meet e).store :=
      congrArg (fun shared => shared.storage.store) hshared
    have hserved : c.store.Served (c.meet i e).store := hstore ▸ (Site.mk hub c.shared).meet_served e
    refine ⟨?_, h.sound.served hserved, fun j hub' hhub' => ?_, fun j hub' hhub' => ?_⟩
    · rw [hshared]
      exact (Site.meet_storage (t := ⟨hub, c.shared⟩) h.untroubled e).1
    · rw [hhubs] at hhub'
      split at hhub'
      case isTrue =>
        obtain rfl := Option.some.inj hhub'
        exact Hub.Tidy.meet (t := ⟨hub, c.shared⟩) (h.tidy i hub hhub) e
      case isFalse => exact h.tidy j hub' hhub'
    · rw [hhubs] at hhub'
      split at hhub'
      case isTrue =>
        obtain rfl := Option.some.inj hhub'
        rw [hstore]
        exact Hub.Awaits.meet (t := ⟨hub, c.shared⟩) (h.awaits i hub hhub) h.sound e
      case isFalse => exact (h.awaits j hub' hhub').served h.sound hserved

/-- Servers stay orderly, whatever happens. -/
theorem Orderly.run {c : Cluster} (h : c.Orderly) (incidents : List (Nat × Happening)) : (c.run incidents).Orderly := by
  induction incidents generalizing c with
  | nil => exact h
  | cons incident incidents ih => exact ih (h.meet incident.1 incident.2)

/-- Whoever is seated on a server has registered on that server. -/
theorem IsNew.registered_before {c : Cluster} (h : c.IsNew) (incidents : List (Nat × Happening)) {i : Nat} {hub : Hub}
    (hhub : (c.run incidents).hub? i = some hub) {room : RoomId} {user : UserId}
    (hseated : hub.isRegistered room user = true) :
    ∃ connection, (i, .register user room connection) ∈ incidents := by
  induction incidents using List.reverseRecOn generalizing hub with
  | nil =>
    obtain ⟨grace, winPoints, rfl⟩ := h.hubs i hub hhub
    simp [Hub.isRegistered, Registry.contains, Registry.get?, Table.get?] at hseated
  | append_singleton incidents incident ih =>
    obtain ⟨j, e⟩ := incident
    -- a seat on the server before the last incident
    have hearlier {hub : Hub} (hhub : (c.run incidents).hub? i = some hub) (hseated : hub.isRegistered room user = true) :
        ∃ connection, (i, .register user room connection) ∈ incidents ++ [(j, e)] := by
      obtain ⟨connection, hmem⟩ := ih hhub hseated
      exact ⟨connection, List.mem_append_left _ hmem⟩
    rw [run_append] at hhub
    cases hserver : (c.run incidents).hub? j with
    | none => exact hearlier (meet_of_none hserver e ▸ hhub) hseated
    | some before =>
      rw [(meet_eq hserver e).2] at hhub
      split at hhub
      case isTrue hij =>
        obtain rfl := Option.some.inj hhub
        rcases Site.isRegistered_meet hseated with hseated | ⟨connection, hregister⟩
        · exact hearlier (hij ▸ hserver) hseated
        · exact ⟨connection, by simp [hij, hregister]⟩
      case isFalse => exact hearlier hhub hseated

/-! ## A forfeit that is due -/

/--
A forfeit that is armed on a server is that of a player who is not seated on that server. When it comes
due it ends the room if the room is active, wherever else the player is seated, and otherwise changes
nothing that is stored. A player who has registered in the room on that server only is seated nowhere.
-/
theorem fire_ends_active {c : Cluster} (h : c.IsNew) (incidents : List (Nat × Happening)) {i : Nat} {hub : Hub}
    (hhub : (c.run incidents).hub? i = some hub) {f : Forfeit} (hf : f ∈ hub.forfeits) :
    hub.isRegistered f.room f.user = false ∧
      ∃ r winner, (c.run incidents).store.Keeps f.room r ∧ r.opponentOf? f.user = some winner ∧
        (r.status = .active → ((c.run incidents).fire i f).store.Keeps f.room (r.wonBy winner)) ∧
        (r.status ≠ .active → ((c.run incidents).fire i f).store = (c.run incidents).store) ∧
        ((∀ j connection, (j, .register f.user f.room connection) ∈ incidents → j = i) →
          ∀ j hub', (c.run incidents).hub? j = some hub' → hub'.isRegistered f.room f.user = false) := by
  have horderly := h.orderly.run incidents
  have habsent := (horderly.tidy i hub hhub).absent f hf
  obtain ⟨r, winner, hr, hwinner⟩ := horderly.awaits i hub hhub f hf
  have hfire : ((c.run incidents).fire i f).store =
      (c.run incidents).store.attempt f.room (.forfeit f.user) "" hub.winPoints := by
    rw [fire_eq_meet, store, (meet_eq hhub (.expire f)).1]
    exact Site.meet_expire_store (t := ⟨hub, (c.run incidents).shared⟩) horderly.untroubled habsent
  refine ⟨habsent, r, winner, hr, hwinner, fun hactive => ?_, fun hidle => ?_, fun honly j hub' hhub' => ?_⟩
  · rw [hfire]
    exact horderly.sound.attempt_forfeit hr hactive hwinner "" hub.winPoints
  · rw [hfire]
    refine horderly.sound.attempt_forfeit_idle (fun r' hr' => ?_) f.user "" hub.winPoints
    rwa [Room.status_of_untimed (hr'.unique hr)]
  · by_contra hseated
    rw [Bool.not_eq_false] at hseated
    obtain ⟨connection, hmem⟩ := h.registered_before incidents hhub' hseated
    obtain rfl := honly j connection hmem
    rw [hhub, Option.some.injEq] at hhub'
    rw [← hhub', habsent] at hseated
    contradiction

/-- Two new servers. -/
def pair : Cluster where
  shared := Site.lobby
  servers := List.replicate 2 { chat := {}, games := { grace := 5, winPoints := 3 }, calls := .new 2 }
  timing := { sendBuffer := 8, maxMessageSize := 1024, writeWait := 1, pongWait := 1, pingPeriod := 1 }

/-- Two new servers are new. -/
theorem pair_isNew : pair.IsNew := by
  refine ⟨rfl, rfl, fun i hub hhub => ⟨5, 3, ?_⟩⟩
  match i with
  | 0 | 1 => exact (Option.some.inj hhub).symm
  | _ + 2 => contradiction

/-- Two users play on two servers that are wired, until the creator of the room leaves. -/
def halfEmpty : List (Nat × Happening) :=
  [(0, .wire), (1, .wire), (0, .connect 1 8), (1, .connect 2 8), (0, .create 1 .ticTacToe), (0, .register 1 1 0),
   (1, .register 2 1 1), (1, Site.sends 1 .joinRoom .null), (0, .leave 1 0)]

/-- A forfeit ends the room of a player who is seated nowhere. -/
theorem pair_fires :
    ∃ hub r, (pair.run halfEmpty).hub? 0 = some hub ∧ ⟨1, 1, 5, 0⟩ ∈ hub.forfeits ∧
      (pair.run halfEmpty).store.Keeps 1 r ∧ r.status = .active ∧
      ((pair.run halfEmpty).fire 0 ⟨1, 1, 5, 0⟩).store.Keeps 1 (r.wonBy 2) ∧
      ∀ j hub', (pair.run halfEmpty).hub? j = some hub' → hub'.isRegistered 1 1 = false := by
  obtain ⟨hub, hhub, harmed⟩ := (Option.any_eq_true _ _).mp (show ((pair.run halfEmpty).hub? 0).any
    (fun hub => decide (⟨1, 1, 5, 0⟩ ∈ hub.forfeits)) = true by decide +kernel)
  have hf : ⟨1, 1, 5, 0⟩ ∈ hub.forfeits := by simpa using harmed
  obtain ⟨-, r, winner, hr, hwinner, hends, -, honly⟩ := fire_ends_active pair_isNew halfEmpty hhub hf
  -- the room as the store shows it
  obtain ⟨r', hr', htest⟩ := (pair_isNew.orderly.run halfEmpty).sound.keeps_of_shows
    (show Store.shows _ 1 (fun r => r.status == .active && r.opponentOf? 1 == some 2) = true by decide +kernel)
  obtain ⟨hactive', hother'⟩ : r'.status = .active ∧ r'.opponentOf? 1 = some 2 := by simpa using htest
  have hsame := hr.unique hr'
  have hactive : r.status = .active := (Room.status_of_untimed hsame).trans hactive'
  rw [Room.eq_of_untimed hsame] at hwinner
  obtain rfl : winner = 2 := Option.some.inj (hwinner.symm.trans hother')
  refine ⟨hub, r, hhub, hf, hr, hactive, hends hactive, honly fun j connection hmem => ?_⟩
  have hserver : j = 0 ∧ connection = 0 := by simpa [halfEmpty, Site.sends] using hmem
  exact hserver.1

/-- A player who comes back on another server before the time is up loses the game all the same. -/
theorem pair_ignores_return :
    let c := pair.run (halfEmpty ++ [(0, .connect 1 8), (1, .register 1 1 2), (0, .pass 5 "")])
    c.shared.now = 5 ∧ (∃ hub, c.hub? 0 = some hub ∧ ⟨1, 1, 5, 0⟩ ∈ hub.forfeits) ∧
      (∃ hub, c.hub? 1 = some hub ∧ hub.isRegistered 1 1 = true) ∧
      (∃ r, c.store.Keeps 1 r ∧ r.status = .active) ∧
      ∃ r, (c.fire 0 ⟨1, 1, 5, 0⟩).store.Keeps 1 r ∧ r.status = .finished ∧ r.winner = some 2 := by
  intro c
  have harmed : (c.hub? 0).any (fun hub => decide (⟨1, 1, 5, 0⟩ ∈ hub.forfeits)) = true := by decide +kernel
  have hseated : (c.hub? 1).any (·.isRegistered 1 1) = true := by decide +kernel
  have hsound : c.store.Sound := (pair_isNew.orderly.run _).sound
  have hfired : (c.fire 0 ⟨1, 1, 5, 0⟩).store.Sound :=
    ((pair_isNew.orderly.run _).meet 0 (.expire ⟨1, 1, 5, 0⟩)).sound
  obtain ⟨r, hr, hactive⟩ := hsound.keeps_of_shows
    (show Store.shows _ 1 (fun r => r.status == .active) = true by decide +kernel)
  obtain ⟨r', hr', hended⟩ := hfired.keeps_of_shows
    (show Store.shows _ 1 (fun r => r.status == .finished && r.winner == some 2) = true by decide +kernel)
  exact ⟨by decide +kernel, by simpa [Option.any_eq_true] using harmed, by simpa [Option.any_eq_true] using hseated,
    ⟨r, hr, by simpa using hactive⟩, r', hr', by simpa using hended⟩

end Cluster

end Parlor
