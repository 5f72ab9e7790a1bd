import Parlor.Proofs.Game.RoomLocks

/-!
# Serialized requests

The requests of one hub, in whatever order their steps are taken, have been served one after the other:
each has its turn at its write, or at its load if it writes nothing. What has become of the store, and
the answers, are those of a hub that serves the same requests in turns.
-/

namespace Parlor.Game

/-! ## Turns -/

/-- A turn of a service that serves one request after the other: a request that has arrived at a place, or time that
passes for the store. -/
inductive Turn where
  | serve (place : Nat) (room : RoomId) (request : Request)
  | tick (clock : String)

namespace Turn

/-- The place of the request that has its turn. -/
def place? : Turn → Option Nat
  | .serve place _ _ => some place
  | .tick _ => none

/-- The time that a turn sets. -/
def clock? : Turn → Option String
  | .serve _ _ _ => none
  | .tick clock => some clock

end Turn

/-- What a turn does to a store, and the answers that were given so far. -/
def Store.turn (winPoints : Int64) (s : Store × List (Nat × Except Failure Bool)) :
    Turn → Store × List (Nat × Except Failure Bool)
  | .serve place room request =>
    ((s.1.serve winPoints room request).1, s.2 ++ [(place, (s.1.serve winPoints room request).2)])
  | .tick clock => ({ s.1 with clock }, s.2)

/-- Serves requests one after the other. -/
def Store.serveAll (s : Store) (winPoints : Int64) (turns : List Turn) : Store × List (Nat × Except Failure Bool) :=
  turns.foldl (Store.turn winPoints) (s, [])

namespace Service

/-- The requests that have their answers could have been served one after the other. -/
structure Serialized (winPoints : Int64) (s : Store) (v : Service) (turns : List Turn) : Prop where
  store : (s.serveAll winPoints turns).1 = v.store
  /-- A request is given the same answer. -/
  answers : ∀ {place errand answer}, v.At place errand → errand.phase.answer? = some answer →
    (place, answer) ∈ (s.serveAll winPoints turns).2
  /-- Only requests that have arrived, and have their answers, are served. -/
  served : ∀ {place room request}, .serve place room request ∈ turns → ∃ errand, v.At place errand ∧
    errand.room = room ∧ errand.request = request ∧ errand.phase.answer?.isSome = true
  /-- No request is served twice. -/
  once : (turns.filterMap Turn.place?).Nodup

/-- The turns go on. -/
theorem serveAll_append (s : Store) (winPoints : Int64) (turns : List Turn) (turn : Turn) :
    s.serveAll winPoints (turns ++ [turn]) = Store.turn winPoints (s.serveAll winPoints turns) turn := by
  rw [Store.serveAll, List.foldl_append]
  rfl

/-- A request that has no answer yet comes to a phase without an answer. -/
theorem Serialized.put {winPoints : Int64} {s : Store} {v v' : Service} {turns : List Turn}
    (h : Serialized winPoints s v turns) {place : Nat} {errand : Errand} {next : Phase} (hat : v.At place errand)
    (hsame : v'.errands = v.errands) (hstore : v'.store = v.store) (hnext : next.answer? = errand.phase.answer?) :
    Serialized winPoints s (v'.put place next) turns where
  store := h.store.trans hstore.symm
  answers := by
    intro other errand' answer hat' hanswer
    rcases (at_put hsame hat).mp hat' with ⟨rfl, rfl⟩ | ⟨-, hold⟩
    · exact h.answers hat (hnext.symm.trans hanswer)
    · exact h.answers hold hanswer
  served := by
    intro other room request hturn
    obtain ⟨errand', hat', hroom, hrequest, hanswer⟩ := h.served hturn
    by_cases hplace : other = place
    · subst hplace
      obtain rfl := hat.unique hat'
      exact ⟨_, (at_put hsame hat).mpr (.inl ⟨rfl, rfl⟩), hroom, hrequest, hnext ▸ hanswer⟩
    · exact ⟨errand', (at_put hsame hat).mpr (.inr ⟨hplace, hat'⟩), hroom, hrequest, hanswer⟩
  once := h.once

/-- A request that comes to its answer has its turn. -/
theorem Serialized.serve {winPoints : Int64} {s : Store} {v v' : Service} {turns : List Turn}
    (h : Serialized winPoints s v turns) {place : Nat} {errand : Errand} {next : Phase}
    {answer : Except Failure Bool} (hat : v.At place errand) (hsame : v'.errands = v.errands)
    (hbefore : errand.phase.answer? = none) (hnext : next.answer? = some answer)
    (hserve : v.store.serve winPoints errand.room errand.request = (v'.store, answer)) :
    Serialized winPoints s (v'.put place next) (turns ++ [.serve place errand.room errand.request]) := by
  have hturn : s.serveAll winPoints (turns ++ [.serve place errand.room errand.request]) =
      (v'.store, (s.serveAll winPoints turns).2 ++ [(place, answer)]) := by
    rw [serveAll_append, Store.turn, h.store, hserve]
  constructor
  case store => rw [hturn]; rfl
  case answers =>
    intro other errand' answer' hat' hanswer
    rw [hturn]
    rcases (at_put hsame hat).mp hat' with ⟨rfl, rfl⟩ | ⟨-, hold⟩
    · obtain rfl := Option.some.inj (hnext.symm.trans hanswer)
      exact List.mem_append_right _ (List.mem_singleton_self _)
    · exact List.mem_append_left _ (h.answers hold hanswer)
  case served =>
    intro other room request hserved
    rcases List.mem_append.mp hserved with hserved | hserved
    · obtain ⟨errand', hat', hroom, hrequest, hanswer⟩ := h.served hserved
      have hplace : other ≠ place := by
        rintro rfl
        rw [hat'.unique hat, hbefore] at hanswer
        contradiction
      exact ⟨errand', (at_put hsame hat).mpr (.inr ⟨hplace, hat'⟩), hroom, hrequest, hanswer⟩
    · obtain ⟨rfl, rfl, rfl⟩ := Turn.serve.inj (List.mem_singleton.mp hserved)
      exact ⟨_, (at_put hsame hat).mpr (.inl ⟨rfl, rfl⟩), rfl, rfl, by rw [hnext]; rfl⟩
  case once =>
    rw [List.filterMap_append, List.nodup_append]
    refine ⟨h.once, List.pairwise_singleton _ _, ?_⟩
    intro other hother other' hother'
    obtain rfl := List.mem_singleton.mp hother'
    rintro rfl
    obtain ⟨turn, hmem, hplace⟩ := List.mem_filterMap.mp hother
    cases turn with
    | tick => contradiction
    | serve other room request =>
      obtain rfl := Option.some.inj hplace
      obtain ⟨errand', hat', -, -, hanswer⟩ := h.served hmem
      rw [hat'.unique hat, hbefore] at hanswer
      contradiction

/-- Progress keeps to an order in which the requests could have been served. -/
theorem Serialized.progress {winPoints : Int64} {s : Store} {v v' : Service} {turns : List Turn}
    (h : Serialized winPoints s v turns) (hsound : v.Sound) {place : Nat} {errand : Errand} {next : Phase}
    (hat : v.At place errand) (hprogress : Progress winPoints v errand v' next) :
    ∃ more, Serialized winPoints s (v'.put place next) (turns ++ more) ∧ more.filterMap Turn.clock? = [] := by
  have hidle (hstore : v'.store = v.store) (hnext : next.answer? = errand.phase.answer?) :
      ∃ more, Serialized winPoints s (v'.put place next) (turns ++ more) ∧ more.filterMap Turn.clock? = [] :=
    ⟨[], (List.append_nil turns).symm ▸ h.put hat hprogress.errands hstore hnext, rfl⟩
  have hturn {answer : Except Failure Bool} (hbefore : errand.phase.answer? = none)
      (hnext : next.answer? = some answer)
      (hserve : v.store.serve winPoints errand.room errand.request = (v'.store, answer)) :
      ∃ more, Serialized winPoints s (v'.put place next) (turns ++ more) ∧ more.filterMap Turn.clock? = [] :=
    ⟨[.serve place errand.room errand.request], h.serve hat hprogress.errands hbefore hnext hserve, rfl⟩
  cases hprogress with
  | found hphase | entered hphase | loaded hphase | closed hphase | released hphase =>
    exact hidle rfl (by rw [hphase]; rfl)
  | answered hphase hdecision => exact hturn (by rw [hphase]; rfl) rfl (by rw [Store.serve, hdecision])
  | written hphase hnext =>
    refine hturn (by rw [hphase]; rfl) ?_ (by rw [Store.serve, hsound.current hat hphase])
    rcases hnext with rfl | ⟨rfl, -⟩ <;> rfl

/-- Every step keeps to an order in which the requests could have been served. -/
theorem Serialized.step {winPoints : Int64} {s : Store} {v : Service} {turns : List Turn}
    (h : Serialized winPoints s v turns) (hsound : v.Sound) (e : Step) :
    ∃ more, Serialized winPoints s (v.step winPoints e) (turns ++ more) ∧
      more.filterMap Turn.clock? = e.clock?.toList := by
  cases e with
  | arrive room request =>
    refine ⟨[], ?_, rfl⟩
    rw [List.append_nil]
    refine ⟨h.store, fun hat hanswer => ?_, fun hserved => ?_, h.once⟩
    · rcases at_arrive.mp hat with hold | ⟨-, rfl⟩
      · exact h.answers hold hanswer
      · contradiction
    · obtain ⟨errand, hat, hrest⟩ := h.served hserved
      exact ⟨errand, at_arrive.mpr (.inl hat), hrest⟩
  | advance place =>
    cases hat : v.errands[place]? with
    | none =>
      rw [Service.step, hat, Option.elim_none]
      exact ⟨[], (List.append_nil turns).symm ▸ h, rfl⟩
    | some errand =>
      rw [Service.step, hat, Option.elim_some]
      rcases v.advance_cases winPoints place errand with hsame | ⟨v', next, hprogress, hnext⟩
      · rw [hsame]
        exact ⟨[], (List.append_nil turns).symm ▸ h, rfl⟩
      · rw [hnext]
        exact h.progress hsound hat hprogress
  | tick clock =>
    have hturn := serveAll_append s winPoints turns (.tick clock)
    refine ⟨[.tick clock], ⟨?_, fun hat hanswer => ?_, fun hserved => ?_, ?_⟩, rfl⟩
    · rw [hturn, Store.turn, h.store]
      rfl
    · rw [hturn]
      exact h.answers hat hanswer
    · rcases List.mem_append.mp hserved with hserved | hserved
      · exact h.served hserved
      · simp at hserved
    · rw [List.filterMap_append]
      exact (List.append_nil _).symm ▸ h.once

/-- All steps keep to an order in which the requests could have been served. -/
theorem Serialized.run {winPoints : Int64} {s : Store} {v : Service} {turns : List Turn}
    (h : Serialized winPoints s v turns) (hsound : v.Sound) (steps : List Step) :
    ∃ more, Serialized winPoints s (v.run winPoints steps) (turns ++ more) ∧
      more.filterMap Turn.clock? = steps.filterMap Step.clock? := by
  induction steps generalizing v turns with
  | nil => exact ⟨[], (List.append_nil turns).symm ▸ h, rfl⟩
  | cons e steps ih =>
    obtain ⟨first, hfirst, hclock⟩ := h.step hsound e
    obtain ⟨rest, hrest, hclocks⟩ := ih hfirst (hsound.step e)
    refine ⟨first ++ rest, List.append_assoc turns first rest ▸ hrest, ?_⟩
    rw [List.filterMap_append, hclock, hclocks, List.filterMap_cons]
    cases e.clock? <;> rfl

/-- The requests that have arrived, with their rooms. -/
def requests (v : Service) : List (RoomId × Request) := v.errands.map fun errand => (errand.room, errand.request)

/-- A request that makes progress stays the same. -/
theorem requests_put {v v' : Service} (hsame : v'.errands = v.errands) (place : Nat) (next : Phase) :
    (v'.put place next).requests = v.requests := by
  refine List.ext_getElem? fun other => ?_
  simp only [requests, put, hsame, List.getElem?_map, List.getElem?_modify]
  cases v.errands[other]? with
  | none => rfl
  | some errand => by_cases hplace : place = other <;> simp [hplace]

/-- The requests are those that have arrived in the steps. -/
theorem requests_run (winPoints : Int64) (v : Service) (steps : List Step) :
    (v.run winPoints steps).requests = v.requests ++ steps.filterMap Step.arrival? := by
  induction steps generalizing v with
  | nil => exact (List.append_nil _).symm
  | cons e steps ih =>
    refine (ih (v.step winPoints e)).trans ?_
    cases e with
    | arrive room request =>
      have harrive : (v.step winPoints (.arrive room request)).requests = v.requests ++ [(room, request)] := by
        simp [requests, Service.step]
      rw [harrive, List.append_assoc]
      rfl
    | advance place =>
      refine congrArg (· ++ _) ?_
      cases hat : v.errands[place]? with
      | none => rw [Service.step, hat, Option.elim_none]
      | some errand =>
        rw [Service.step, hat, Option.elim_some]
        rcases v.advance_cases winPoints place errand with hsame | ⟨v', next, hprogress, hnext⟩
        · rw [hsame]
        · rw [hnext, requests_put hprogress.errands]
    | tick clock => rfl

end Service

/-! ## A hub that serves one request after the other -/

/-- What a turn of a hub leads to, and the answers that were given so far. -/
def Hub.turn (h : Hub) (s : Shared × List (Nat × Except Failure Bool)) :
    Turn → Shared × List (Nat × Except Failure Bool)
  | .serve place room request => ((h.ask s.1 room request).1, s.2 ++ [(place, (h.ask s.1 room request).2)])
  | .tick clock =>
    ({ s.1 with storage := { s.1.storage with store := { s.1.storage.store with clock } } }, s.2)

/-- A hub serves requests one after the other. -/
def Hub.serveAll (h : Hub) (s : Shared) (turns : List Turn) : Shared × List (Nat × Except Failure Bool) :=
  turns.foldl h.turn (s, [])

/-- Without trouble a hub serves requests as the store does. -/
theorem Hub.serveAll_eq (h : Hub) {s : Shared} (hs : s.storage.trouble = .none) (turns : List Turn)
    (habsent : ∀ place room request, .serve place room request ∈ turns → request.Absent h room) :
    (h.serveAll s turns).1.storage =
        { s.storage with store := (s.storage.store.serveAll h.winPoints turns).1 } ∧
      (h.serveAll s turns).2 = (s.storage.store.serveAll h.winPoints turns).2 := by
  unfold serveAll Store.serveAll
  generalize ([] : List (Nat × Except Failure Bool)) = answers
  induction turns generalizing s answers with
  | nil => exact ⟨rfl, rfl⟩
  | cons turn turns ih =>
    have hrest := fun {s : Shared} (hs : s.storage.trouble = .none) => ih hs fun place room request hturn =>
      habsent place room request (List.mem_cons_of_mem _ hturn)
    cases turn with
    | tick clock => exact hrest (s := (h.turn (s, answers) (.tick clock)).1) hs answers
    | serve place room request =>
      obtain ⟨hstorage, hanswer⟩ := ask_eq hs h (habsent place room request List.mem_cons_self)
      have hafter := hrest (s := (h.ask s room request).1) (by rw [hstorage]; exact hs)
        (answers ++ [(place, (h.ask s room request).2)])
      rw [hstorage, hanswer] at hafter
      rw [List.foldl_cons, List.foldl_cons, turn, Store.turn, hanswer]
      exact hafter

namespace Service

/-- Whatever the order of their steps, the requests of one hub are served one after the other. Two of them hold
different locks for one room only after the room has ended. And what has become of the store and of the requests is
what becomes of them in turns, in which every request that is done has had one turn and was given the same answer. -/
theorem serialized (h : Hub) {s : Shared} (hs : s.storage.trouble = .none) (steps : List Step)
    (habsent : ∀ room request, .arrive room request ∈ steps → request.Absent h room) :
    let v := ({ store := s.storage.store } : Service).run h.winPoints steps
    v.requests = steps.filterMap Step.arrival? ∧
      (∀ place other errand errand' lock lock', v.At place errand → v.At other errand' →
        errand.phase.held? = some lock → errand'.phase.held? = some lock' → errand'.room = errand.room →
          lock ≠ lock' → v.Ended errand.room) ∧
      ∃ turns, (turns.filterMap Turn.place?).Nodup ∧
        turns.filterMap Turn.clock? = steps.filterMap Step.clock? ∧
        (∀ place room request, .serve place room request ∈ turns → v.requests[place]? = some (room, request)) ∧
        (h.serveAll s turns).1.storage.store = v.store ∧
        ∀ place errand answer, v.At place errand → errand.phase = .done answer →
          (place, answer) ∈ (h.serveAll s turns).2 := by
  intro v
  have hsound : v.Sound := (sound_start s.storage.store).run steps
  have hrequests : v.requests = steps.filterMap Step.arrival? := requests_run h.winPoints _ steps
  have hstart : Serialized h.winPoints s.storage.store { store := s.storage.store } [] :=
    ⟨rfl, nofun, nofun, List.nodup_nil⟩
  obtain ⟨turns, hserialized, hclock⟩ := hstart.run (sound_start s.storage.store) steps
  have hserved : ∀ place room request, .serve place room request ∈ turns →
      v.requests[place]? = some (room, request) := by
    intro place room request hturn
    obtain ⟨errand, hat, rfl, rfl, -⟩ := hserialized.served hturn
    rw [requests, List.getElem?_map, show v.errands[place]? = some errand from hat, Option.map_some]
  obtain ⟨hstorage, hanswers⟩ := h.serveAll_eq hs turns fun place room request hturn => by
    have hmem := List.mem_of_getElem? (hserved place room request hturn)
    rw [hrequests, List.mem_filterMap] at hmem
    obtain ⟨step, hstep, harrival⟩ := hmem
    cases step with
    | arrive =>
      obtain ⟨rfl, rfl⟩ := Prod.mk.inj (Option.some.inj harrival)
      exact habsent _ _ hstep
    | advance | tick => contradiction
  refine ⟨hrequests, fun place other errand errand' lock lock' => hsound.ended, turns, hserialized.once, hclock,
    hserved, ?_, fun place errand answer hat hphase => ?_⟩
  · rw [hstorage]
    exact hserialized.store
  · rw [hanswers]
    exact hserialized.answers hat (by rw [hphase]; rfl)

/-- A room that waits is given up while somebody waits for its lock to join, and somebody else joins afterwards. -/
def givenUp : List Step :=
  [.arrive 1 (.cancel 1), .advance 0, .advance 0, .arrive 1 (.join 2), .advance 1, .advance 0, .advance 0, .advance 0,
   .arrive 1 (.join 3), .advance 2, .advance 2, .advance 0, .advance 1]

/-- A store with a room that waits. -/
def waitingRoom : Shared where
  timestamp := ""
  patience := 0
  bus := .new 1
  storage := { store := (({ clock := "" } : Store).createRoom 1 .ticTacToe).1 }

/-- Both who want to join have a lock for the room, which are not the same, and the room is cancelled. -/
theorem givenUp_serialized :
    let v := ({ store := waitingRoom.storage.store } : Service).run 3 givenUp
    v.errands[1]?.map (fun errand => (errand.room, errand.phase.held?)) = some (1, some 0) ∧
      v.errands[2]?.map (fun errand => (errand.room, errand.phase.held?)) = some (1, some 1) ∧ v.Ended 1 := by
  intro v
  have hsecond : v.errands[1]?.map (fun errand => (errand.room, errand.phase.held?)) = some (1, some 0) := by
    decide +kernel
  have hthird : v.errands[2]?.map (fun errand => (errand.room, errand.phase.held?)) = some (1, some 1) := by
    decide +kernel
  refine ⟨hsecond, hthird, ?_⟩
  obtain ⟨errand, hat, hfound⟩ := Option.map_eq_some_iff.mp hsecond
  obtain ⟨errand', hat', hfound'⟩ := Option.map_eq_some_iff.mp hthird
  obtain ⟨hroom, hheld⟩ := Prod.mk.inj hfound
  obtain ⟨hroom', hheld'⟩ := Prod.mk.inj hfound'
  have hended := (serialized { grace := 0, winPoints := 3 } (s := waitingRoom) rfl givenUp fun _ _ _ _ _ => rfl).2.1
    1 2 errand errand' 0 1 hat hat' hheld hheld' (hroom'.trans hroom.symm) (by decide)
  exact hroom ▸ hended

end Service

end Parlor.Game
