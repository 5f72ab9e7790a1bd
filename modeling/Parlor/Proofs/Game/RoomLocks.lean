import Parlor.Proofs.Game.Requests

/-!
# Locks of rooms

A hub serves many requests at a time, but those for one room one after the other. Each request finds the
lock of its room in a table, or puts a new one there, and waits until it has it. A request that has ended
its room takes the lock out of the table, while others may still wait for it, and whoever comes later makes
a new one. So two requests can have different locks for one room at a time.

The steps of any number of requests may follow each other in any order, and so may those who wait for a
lock. The invariant is that a lock which somebody has found is the one in the table, unless the room has
ended. Hence nobody else writes a room that was loaded while it could still change.
-/

namespace Parlor.Game

/-- A lock, by its place in the order in which the locks were made. -/
abbrev LockId := Nat

/-- How far a request has come. -/
inductive Phase where
  | arrived
  /-- It has found the lock of its room. -/
  | waiting (lock : LockId)
  | entered (lock : LockId)
  /-- It has loaded its room, and decided to write. -/
  | loaded (lock : LockId) (w : Write)
  /-- It has ended its room, and the lock is still in the table. -/
  | closing (lock : LockId) (answer : Except Failure Bool)
  | leaving (lock : LockId) (answer : Except Failure Bool)
  | done (answer : Except Failure Bool)

namespace Phase

/-- The lock that a request has found and not given back. -/
def lock? : Phase → Option LockId
  | .arrived | .done _ => none
  | .waiting lock | .entered lock | .loaded lock _ | .closing lock _ | .leaving lock _ => some lock

/-- The lock that a request holds. -/
def held? : Phase → Option LockId
  | .arrived | .waiting _ | .done _ => none
  | .entered lock | .loaded lock _ | .closing lock _ | .leaving lock _ => some lock

/-- The answer that a request will give or has given, once there is nothing left to load or write. -/
def answer? : Phase → Option (Except Failure Bool)
  | .arrived | .waiting _ | .entered _ | .loaded _ _ => none
  | .closing _ answer | .leaving _ answer | .done answer => some answer

/-- A lock that is held was found. -/
theorem lock?_of_held? {phase : Phase} {lock : LockId} (h : phase.held? = some lock) : phase.lock? = some lock := by
  cases phase <;> first | exact h | contradiction

end Phase

/-- A request with its room and how far it has come. -/
structure Errand where
  room : RoomId
  request : Request
  phase : Phase := .arrived

/-- The requests of one hub, which is the only one that writes to the store. -/
structure Service where
  store : Store
  locks : Table RoomId LockId := []
  /-- The number of locks that were made. -/
  made : Nat := 0
  /-- The requests in the order in which they have arrived. -/
  errands : List Errand := []

namespace Service

/-- What may happen next. -/
inductive Step where
  | arrive (room : RoomId) (request : Request)
  /-- A request takes its next step, if it can. -/
  | advance (place : Nat)
  /-- Time passes for the store. -/
  | tick (clock : String)

/-- The request that arrives, with its room. -/
def Step.arrival? : Step → Option (RoomId × Request)
  | .arrive room request => some (room, request)
  | .advance _ | .tick _ => none

/-- The time that a step sets. -/
def Step.clock? : Step → Option String
  | .arrive _ _ | .advance _ => none
  | .tick clock => some clock

/-- Tests whether somebody holds a lock. -/
def isHeld (v : Service) (lock : LockId) : Bool := v.errands.any (·.phase.held? == some lock)

/-- Brings a request to a phase. -/
def put (v : Service) (place : Nat) (phase : Phase) : Service :=
  { v with errands := v.errands.modify place fun errand => { errand with phase } }

/-- Takes the next step of a request. -/
def advance (v : Service) (winPoints : Int64) (place : Nat) (errand : Errand) : Service :=
  match errand.phase with
  | .arrived =>
    match v.locks.get? errand.room with
    | some lock => v.put place (.waiting lock)
    | none => { v with locks := v.locks.insert errand.room v.made, made := v.made + 1 }.put place (.waiting v.made)
  | .waiting lock => if v.isHeld lock then v else v.put place (.entered lock)
  | .entered lock =>
    match errand.request.decide errand.room (v.store.room errand.room) with
    | .answer answer => v.put place (.leaving lock answer)
    | .write w => v.put place (.loaded lock w)
  | .loaded lock w =>
    let (store, accepted) := w.land v.store winPoints
    let answer := errand.request.settle accepted
    { v with store }.put place
      (if accepted && errand.request.closes w then .closing lock answer else .leaving lock answer)
  | .closing lock answer => { v with locks := v.locks.erase errand.room }.put place (.leaving lock answer)
  | .leaving _ answer => v.put place (.done answer)
  | .done _ => v

/-- What a step leads to. -/
def step (winPoints : Int64) (v : Service) : Step → Service
  | .arrive room request => { v with errands := v.errands ++ [{ room, request }] }
  | .advance place => v.errands[place]?.elim v (v.advance winPoints place)
  | .tick clock => { v with store := { v.store with clock } }

/-- What steps lead to. -/
def run (winPoints : Int64) (v : Service) (steps : List Step) : Service := steps.foldl (step winPoints) v

/-- The stored room has ended: it is finished or cancelled. -/
def Ended (v : Service) (room : RoomId) : Prop :=
  ∃ row, v.store.row? room = some row ∧ row.status.isTerminal = true

/-! ## What a step does -/

/-- How a request comes to its next phase, and what becomes of the locks and the store. -/
inductive Progress (winPoints : Int64) (v : Service) (errand : Errand) : Service → Phase → Prop
  | found {locks : Table RoomId LockId} {made : Nat} {lock : LockId} (phase : errand.phase = .arrived)
    (found : locks.get? errand.room = some lock)
    (kept : ∀ room old, v.locks.get? room = some old → locks.get? room = some old) :
    Progress winPoints v errand { v with locks, made } (.waiting lock)
  | entered {lock : LockId} (phase : errand.phase = .waiting lock) (free : v.isHeld lock = false) :
    Progress winPoints v errand v (.entered lock)
  | answered {lock : LockId} {answer : Except Failure Bool} (phase : errand.phase = .entered lock)
    (decision : errand.request.decide errand.room (v.store.room errand.room) = .answer answer) :
    Progress winPoints v errand v (.leaving lock answer)
  | loaded {lock : LockId} {w : Write} (phase : errand.phase = .entered lock)
    (decision : errand.request.decide errand.room (v.store.room errand.room) = .write w) :
    Progress winPoints v errand v (.loaded lock w)
  | written {lock : LockId} {w : Write} {next : Phase} (phase : errand.phase = .loaded lock w)
    (next_eq : next = .leaving lock (errand.request.settle (w.land v.store winPoints).2) ∨
      next = .closing lock (errand.request.settle (w.land v.store winPoints).2) ∧
        (w.land v.store winPoints).2 = true ∧ errand.request.closes w = true) :
    Progress winPoints v errand { v with store := (w.land v.store winPoints).1 } next
  | closed {lock : LockId} {answer : Except Failure Bool} (phase : errand.phase = .closing lock answer) :
    Progress winPoints v errand { v with locks := v.locks.erase errand.room } (.leaving lock answer)
  | released {lock : LockId} {answer : Except Failure Bool} (phase : errand.phase = .leaving lock answer) :
    Progress winPoints v errand v (.done answer)

/-- A request makes progress or stays where it is. -/
theorem advance_cases (winPoints : Int64) (v : Service) (place : Nat) (errand : Errand) :
    v.advance winPoints place errand = v ∨
      ∃ v' next, Progress winPoints v errand v' next ∧ v.advance winPoints place errand = v'.put place next := by
  unfold advance
  split
  case h_1 hphase =>
    refine .inr ?_
    split
    case h_1 lock hlock =>
      exact ⟨v, _, @Progress.found winPoints v errand v.locks v.made lock hphase hlock fun _ _ h => h, rfl⟩
    case h_2 hlock =>
      refine ⟨_, _, .found hphase (by rw [Table.get?_insert, if_pos rfl]) fun room old hold => ?_, rfl⟩
      rw [Table.get?_insert, if_neg, hold]
      rintro rfl
      rw [hlock] at hold
      contradiction
  case h_2 lock hphase =>
    split
    case isTrue => exact .inl rfl
    case isFalse hfree => exact .inr ⟨v, _, .entered hphase (by simpa using hfree), rfl⟩
  case h_3 lock hphase =>
    refine .inr ?_
    split
    case h_1 answer hdecision => exact ⟨v, _, .answered hphase hdecision, rfl⟩
    case h_2 w hdecision => exact ⟨v, _, .loaded hphase hdecision, rfl⟩
  case h_4 lock w hphase =>
    refine .inr ⟨_, _, .written hphase ?_, rfl⟩
    by_cases hcloses : ((w.land v.store winPoints).2 && errand.request.closes w) = true
    · exact .inr ⟨if_pos hcloses, by simpa using hcloses⟩
    · exact .inl (if_neg hcloses)
  case h_5 lock answer hphase => exact .inr ⟨_, _, .closed hphase, rfl⟩
  case h_6 lock answer hphase => exact .inr ⟨v, _, .released hphase, rfl⟩
  case h_7 => exact .inl rfl

/-- Making progress leaves the requests as they are. -/
theorem Progress.errands {winPoints : Int64} {v v' : Service} {errand : Errand} {next : Phase}
    (h : Progress winPoints v errand v' next) : v'.errands = v.errands := by
  cases h <;> rfl

/-- A request is at a place. -/
def At (v : Service) (place : Nat) (errand : Errand) : Prop := v.errands[place]? = some errand

/-- A place has one request. -/
theorem At.unique {v : Service} {place : Nat} {errand errand' : Errand} (h : v.At place errand)
    (h' : v.At place errand') : errand = errand' := Option.some.inj (h.symm.trans h')

/-- A request that makes progress is the only one whose phase changes. -/
theorem at_put {v v' : Service} (hsame : v'.errands = v.errands) {place other : Nat} {errand errand' : Errand}
    (hat : v.At place errand) {next : Phase} :
    (v'.put place next).At other errand' ↔
      (other = place ∧ errand' = { errand with phase := next }) ∨ (other ≠ place ∧ v.At other errand') := by
  unfold At at hat ⊢
  rw [put, List.getElem?_modify, hsame]
  by_cases hplace : place = other
  · subst hplace
    simp [hat, eq_comm]
  · simp [hplace, Ne.symm hplace]

/-- A request arrives behind the others. -/
theorem at_arrive {winPoints : Int64} {v : Service} {room : RoomId} {request : Request} {place : Nat}
    {errand : Errand} :
    (v.step winPoints (.arrive room request)).At place errand ↔
      v.At place errand ∨ place = v.errands.length ∧ errand = { room, request } := by
  rw [At, At, step, List.getElem?_append]
  by_cases hplace : place < v.errands.length
  · simp [hplace, Nat.ne_of_lt hplace]
  · rw [if_neg hplace, List.getElem?_eq_none (Nat.le_of_not_lt hplace), List.getElem?_singleton]
    by_cases hfirst : place = v.errands.length
    · simp [hfirst, eq_comm]
    · simp [hfirst, show place - v.errands.length ≠ 0 by omega]

/-! ## The invariant -/

/-- Whatever the order of the steps, locks are what they should be. -/
structure Sound (v : Service) : Prop where
  /-- A lock that was found is the one in the table, unless the room has ended. -/
  tied : ∀ {place errand lock}, v.At place errand → errand.phase.lock? = some lock →
    v.locks.get? errand.room = some lock ∨ v.Ended errand.room
  /-- Nobody shares a lock. -/
  apart : ∀ {place other errand errand' lock}, v.At place errand → v.At other errand' →
    errand.phase.held? = some lock → errand'.phase.held? = some lock → place = other
  /-- What was decided on a room would be decided on it still. -/
  current : ∀ {place errand lock w}, v.At place errand → errand.phase = .loaded lock w →
    errand.request.decide errand.room (v.store.room errand.room) = .write w
  /-- A lock is taken out of the table when its room has ended. -/
  closing : ∀ {place errand lock answer}, v.At place errand → errand.phase = .closing lock answer →
    v.Ended errand.room

/-- Two requests that hold different locks for one room have found that it has ended. -/
theorem Sound.ended {v : Service} (h : v.Sound) {place other : Nat} {errand errand' : Errand} {lock lock' : LockId}
    (hat : v.At place errand) (hat' : v.At other errand') (hheld : errand.phase.held? = some lock)
    (hheld' : errand'.phase.held? = some lock') (hroom : errand'.room = errand.room) (hne : lock ≠ lock') :
    v.Ended errand.room := by
  rcases h.tied hat (Phase.lock?_of_held? hheld) with htable | hended
  · rcases h.tied hat' (Phase.lock?_of_held? hheld') with htable' | hended
    · rw [hroom, htable, Option.some.injEq] at htable'
      exact absurd htable' hne
    · exact hroom ▸ hended
  · exact hended

/-- A room that a request is about to write has not ended, and the request writes that room. -/
theorem Sound.live {v : Service} (h : v.Sound) {place : Nat} {errand : Errand} {lock : LockId} {w : Write}
    (hat : v.At place errand) (hphase : errand.phase = .loaded lock w) :
    w.room.id = errand.room ∧ ¬ v.Ended errand.room := by
  obtain ⟨hid, ⟨row, hrow, hlive⟩, -⟩ := Request.decide_write (h.current hat hphase)
  refine ⟨hid, fun ⟨row', hrow', hended⟩ => ?_⟩
  rw [hrow, Option.some.injEq] at hrow'
  rw [← hrow', hlive] at hended
  contradiction

/-- While a request is about to write a room, nobody else holds a lock for it. -/
theorem Sound.alone {v : Service} (h : v.Sound) {place other : Nat} {errand errand' : Errand}
    {lock lock' : LockId} {w : Write} (hat : v.At place errand) (hphase : errand.phase = .loaded lock w)
    (hat' : v.At other errand') (hheld' : errand'.phase.held? = some lock') (hroom : errand'.room = errand.room) :
    place = other := by
  have hheld : errand.phase.held? = some lock := by rw [hphase]; rfl
  by_cases hlock : lock = lock'
  · exact h.apart hat hat' hheld (hlock ▸ hheld')
  · exact absurd (h.ended hat hat' hheld hheld' hroom hlock) (h.live hat hphase).2

/-- A phase agrees with the locks and the store for a request that comes to it. -/
structure Suits (v v' : Service) (errand : Errand) (next : Phase) : Prop where
  tied : ∀ {lock}, next.lock? = some lock → v'.locks.get? errand.room = some lock ∨ v'.Ended errand.room
  held : ∀ {lock}, next.held? = some lock → errand.phase.held? = some lock ∨ v.isHeld lock = false
  current : ∀ {lock w}, next = .loaded lock w →
    errand.request.decide errand.room (v'.store.room errand.room) = .write w
  closing : ∀ {lock answer}, next = .closing lock answer → v'.Ended errand.room

/-- The invariant is kept when a request comes to a phase that suits it, if nothing is lost for the others: rooms that
have ended, locks in the table, and rooms that were loaded. -/
theorem Sound.put {v v' : Service} (h : v.Sound) {place : Nat} {errand : Errand} {next : Phase}
    (hat : v.At place errand) (hsame : v'.errands = v.errands) (hsuits : Suits v v' errand next)
    (hended : ∀ room, v.Ended room → v'.Ended room)
    (htied : ∀ room lock, v.locks.get? room = some lock → v'.locks.get? room = some lock ∨ v'.Ended room)
    (hcurrent : ∀ {other errand' lock w}, other ≠ place → v.At other errand' → errand'.phase = .loaded lock w →
      v'.store.room errand'.room = v.store.room errand'.room) : (v'.put place next).Sound := by
  have hfree : ∀ {other errand' lock}, v.At other errand' → v.isHeld lock = false →
      errand'.phase.held? ≠ some lock := by
    intro other errand' lock hat' hnone hsome
    have hholds := List.any_eq_false.mp hnone errand' (List.mem_of_getElem? hat')
    simp [hsome] at hholds
  constructor
  case tied =>
    intro other errand' lock hat' hlock
    rcases (at_put hsame hat).mp hat' with ⟨-, rfl⟩ | ⟨-, hat'⟩
    · exact hsuits.tied hlock
    · rcases h.tied hat' hlock with htable | hover
      · exact htied _ _ htable
      · exact .inr (hended _ hover)
  case apart =>
    intro other other' errand' errand'' lock hat' hat'' hlock hlock'
    rcases (at_put hsame hat).mp hat' with ⟨rfl, rfl⟩ | ⟨-, hold'⟩
    · rcases (at_put hsame hat).mp hat'' with ⟨rfl, -⟩ | ⟨-, hold''⟩
      · rfl
      · rcases hsuits.held hlock with hbefore | hnone
        · exact h.apart hat hold'' hbefore hlock'
        · exact absurd hlock' (hfree hold'' hnone)
    · rcases (at_put hsame hat).mp hat'' with ⟨rfl, rfl⟩ | ⟨-, hold''⟩
      · rcases hsuits.held hlock' with hbefore | hnone
        · exact h.apart hold' hat hlock hbefore
        · exact absurd hlock (hfree hold' hnone)
      · exact h.apart hold' hold'' hlock hlock'
  case current =>
    intro other errand' lock w hat' hphase
    rcases (at_put hsame hat).mp hat' with ⟨-, rfl⟩ | ⟨hne, hold'⟩
    · exact hsuits.current hphase
    · exact (congrArg (errand'.request.decide errand'.room) (hcurrent hne hold' hphase)).trans
        (h.current hold' hphase)
  case closing =>
    intro other errand' lock answer hat' hphase
    rcases (at_put hsame hat).mp hat' with ⟨-, rfl⟩ | ⟨-, hold'⟩
    · exact hsuits.closing hphase
    · exact hended _ (h.closing hold' hphase)

/-- The invariant is kept when a request comes to a phase that suits it, and nothing else changes. -/
theorem Sound.put_self {v : Service} (h : v.Sound) {place : Nat} {errand : Errand} {next : Phase}
    (hat : v.At place errand) (hsuits : Suits v v errand next) : (v.put place next).Sound :=
  h.put hat rfl hsuits (fun _ hover => hover) (fun _ _ htable => .inl htable) fun _ _ _ => rfl

/-- A write leaves every row but that of its room as it is. -/
theorem row?_land_of_ne (s : Store) (winPoints : Int64) {w : Write} {id : RoomId} (hid : id ≠ w.room.id) :
    (w.land s winPoints).1.row? id = s.row? id := by
  rcases w.land_cases s winPoints with ⟨row, -, -, hland⟩ | hland
  · rw [hland, Write.row?_landed]
    simp [hid]
  · rw [hland]

/-- A room that has ended is in its row after a write that was accepted. -/
theorem row?_land {s : Store} {winPoints : Int64} {w : Write} (haccepted : (w.land s winPoints).2 = true) :
    ∃ row, (w.land s winPoints).1.row? w.room.id = some row ∧ row.status = w.room.status := by
  rcases w.land_cases s winPoints with ⟨row, hrow, -, hland⟩ | hland
  · rw [hland, Write.row?_landed, hrow]
    exact ⟨_, by rw [Option.map_some, if_pos rfl], by cases w <;> rfl⟩
  · rw [hland] at haccepted
    contradiction

/-- The invariant is kept when a request writes. -/
theorem Sound.written {winPoints : Int64} {v : Service} (h : v.Sound) {place : Nat} {errand : Errand}
    {lock : LockId} {w : Write} {next : Phase} (hat : v.At place errand) (hphase : errand.phase = .loaded lock w)
    (hnext : next = .leaving lock (errand.request.settle (w.land v.store winPoints).2) ∨
      next = .closing lock (errand.request.settle (w.land v.store winPoints).2) ∧
        (w.land v.store winPoints).2 = true ∧ errand.request.closes w = true) :
    ({ v with store := (w.land v.store winPoints).1 }.put place next).Sound := by
  obtain ⟨hid, hlive⟩ := h.live hat hphase
  have hheld : errand.phase.held? = some lock := by rw [hphase]; rfl
  have htable : v.locks.get? errand.room = some lock :=
    (h.tied hat (Phase.lock?_of_held? hheld)).resolve_right hlive
  have hrow : ∀ room, room ≠ errand.room → (w.land v.store winPoints).1.row? room = v.store.row? room :=
    fun room hne => row?_land_of_ne v.store winPoints (hid ▸ hne)
  refine h.put hat rfl ?_ ?_ (fun _ _ htable => .inl htable) ?_
  case refine_1 =>
    obtain rfl | ⟨rfl, haccepted, hcloses⟩ := hnext
    · exact ⟨fun hlock => .inl (htable.trans hlock), fun hlock => .inl (hheld.trans hlock), nofun, nofun⟩
    · refine ⟨fun hlock => .inl (htable.trans hlock), fun hlock => .inl (hheld.trans hlock), nofun, fun _ => ?_⟩
      obtain ⟨row, hwritten, hstatus⟩ := row?_land haccepted
      obtain ⟨-, -, hterminal⟩ := Request.decide_write (h.current hat hphase)
      exact ⟨row, hid ▸ hwritten, hstatus ▸ hterminal hcloses⟩
  case refine_2 =>
    rintro room ⟨row, hover, hstatus⟩
    have hne : room ≠ errand.room := by
      rintro rfl
      exact hlive ⟨row, hover, hstatus⟩
    exact ⟨row, (hrow room hne).trans hover, hstatus⟩
  case refine_3 =>
    intro other errand' lock' w' hne hat' hphase'
    have hheld' : errand'.phase.held? = some lock' := by
      rw [hphase']
      rfl
    have hroom : errand'.room ≠ errand.room := fun hsame => hne (h.alone hat hphase hat' hheld' hsame).symm
    simp only [Store.room, hrow errand'.room hroom]

/-- The invariant is kept when a request makes progress. -/
theorem Sound.progress {winPoints : Int64} {v v' : Service} (h : v.Sound) {place : Nat} {errand : Errand}
    {next : Phase} (hat : v.At place errand) (hprogress : Progress winPoints v errand v' next) :
    (v'.put place next).Sound := by
  cases hprogress with
  | found hphase hfound hkept =>
    exact h.put hat rfl ⟨fun hlock => .inl (hfound.trans hlock), nofun, nofun, nofun⟩ (fun _ hover => hover)
      (fun room old hold => .inl (hkept room old hold)) fun _ _ _ => rfl
  | entered hphase hfree =>
    exact h.put_self hat
      ⟨fun hlock => h.tied hat (by rw [hphase]; exact hlock), fun hlock => .inr (Option.some.inj hlock ▸ hfree), nofun,
        nofun⟩
  | answered hphase hdecision =>
    exact h.put_self hat
      ⟨fun hlock => h.tied hat (by rw [hphase]; exact hlock), fun hlock => .inl (by rw [hphase]; exact hlock), nofun,
        nofun⟩
  | loaded hphase hdecision =>
    refine h.put_self hat
      ⟨fun hlock => h.tied hat (by rw [hphase]; exact hlock),
        fun hlock => .inl (by rw [hphase]; exact hlock), ?_, nofun⟩
    rintro lock w ⟨⟩
    exact hdecision
  | written hphase hnext => exact h.written hat hphase hnext
  | closed hphase =>
    have hover := h.closing hat hphase
    refine h.put hat rfl
      ⟨fun _ => .inr hover, fun hlock => .inl (by rw [hphase]; exact hlock), nofun, nofun⟩ (fun _ hended => hended)
      (fun room lock htable => ?_) fun _ _ _ => rfl
    rw [Table.get?_erase]
    by_cases hroom : errand.room = room
    · exact .inr (hroom ▸ hover)
    · exact .inl ((if_neg hroom).trans htable)
  | released hphase => exact h.put_self hat ⟨nofun, nofun, nofun, nofun⟩

/-- The invariant is kept by every step. -/
theorem Sound.step {winPoints : Int64} {v : Service} (h : v.Sound) (e : Step) : (v.step winPoints e).Sound := by
  cases e with
  | arrive room request =>
    have hold : ∀ {place errand}, (v.step winPoints (.arrive room request)).At place errand →
        v.At place errand ∨ errand.phase = .arrived := fun hat => (at_arrive.mp hat).imp_right fun h => by rw [h.2]
    constructor
    case tied =>
      intro place errand lock hat hlock
      rcases hold hat with hat | hphase
      · exact h.tied hat hlock
      · simp [hphase, Phase.lock?] at hlock
    case apart =>
      intro place other errand errand' lock hat hat' hheld hheld'
      rcases hold hat with hat | hphase
      · rcases hold hat' with hat' | hphase'
        · exact h.apart hat hat' hheld hheld'
        · simp [hphase', Phase.held?] at hheld'
      · simp [hphase, Phase.held?] at hheld
    case current =>
      intro place errand lock w hat hphase
      rcases hold hat with hat | hnew
      · exact h.current hat hphase
      · simp [hnew] at hphase
    case closing =>
      intro place errand lock answer hat hphase
      rcases hold hat with hat | hnew
      · exact h.closing hat hphase
      · simp [hnew] at hphase
  | advance place =>
    cases hat : v.errands[place]? with
    | none => simpa [Service.step, hat] using h
    | some errand =>
      rw [Service.step, hat, Option.elim_some]
      rcases v.advance_cases winPoints place errand with hsame | ⟨v', next, hprogress, hnext⟩
      · rwa [hsame]
      · rw [hnext]
        exact h.progress hat hprogress
  | tick clock => exact ⟨h.tied, h.apart, h.current, h.closing⟩

/-- The invariant holds of a service that has not begun. -/
theorem sound_start (store : Store) : Sound { store } := ⟨nofun, nofun, nofun, nofun⟩

/-- The invariant is kept by all steps. -/
theorem Sound.run {winPoints : Int64} {v : Service} (h : v.Sound) (steps : List Step) :
    (v.run winPoints steps).Sound := by
  induction steps generalizing v with
  | nil => exact h
  | cons e steps ih => exact ih (h.step e)

end Service

end Parlor.Game
