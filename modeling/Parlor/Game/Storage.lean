import Parlor.Game.Store

/-!
# Access to the store

The store is reached over a connection that may fail, and other servers write to the same store.  A
trouble may set in after some calls: then every call fails, or every conditional write finds that
another writer was first.
-/

namespace Parlor.Game

/-- What is wrong with the access to the store. -/
inductive Trouble where
  | none
  /-- Conditional writes come too late. -/
  | outrun
  /-- Every call fails. -/
  | offline
  deriving DecidableEq, Repr

/-- The trouble of a name. -/
def Trouble.ofName? : String → Option Trouble
  | "ok" => some .none
  | "lose" => some .outrun
  | "broken" => some .offline
  | _ => Option.none

/-- The store as it is reached by the servers. -/
structure Storage where
  store : Store
  trouble : Trouble := .none
  /-- The number of calls before the trouble sets in. -/
  goodCalls : Nat := 0
  deriving Repr

namespace Storage

/-- The fault of a call that fails. -/
def offlineFault : StorageFault := .told "storage offline"

/-- Counts a call, and tells which trouble it meets. -/
def call (s : Storage) : Storage × Trouble :=
  match s.trouble, s.goodCalls with
  | .none, _ => (s, .none)
  | _, n + 1 => ({ s with goodCalls := n }, .none)
  | trouble, 0 => (s, trouble)

/-- A call that only reads. -/
def read {α : Type} (s : Storage) (query : Store → Except StorageFault α) :
    Storage × Except StorageFault α :=
  match s.call with
  | (s, .offline) => (s, .error offlineFault)
  | (s, .none) | (s, .outrun) => (s, query s.store)

/-- A call that writes unconditionally. -/
def insert {α : Type} (s : Storage) (write : Store → Store × Except StorageFault α) :
    Storage × Except StorageFault α :=
  match s.call with
  | (s, .offline) => (s, .error offlineFault)
  | (s, .none) | (s, .outrun) =>
    let (store, result) := write s.store
    ({ s with store }, result)

/-- A call that writes if no other writer was first, and otherwise answers `lost`. -/
def write {α : Type} (s : Storage) (lost : α) (write : Store → Store × α) :
    Storage × Except StorageFault α :=
  match s.call with
  | (s, .offline) => (s, .error offlineFault)
  | (s, .outrun) => (s, .ok lost)
  | (s, .none) =>
    let (store, a) := write s.store
    ({ s with store }, .ok a)

/-- Inserts a room that waits for an opponent. -/
def createRoom (s : Storage) (creator : UserId) (gameType : GameType) :
    Storage × Except StorageFault Room :=
  s.insert (·.createRoom creator gameType)

/-- Loads a room. -/
def room (s : Storage) (id : RoomId) : Storage × Except StorageFault (Option Room) :=
  s.read (·.room id)

/-- The rooms that wait for an opponent, the newest first. -/
def pendingRooms (s : Storage) (gameType : GameType) : Storage × Except StorageFault (List Room) :=
  s.read (·.pendingRooms gameType)

/-- Overwrites a room that still has the expected status. -/
def updateRoom (s : Storage) (room : Room) (expected : Status) : Storage × Except StorageFault Bool :=
  s.write false (·.updateRoom room expected)

/-- Stores a move together with the room that it leads to. -/
def commitMove (s : Storage) (room : Room) (user : UserId) (data : String) (finish : Option Finish)
    (winPoints : Int64) : Storage × Except StorageFault (Option MoveRecord) :=
  s.write none (·.commitMove room user data finish winPoints)

/-- Stores a finished room and counts the game. -/
def finishRoom (s : Storage) (room : Room) (finish : Finish) (winPoints : Int64) :
    Storage × Except StorageFault Bool :=
  s.write false (·.finishRoom room finish winPoints)

/-- The statistics of a player. -/
def stats (s : Storage) (user : UserId) (gameType : GameType) : Storage × Except StorageFault Stats :=
  s.read (·.stats user gameType)

end Storage

end Parlor.Game
