import Parlor.Proofs.Game.Lifecycle

/-!
# Calls that a room refuses

A stored room can be read back in any shape: active without an opponent, with the turn of a stranger,
with lines on a board that is still played. Whatever the room is like, a call is either accepted, and
then it succeeds, or it fails and the room is what it was. A move writes its cell before it asks what
the board says, so for a move this rests on an active game always being allowed to end.
-/

namespace Parlor.Game

namespace Room

/-- The calls that a room accepts, whatever else it holds. -/
def Accepts (r : Room) : Call → Prop
  | .join user => r.status = .pending ∧ r.creator ≠ user
  | .move user move => ∃ m other c, r.LegalMove user move m other c
  | .forfeit absent => r.status = .active ∧ ∃ winner, r.opponentOf? absent = some winner
  | .cancel => r.status = .pending

/-- A call that a room accepts succeeds. -/
theorem call_of_accepts (r : Room) (c : Call) (haccepts : r.Accepts c) :
    ∃ answer, (r.call c).2 = .ok answer := by
  cases c with
  | join user =>
    obtain ⟨hpending, hcreator⟩ := haccepts
    refine ⟨.joined, ?_⟩
    simp [call, join, hpending, hcreator, become, Status.canBecome, Except.map]
  | move user move =>
    obtain ⟨m, other, cell, hlegal⟩ := haccepts
    exact ⟨.moved (r.afterMove user other cell m).2, by simp only [call, hlegal.applyMove, Except.map]⟩
  | forfeit absent =>
    obtain ⟨hactive, winner, hother⟩ := haccepts
    refine ⟨.forfeited (.win winner absent), ?_⟩
    simp [call, forfeit, hother, hactive, become, Status.canBecome, Except.map]
  | cancel =>
    have hpending : r.status = .pending := haccepts
    exact ⟨.cancelled, by simp [call, cancel, hpending, become, Status.canBecome, Except.map]⟩

/-- A call that a room does not accept fails, and the room is what it was. -/
theorem call_of_not_accepts (r : Room) (c : Call) (hrefuses : ¬ r.Accepts c) :
    ∃ f, r.call c = (r, .error f) := by
  cases c with
  | join user =>
    rcases r.join_cases user with ⟨hpending, hcreator, -⟩ | ⟨f, hjoin⟩
    · exact absurd ⟨hpending, hcreator⟩ hrefuses
    · exact ⟨f, by simp only [call, hjoin, Except.map]⟩
  | move user move =>
    rcases r.applyMove_cases user move with ⟨m, other, cell, hlegal, -⟩ | ⟨f, hmove⟩
    · exact absurd ⟨m, other, cell, hlegal⟩ hrefuses
    · exact ⟨f, by simp only [call, hmove, Except.map]⟩
  | forfeit absent =>
    rcases r.forfeit_cases absent with ⟨winner, hactive, hother, -⟩ | ⟨f, hforfeit⟩
    · exact absurd ⟨hactive, winner, hother⟩ hrefuses
    · exact ⟨f, by simp only [call, hforfeit, Except.map]⟩
  | cancel =>
    rcases r.cancel_cases with ⟨hpending, -⟩ | ⟨f, hcancel⟩
    · exact absurd hpending hrefuses
    · exact ⟨f, by simp only [call, hcancel, Except.map]⟩

/-- A call fails exactly when the room does not accept it. -/
theorem call_error_iff (r : Room) (c : Call) : (∃ f, (r.call c).2 = .error f) ↔ ¬ r.Accepts c := by
  constructor
  · rintro ⟨f, herror⟩ haccepts
    obtain ⟨answer, hok⟩ := r.call_of_accepts c haccepts
    rw [herror] at hok
    contradiction
  · intro hrefuses
    obtain ⟨f, hcall⟩ := r.call_of_not_accepts c hrefuses
    exact ⟨f, by rw [hcall]⟩

/-- A call that fails leaves the room as it was. -/
theorem call_error (r : Room) (c : Call) (f : Failure) (herror : (r.call c).2 = .error f) :
    (r.call c).1 = r := by
  obtain ⟨g, hcall⟩ := r.call_of_not_accepts c ((r.call_error_iff c).mp ⟨f, herror⟩)
  rw [hcall]

/-- A room after one marker more: in a cell that was free, with the same seats. -/
structure MarkedAt (r r' : Room) (c : Cell) (m : Marker) : Prop where
  free : r.board.get c = none
  marked : r'.board.get c = some m
  elsewhere : ∀ d, d ≠ c → r'.board.get d = r.board.get d
  id : r'.id = r.id
  creator : r'.creator = r.creator
  opponent : r'.opponent = r.opponent
  gameType : r'.gameType = r.gameType

/-- A legal move puts its marker into its cell. -/
theorem LegalMove.markedAt {r : Room} {user other : UserId} {move : Move} {m : Marker} {c : Cell}
    (h : r.LegalMove user move m other c) : r.MarkedAt (r.afterMove user other c m).1 c m := by
  obtain ⟨hid, htype, hcreator, hopponent, hboard, -⟩ := r.afterMove_frame user other c m
  have hget (d : Cell) : (r.afterMove user other c m).1.board.get d = if c = d then some m else r.board.get d := by
    rw [hboard, Board.get_set]
  exact ⟨h.free, by rw [hget, if_pos rfl], fun d hd => by rw [hget, if_neg hd.symm], hid, hcreator,
    hopponent, htype⟩

/--
Whatever a room is like: a join, a move, a forfeit or a cancellation that fails leaves it exactly as it
was; a call fails only when the room does not accept it; and a move that succeeds puts the marker of
the mover into the one cell it names, which was free, and leaves the other cells and the seats alone.
-/
theorem unchanged_of_failure (r : Room) :
    (∀ user f, (r.join user).2 = .error f → (r.join user).1 = r) ∧
      (∀ user move f, (r.applyMove user move).2 = .error f → (r.applyMove user move).1 = r) ∧
      (∀ absent f, (r.forfeit absent).2 = .error f → (r.forfeit absent).1 = r) ∧
      (∀ f, r.cancel.2 = .error f → r.cancel.1 = r) ∧
      (∀ c, (∃ f, (r.call c).2 = .error f) ↔ ¬ r.Accepts c) ∧
      ∀ user move outcome, (r.applyMove user move).2 = .ok outcome →
        ∃ c m, Board.cell? move.x move.y = some c ∧ r.markerOf? user = some m ∧
          r.MarkedAt (r.applyMove user move).1 c m := by
  refine ⟨?join, ?move, ?forfeit, ?cancel, r.call_error_iff, ?success⟩
  case join =>
    intro user f herror
    exact r.call_error (.join user) f (by simp only [call, herror, Except.map])
  case move =>
    intro user move f herror
    exact r.call_error (.move user move) f (by simp only [call, herror, Except.map])
  case forfeit =>
    intro absent f herror
    exact r.call_error (.forfeit absent) f (by simp only [call, herror, Except.map])
  case cancel =>
    intro f herror
    exact r.call_error .cancel f (by simp only [call, herror, Except.map])
  case success =>
    intro user move outcome hok
    rcases r.applyMove_cases user move with ⟨m, other, c, hlegal, hmove⟩ | ⟨f, hmove⟩
    · rw [hmove]
      exact ⟨c, m, hlegal.cell, hlegal.marker, hlegal.markedAt⟩
    · rw [hmove] at hok
      contradiction

/-- A room without an opponent that is active all the same, with the turn of a stranger. -/
def strayed : Room := { newPending 7 1 .ticTacToe with status := .active, nextTurn := some 9 }

/-- An active room whose creator has a whole row already, with the turn of the opponent. -/
def overrun : Room :=
  { newPending 7 1 .ticTacToe with
    status := .active, opponent := some 2, nextTurn := some 2
    board := .ofCells [some .x, some .x, some .x, some .o] }

/-- The stranger's move fails and changes nothing; the opponent's move beside the row is one cell. -/
theorem strayed_overrun :
    ((strayed.applyMove 9 { x := 0, y := 0 }).2 = .error .notParticipant ∧
        (strayed.applyMove 9 { x := 0, y := 0 }).1 = strayed) ∧
      (overrun.applyMove 2 { x := 2, y := 2 }).2 = .ok (.won 2 1) ∧
        ∃ c m, Board.cell? 2 2 = some c ∧ overrun.markerOf? 2 = some m ∧
          overrun.MarkedAt (overrun.applyMove 2 { x := 2, y := 2 }).1 c m := by
  have hstrayed : (strayed.applyMove 9 { x := 0, y := 0 }).2 = .error .notParticipant := by decide +kernel
  have hoverrun : (overrun.applyMove 2 { x := 2, y := 2 }).2 = .ok (.won 2 1) := by decide +kernel
  exact ⟨⟨hstrayed, (unchanged_of_failure strayed).2.1 _ _ _ hstrayed⟩, hoverrun,
    (unchanged_of_failure overrun).2.2.2.2.2 _ _ _ hoverrun⟩

end Room

end Parlor.Game
