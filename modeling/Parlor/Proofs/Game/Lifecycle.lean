import Parlor.Game.Room
import Parlor.Proofs.Game.Lines
import Mathlib.Data.List.Induction

/-!
# The life of a room

A room is opened and then changed only by calls of its four operations, any of which may fail.
One lemma says what each call can do to a room, whatever the room is like. From these follows what
holds of every room that has come about in this way: `Room.Lawful` ties the status to the players,
the turn, the markers, the lines and the result.
-/

namespace Parlor.Game

/-- A call of an operation of a room. -/
inductive Call where
  | join (user : UserId)
  | move (user : UserId) (move : Move)
  | forfeit (absent : UserId)
  | cancel
  deriving DecidableEq, Repr

/-- What a call that succeeds answers. -/
inductive Answer where
  | joined
  | moved (outcome : MoveOutcome)
  | forfeited (finish : Finish)
  | cancelled
  deriving DecidableEq, Repr

namespace Room

/-- Makes a call, which leaves a room also when it fails. -/
def call (r : Room) : Call → Room × Except Failure Answer
  | .join user => ((r.join user).1, (r.join user).2.map fun _ => .joined)
  | .move user move => ((r.applyMove user move).1, (r.applyMove user move).2.map .moved)
  | .forfeit absent => ((r.forfeit absent).1, (r.forfeit absent).2.map .forfeited)
  | .cancel => (r.cancel.1, r.cancel.2.map fun _ => .cancelled)

/-- Makes calls one after the other. -/
def play (r : Room) (calls : List Call) : Room := calls.foldl (fun r c => (r.call c).1) r

/-! ## What each operation can do -/

/-- The room after a join. -/
def joinedBy (r : Room) (user : UserId) : Room :=
  { r with status := .active, opponent := some user, nextTurn := some r.creator }

/-- A join seats somebody else than the creator in a room that waits, or fails. -/
theorem join_cases (r : Room) (user : UserId) :
    (r.status = .pending ∧ r.creator ≠ user ∧ r.join user = (r.joinedBy user, .ok ())) ∨
      ∃ f, r.join user = (r, .error f) := by
  unfold join
  by_cases hstatus : r.status = .pending
  · by_cases hcreator : r.creator = user
    · exact .inr ⟨.creatorCannotJoin, by simp [hstatus, hcreator]⟩
    · exact .inl ⟨hstatus, hcreator, by simp [hstatus, hcreator, become, Status.canBecome, joinedBy]⟩
  · exact .inr ⟨.notJoinable, by simp [hstatus]⟩

/-- A cell that a player may fill now. -/
structure LegalMove (r : Room) (user : UserId) (move : Move) (m : Marker) (other : UserId) (c : Cell) :
    Prop where
  active : r.status = .active
  turn : r.nextTurn = some user
  marker : r.markerOf? user = some m
  other : r.opponentOf? user = some other
  cell : Board.cell? move.x move.y = some c
  free : r.board.get c = none

/-- The room after a legal move, and what the move leads to. -/
def afterMove (r : Room) (user other : UserId) (c : Cell) (m : Marker) : Room × MoveOutcome :=
  let r := { r with board := r.board.set c (some m) }
  match r.board.outcome with
  | .inProgress => ({ r with nextTurn := some other }, .continued other)
  | .won _ => ({ r with status := .finished, winner := some user }, .won user other)
  | .draw => ({ r with status := .finished, isDraw := true }, .draw)

/-- A legal move leaves the seats alone and fills its cell. -/
theorem afterMove_frame (r : Room) (user other : UserId) (c : Cell) (m : Marker) :
    (r.afterMove user other c m).1.id = r.id ∧
      (r.afterMove user other c m).1.gameType = r.gameType ∧
      (r.afterMove user other c m).1.creator = r.creator ∧
      (r.afterMove user other c m).1.opponent = r.opponent ∧
      (r.afterMove user other c m).1.board = r.board.set c (some m) ∧
      ((r.afterMove user other c m).1.status = r.status ∨
        (r.afterMove user other c m).1.status = .finished) := by
  unfold afterMove
  dsimp only
  split <;> simp

/-- A legal move is made. -/
theorem LegalMove.applyMove {r : Room} {user other : UserId} {move : Move} {m : Marker} {c : Cell}
    (h : r.LegalMove user move m other c) :
    r.applyMove user move = ((r.afterMove user other c m).1, .ok (r.afterMove user other c m).2) := by
  have hplace : r.board.place move.x move.y m = .ok (r.board.set c (some m)) :=
    (Board.place_eq_ok_iff _ _ _ _ _).mpr ⟨c, h.cell, h.free, rfl⟩
  simp only [Room.applyMove, h.active, h.turn, movers, h.marker, h.other, hplace, goOn, afterMove]
  cases (r.board.set c (some m)).outcome <;> simp [become, Status.canBecome]

/-- A move fills one free cell for the player whose turn it is, or fails. -/
theorem applyMove_cases (r : Room) (user : UserId) (move : Move) :
    (∃ m other c, r.LegalMove user move m other c ∧
        r.applyMove user move = ((r.afterMove user other c m).1, .ok (r.afterMove user other c m).2)) ∨
      ∃ f, r.applyMove user move = (r, .error f) := by
  by_cases hguard : r.status ≠ .active ∨ r.nextTurn ≠ some user
  · exact .inr ⟨.notYourTurn, by simp only [applyMove, if_pos hguard]⟩
  · obtain ⟨hactive, hturn⟩ : r.status = .active ∧ r.nextTurn = some user := by
      simpa only [not_or, not_not] using hguard
    cases hmarker : r.markerOf? user with
    | none => exact .inr ⟨.notParticipant, by simp [applyMove, hactive, hturn, movers, hmarker]⟩
    | some m =>
      cases hother : r.opponentOf? user with
      | none => exact .inr ⟨.notParticipant, by simp [applyMove, hactive, hturn, movers, hmarker, hother]⟩
      | some other =>
        cases hplace : r.board.place move.x move.y m with
        | error fault =>
          exact .inr ⟨placeFailure fault, by simp [applyMove, hactive, hturn, movers, hmarker, hother, hplace]⟩
        | ok board =>
          obtain ⟨c, hcell, hfree, rfl⟩ := (Board.place_eq_ok_iff _ _ _ _ _).mp hplace
          have hlegal : r.LegalMove user move m other c := ⟨hactive, hturn, hmarker, hother, hcell, hfree⟩
          exact .inl ⟨m, other, c, hlegal, hlegal.applyMove⟩

/-- The room after a player has stayed alone. -/
def wonBy (r : Room) (winner : UserId) : Room := { r with status := .finished, winner := some winner }

/-- A forfeit ends an active game in favour of the other player, or fails. -/
theorem forfeit_cases (r : Room) (absent : UserId) :
    (∃ winner, r.status = .active ∧ r.opponentOf? absent = some winner ∧
        r.forfeit absent = (r.wonBy winner, .ok (.win winner absent))) ∨
      ∃ f, r.forfeit absent = (r, .error f) := by
  unfold forfeit
  cases hother : r.opponentOf? absent with
  | none => exact .inr ⟨_, rfl⟩
  | some winner =>
    by_cases hcan : r.status.canBecome .finished
    · refine .inl ⟨winner, ?_, rfl, by simp [become, hcan, wonBy]⟩
      cases hstatus : r.status <;> simp [hstatus, Status.canBecome] at hcan ⊢
    · exact .inr ⟨.invalidTransition r.status .finished, by simp [become, hcan]⟩

/-- A room is cancelled while it waits, or the call fails. -/
theorem cancel_cases (r : Room) :
    (r.status = .pending ∧ r.cancel = ({ r with status := .cancelled }, .ok ())) ∨
      ∃ f, r.cancel = (r, .error f) := by
  unfold cancel
  by_cases hcan : r.status.canBecome .cancelled
  · refine .inl ⟨?_, by simp [become, hcan]⟩
    cases hstatus : r.status <;> simp [hstatus, Status.canBecome] at hcan ⊢
  · exact .inr ⟨.invalidTransition r.status .cancelled, by simp [become, hcan]⟩

/-! ## What holds of every room -/

/-- A room that nobody has joined. -/
structure Vacant (r : Room) : Prop where
  opponent : r.opponent = none
  winner : r.winner = none
  isDraw : r.isDraw = false
  board : r.board = .empty
  nextTurn : r.nextTurn = none

/-- A game that goes on: the creator, who has the crosses, is one marker ahead or it is their turn. -/
structure InPlay (r : Room) (rival : UserId) : Prop where
  opponent : r.opponent = some rival
  distinct : rival ≠ r.creator
  winner : r.winner = none
  isDraw : r.isDraw = false
  undecided : r.board.Undecided
  turn : r.board.count .x = r.board.count .o ∧ r.nextTurn = some r.creator ∨
    r.board.count .x = r.board.count .o + 1 ∧ r.nextTurn = some rival

/-- A game that a player has won by a line. -/
structure WonByLine (r : Room) : Prop where
  isDraw : r.isDraw = false
  line : ∃ user m, r.winner = some user ∧ r.markerOf? user = some m ∧ r.board.HasLine m ∧
    ∀ n, n ≠ m → ¬ r.board.HasLine n

/-- A game that has ended with nine markers that make no line. -/
structure Drawn (r : Room) : Prop where
  isDraw : r.isDraw = true
  winner : r.winner = none
  full : r.board.filled = 9
  lineless : ∀ m, ¬ r.board.HasLine m

/-- A game that has ended before the board decided it. -/
structure Forfeited (r : Room) : Prop where
  isDraw : r.isDraw = false
  winner : ∃ user, r.winner = some user ∧ r.isParticipant user = true
  undecided : r.board.Undecided

/-- A game that has ended. -/
structure Ended (r : Room) (rival : UserId) : Prop where
  opponent : r.opponent = some rival
  distinct : rival ≠ r.creator
  result : r.WonByLine ∨ r.Drawn ∨ r.Forfeited

/-- What the status of a room says about everything else in it. -/
def Lawful (r : Room) : Prop :=
  match r.status with
  | .pending | .cancelled => r.Vacant
  | .active => ∃ rival, r.InPlay rival
  | .finished => ∃ rival, r.Ended rival

/-- A room that waits is vacant. -/
theorem Lawful.vacant {r : Room} (h : r.Lawful) (hstatus : r.status = .pending) : r.Vacant := by
  simpa only [Lawful, hstatus] using h

/-- A game goes on in an active room. -/
theorem Lawful.inPlay {r : Room} (h : r.Lawful) (hstatus : r.status = .active) :
    ∃ rival, r.InPlay rival := by
  simpa only [Lawful, hstatus] using h

/-- A game has ended in a finished room. -/
theorem Lawful.ended {r : Room} (h : r.Lawful) (hstatus : r.status = .finished) :
    ∃ rival, r.Ended rival := by
  simpa only [Lawful, hstatus] using h

/-- A new room is lawful. -/
theorem lawful_newPending (id : RoomId) (creator : UserId) (gameType : GameType) :
    (newPending id creator gameType).Lawful := ⟨rfl, rfl, rfl, rfl, rfl⟩

/-- The creator has the crosses. -/
theorem markerOf?_creator (r : Room) : r.markerOf? r.creator = some .x := by simp [markerOf?]

/-- The rival of the creator has the noughts. -/
theorem InPlay.markerOf?_rival {r : Room} {rival : UserId} (h : r.InPlay rival) :
    r.markerOf? rival = some .o := by simp [markerOf?, h.distinct, h.opponent]

/-- Only the two players have another player. -/
theorem opponentOf?_eq_some_iff {r : Room} {rival user other : UserId} (h : r.opponent = some rival) :
    r.opponentOf? user = some other ↔
      user = r.creator ∧ other = rival ∨ user ≠ r.creator ∧ user = rival ∧ other = r.creator := by
  simp only [opponentOf?, h]
  by_cases hcreator : user = r.creator
  · simp [hcreator, eq_comm]
  · by_cases hrival : user = rival <;> simp_all [eq_comm]

/-- A join keeps a room lawful. -/
theorem Lawful.joinedBy {r : Room} (h : r.Lawful) {user : UserId} (hstatus : r.status = .pending)
    (hcreator : r.creator ≠ user) : (r.joinedBy user).Lawful := by
  obtain ⟨-, hwinner, hdraw, hboard, -⟩ := h.vacant hstatus
  refine ⟨user, rfl, hcreator.symm, hwinner, hdraw, ?_, .inl ⟨?_, rfl⟩⟩
  · simpa only [Room.joinedBy, hboard] using Board.undecided_empty
  · simp [Room.joinedBy, hboard]

/-- The mover of a legal move has the turn, the marker and the other seat that the game gives them. -/
theorem LegalMove.players {r : Room} {user other : UserId} {move : Move} {m : Marker} {c : Cell}
    (hlegal : r.LegalMove user move m other c) {rival : UserId} (hplay : r.InPlay rival) :
    user = r.creator ∧ m = .x ∧ other = rival ∧ r.board.count .x = r.board.count .o ∨
      user = rival ∧ m = .o ∧ other = r.creator ∧ r.board.count .x = r.board.count .o + 1 := by
  have hturn := hlegal.turn
  have hmarker := hlegal.marker
  have hother := (opponentOf?_eq_some_iff hplay.opponent).mp hlegal.other
  rcases hplay.turn with ⟨hcount, hnext⟩ | ⟨hcount, hnext⟩
  · obtain rfl : r.creator = user := by simpa [hnext] using hturn
    rw [markerOf?_creator, Option.some.injEq] at hmarker
    exact .inl ⟨rfl, hmarker.symm, by simpa using hother, hcount⟩
  · obtain rfl : rival = user := by simpa [hnext] using hturn
    rw [hplay.markerOf?_rival, Option.some.injEq] at hmarker
    exact .inr ⟨rfl, hmarker.symm, by simpa [hplay.distinct] using hother, hcount⟩

end Room

/-- What an answer says about the room after the call. -/
def Answer.Fits (next : Room) : Answer → Prop
  | .joined => next.status = .active
  | .moved (.continued turn) =>
    next.status = .active ∧ next.finish? = none ∧ next.turn? = some turn
  | .moved (.won winner loser) =>
    next.status = .finished ∧ next.WonByLine ∧ next.finish? = some (.win winner loser)
  | .moved .draw =>
    next.status = .finished ∧ next.Drawn ∧
      ∃ rival, next.opponent = some rival ∧ next.finish? = some (.draw next.creator rival)
  | .forfeited finish =>
    next.status = .finished ∧ next.Forfeited ∧ next.finish? = some finish
  | .cancelled => next.status = .cancelled

namespace Room

/-- The stats update of a finished room names the other player of the winner as the loser. -/
theorem finish?_of_winner {r : Room} {winner loser : UserId} (hstatus : r.status = .finished)
    (hwinner : r.winner = some winner) (hloser : r.opponentOf? winner = some loser) :
    r.finish? = some (.win winner loser) := by
  cases hopponent : r.opponent with
  | none => simp [opponentOf?, hopponent] at hloser
  | some rival =>
    rcases (opponentOf?_eq_some_iff hopponent).mp hloser with ⟨hw, hl⟩ | ⟨hne, -, hl⟩
    · simp [finish?, hstatus, hopponent, hwinner, hw, hl]
    · simp [finish?, hstatus, hopponent, hwinner, hne, hl]

/-- A new line is the mover's, and the other player has none. -/
theorem line_of_set {r : Room} {rival user : UserId} {c : Cell} {m n : Marker} (hplay : r.InPlay rival)
    (hmarker : r.markerOf? user = some m) (hwinner : (r.board.set c (some m)).winner? = some n) :
    ∃ user' m', some user = some user' ∧ r.markerOf? user' = some m' ∧
      (r.board.set c (some m)).HasLine m' ∧ ∀ k, k ≠ m' → ¬ (r.board.set c (some m)).HasLine k := by
  have hlineless := hplay.undecided.lineless
  have hline := Board.hasLine_of_winner? _ _ hwinner
  obtain rfl := Board.eq_of_hasLine_set _ _ _ _ hlineless hline
  exact ⟨user, n, rfl, hmarker, hline,
    fun k hk hother => hk (Board.eq_of_hasLine_set _ _ _ _ hlineless hother)⟩

/-- A legal move keeps a room lawful, and its outcome tells how the room counts. -/
theorem Lawful.afterMove {r : Room} (h : r.Lawful) {user other : UserId} {move : Move} {m : Marker}
    {c : Cell} (hlegal : r.LegalMove user move m other c) :
    (r.afterMove user other c m).1.Lawful ∧
      (Answer.moved (r.afterMove user other c m).2).Fits (r.afterMove user other c m).1 := by
  obtain ⟨rival, hplay⟩ := h.inPlay hlegal.active
  have hcount := Board.count_set_free r.board c m
  unfold Room.afterMove
  dsimp only
  cases houtcome : (r.board.set c (some m)).outcome with
  | inProgress =>
    refine ⟨?_, hlegal.active, by simp [finish?, hlegal.active], by simp [turn?, hlegal.active]⟩
    have hturn : (r.board.set c (some m)).count .x = (r.board.set c (some m)).count .o ∧
          some other = some r.creator ∨
        (r.board.set c (some m)).count .x = (r.board.set c (some m)).count .o + 1 ∧
          some other = some rival := by
      rw [hcount _ hlegal.free, hcount _ hlegal.free]
      rcases hlegal.players hplay with ⟨-, rfl, rfl, hcounts⟩ | ⟨-, rfl, rfl, hcounts⟩
      · exact .inr ⟨by simp [hcounts], rfl⟩
      · exact .inl ⟨by simp [hcounts], rfl⟩
    have hnext : ({ r with board := r.board.set c (some m), nextTurn := some other } : Room).InPlay rival :=
      ⟨hplay.opponent, hplay.distinct, hplay.winner, hplay.isDraw, (Board.outcome_eq_inProgress_iff _).mp houtcome,
        hturn⟩
    simpa only [Lawful, hlegal.active] using Exists.intro rival hnext
  | won n =>
    have hwinner := (Board.outcome_eq_won_iff _ _).mp houtcome
    have hwon : ({ r with
        board := r.board.set c (some m), status := .finished, winner := some user } : Room).WonByLine :=
      ⟨hplay.isDraw, line_of_set hplay hlegal.marker hwinner⟩
    exact ⟨⟨rival, hplay.opponent, hplay.distinct, .inl hwon⟩, rfl, hwon,
      finish?_of_winner rfl rfl hlegal.other⟩
  | draw =>
    obtain ⟨hlineless, hfull⟩ := (Board.outcome_eq_draw_iff _).mp houtcome
    have hdrawn : ({ r with
        board := r.board.set c (some m), status := .finished, isDraw := true } : Room).Drawn :=
      ⟨rfl, hplay.winner, hfull, hlineless⟩
    exact ⟨⟨rival, hplay.opponent, hplay.distinct, .inr (.inl hdrawn)⟩, rfl, hdrawn, rival, hplay.opponent,
      by simp [finish?, hplay.opponent, hplay.winner]⟩

/-- A forfeit keeps a room lawful, and its answer tells how the room counts. -/
theorem Lawful.wonBy {r : Room} (h : r.Lawful) {absent winner : UserId} (hstatus : r.status = .active)
    (hother : r.opponentOf? absent = some winner) :
    (r.wonBy winner).Lawful ∧ (Answer.forfeited (.win winner absent)).Fits (r.wonBy winner) := by
  obtain ⟨rival, hplay⟩ := h.inPlay hstatus
  have hloser : (r.wonBy winner).opponentOf? winner = some absent := by
    rw [opponentOf?_eq_some_iff (r := r.wonBy winner) hplay.opponent]
    rcases (opponentOf?_eq_some_iff hplay.opponent).mp hother with ⟨rfl, rfl⟩ | ⟨-, rfl, rfl⟩
    · exact .inr ⟨hplay.distinct, rfl, rfl⟩
    · exact .inl ⟨rfl, rfl⟩
  have hparticipant : (r.wonBy winner).isParticipant winner = true := by
    rcases (opponentOf?_eq_some_iff hplay.opponent).mp hother with ⟨-, rfl⟩ | ⟨-, -, rfl⟩
    · simp [isParticipant, Room.wonBy, hplay.opponent]
    · simp [isParticipant, Room.wonBy]
  have hforfeited : (r.wonBy winner).Forfeited := ⟨hplay.isDraw, ⟨winner, rfl, hparticipant⟩, hplay.undecided⟩
  exact ⟨⟨rival, hplay.opponent, hplay.distinct, .inr (.inr hforfeited)⟩, rfl, hforfeited,
    finish?_of_winner rfl rfl hloser⟩

/-- What a call does to a lawful room: it fails and changes nothing, or the status goes one way on. -/
theorem Lawful.call {r : Room} (h : r.Lawful) (c : Call) :
    (r.call c).1.Lawful ∧ (r.call c).1.creator = r.creator ∧
      ((∃ f, r.call c = (r, .error f)) ∨
        ∃ answer, (r.call c).2 = .ok answer ∧ answer.Fits (r.call c).1 ∧
          ((r.call c).1.status = r.status ∨ r.status.canBecome (r.call c).1.status = true)) := by
  cases c with
  | join user =>
    rcases r.join_cases user with ⟨hstatus, hcreator, hjoin⟩ | ⟨f, hjoin⟩
    · simp only [Room.call, hjoin]
      exact ⟨h.joinedBy hstatus hcreator, rfl, .inr ⟨.joined, rfl, rfl, .inr (by rw [hstatus]; rfl)⟩⟩
    · simp only [Room.call, hjoin]
      exact ⟨h, trivial, .inl ⟨f, rfl⟩⟩
  | move user move =>
    rcases r.applyMove_cases user move with ⟨m, other, cell, hlegal, hmove⟩ | ⟨f, hmove⟩
    · simp only [Room.call, hmove]
      obtain ⟨hlawful, hfits⟩ := h.afterMove hlegal
      obtain ⟨-, -, hcreator, -, -, hstatus⟩ := r.afterMove_frame user other cell m
      refine ⟨hlawful, hcreator, .inr ⟨_, rfl, hfits, hstatus.imp_right fun hfinished => ?_⟩⟩
      rw [hlegal.active, hfinished]
      rfl
    · simp only [Room.call, hmove]
      exact ⟨h, trivial, .inl ⟨f, rfl⟩⟩
  | forfeit absent =>
    rcases r.forfeit_cases absent with ⟨winner, hstatus, hother, hforfeit⟩ | ⟨f, hforfeit⟩
    · simp only [Room.call, hforfeit]
      obtain ⟨hlawful, hfits⟩ := h.wonBy hstatus hother
      exact ⟨hlawful, rfl, .inr ⟨_, rfl, hfits, .inr (by rw [hstatus]; rfl)⟩⟩
    · simp only [Room.call, hforfeit]
      exact ⟨h, trivial, .inl ⟨f, rfl⟩⟩
  | cancel =>
    rcases r.cancel_cases with ⟨hstatus, hcancel⟩ | ⟨f, hcancel⟩
    · simp only [Room.call, hcancel]
      obtain ⟨hopponent, hwinner, hdraw, hboard, hturn⟩ := h.vacant hstatus
      exact ⟨⟨hopponent, hwinner, hdraw, hboard, hturn⟩, trivial,
        .inr ⟨.cancelled, rfl, rfl, .inr (by rw [hstatus]; rfl)⟩⟩
    · simp only [Room.call, hcancel]
      exact ⟨h, trivial, .inl ⟨f, rfl⟩⟩

/-- A room is lawful after any calls, whether they succeed or fail. -/
theorem lawful_play {r : Room} (h : r.Lawful) (calls : List Call) :
    (r.play calls).Lawful ∧ (r.play calls).creator = r.creator := by
  induction calls generalizing r with
  | nil => exact ⟨h, rfl⟩
  | cons c rest ih =>
    obtain ⟨hlawful, hcreator, -⟩ := h.call c
    obtain ⟨hrest, hsame⟩ := ih hlawful
    exact ⟨hrest, hsame.trans hcreator⟩

/-- The last call is made on the room that the calls before it have left. -/
theorem play_snoc (r : Room) (calls : List Call) (c : Call) :
    r.play (calls ++ [c]) = ((r.play calls).call c).1 := by simp [play]

/-- No call changes a finished room. -/
theorem call_finished (r : Room) (c : Call) (hstatus : r.status = .finished) : (r.call c).1 = r := by
  cases c with
  | join user =>
    rcases r.join_cases user with ⟨hpending, -⟩ | ⟨f, hjoin⟩
    · simp [hstatus] at hpending
    · simp only [call, hjoin]
  | move user move =>
    rcases r.applyMove_cases user move with ⟨_, _, _, hlegal, -⟩ | ⟨f, hmove⟩
    · simpa [hstatus] using hlegal.active
    · simp only [call, hmove]
  | forfeit absent =>
    rcases r.forfeit_cases absent with ⟨-, hactive, -⟩ | ⟨f, hforfeit⟩
    · simp [hstatus] at hactive
    · simp only [call, hforfeit]
  | cancel =>
    rcases r.cancel_cases with ⟨hpending, -⟩ | ⟨f, hcancel⟩
    · simp [hstatus] at hpending
    · simp only [call, hcancel]

/-- A call that ends a game is a move that the board decides, or a forfeit that it does not. -/
theorem Lawful.ending {r : Room} (h : r.Lawful) (c : Call) (hbefore : r.status ≠ .finished)
    (hafter : (r.call c).1.status = .finished) :
    r.status = .active ∧
      ((∃ user move, c = .move user move ∧ ((r.call c).1.WonByLine ∨ (r.call c).1.Drawn)) ∨
        ∃ absent, c = .forfeit absent ∧ (r.call c).1.Forfeited) := by
  obtain ⟨-, -, ⟨f, hfail⟩ | ⟨answer, hanswer, hfits, hstatus⟩⟩ := h.call c
  · rw [hfail] at hafter
    exact absurd hafter hbefore
  · have hactive : r.status = .active := by
      rw [hafter] at hstatus
      rcases hstatus with hsame | hcan
      · exact absurd hsame.symm hbefore
      · cases hr : r.status <;> simp [hr, Status.canBecome] at hcan ⊢
    refine ⟨hactive, ?_⟩
    cases c with
    | join user =>
      rcases r.join_cases user with ⟨hpending, -⟩ | ⟨f, hjoin⟩
      · simp [hactive] at hpending
      · simp [Room.call, hjoin, Except.map] at hanswer
    | move user move =>
      cases hmoved : (r.applyMove user move).2 with
      | error f => simp [Room.call, hmoved, Except.map] at hanswer
      | ok outcome =>
        simp only [Room.call, hmoved, Except.map, Except.ok.injEq] at hanswer
        subst hanswer
        refine .inl ⟨user, move, rfl, ?_⟩
        cases outcome with
        | continued turn => simpa [hafter] using hfits.1
        | won winner loser => exact .inl hfits.2.1
        | draw => exact .inr hfits.2.1
    | forfeit absent =>
      cases hleft : (r.forfeit absent).2 with
      | error f => simp [Room.call, hleft, Except.map] at hanswer
      | ok finish =>
        simp only [Room.call, hleft, Except.map, Except.ok.injEq] at hanswer
        subst hanswer
        exact .inr ⟨absent, rfl, hfits.2.1⟩
    | cancel =>
      rcases r.cancel_cases with ⟨hpending, -⟩ | ⟨f, hcancel⟩
      · simp [hactive] at hpending
      · simp [Room.call, hcancel, Except.map] at hanswer

/-- A finished room was ended by one of the calls, and nothing has changed since. -/
theorem ended_by_call {r : Room} (h : r.Lawful) (hstart : r.status ≠ .finished) (calls : List Call)
    (hstatus : (r.play calls).status = .finished) :
    ∃ before c after, calls = before ++ c :: after ∧ (r.play before).status = .active ∧
      r.play (before ++ [c]) = r.play calls ∧
      ((∃ user move, c = .move user move ∧ ((r.play calls).WonByLine ∨ (r.play calls).Drawn)) ∨
        ∃ absent, c = .forfeit absent ∧ (r.play calls).Forfeited) := by
  induction calls using List.reverseRecOn with
  | nil => exact absurd hstatus hstart
  | append_singleton calls c ih =>
    rw [play_snoc] at hstatus ⊢
    by_cases hbefore : (r.play calls).status = .finished
    · obtain ⟨before, d, after, hcalls, hactive, hsame, hending⟩ := ih hbefore
      rw [call_finished _ _ hbefore]
      exact ⟨before, d, after ++ [c], by simp [hcalls], hactive, hsame, hending⟩
    · obtain ⟨hactive, hending⟩ := (lawful_play h calls).1.ending c hbefore hstatus
      exact ⟨calls, c, [], rfl, hactive, play_snoc r calls c, hending⟩

/--
After any calls on a new room, failed ones included: the status says what the players, the turn, the
markers, the lines and the result are like; another call either fails and changes nothing, or answers
what fits the room and the way it counts, and takes the status one way on or leaves it; and a finished
room was ended by a move that completed a line or the board, or by a forfeit of an undecided game.
-/
theorem play_newPending (id : RoomId) (creator : UserId) (gameType : GameType) (calls : List Call) :
    let r := (newPending id creator gameType).play calls
    r.Lawful ∧ r.creator = creator ∧
      (∀ c, (∃ f, r.call c = (r, .error f)) ∨
        ∃ answer, (r.call c).2 = .ok answer ∧ answer.Fits (r.call c).1 ∧
          ((r.call c).1.status = r.status ∨ r.status.canBecome (r.call c).1.status = true)) ∧
      (r.status = .finished → ∃ before c after, calls = before ++ c :: after ∧
        ((newPending id creator gameType).play before).status = .active ∧
        (newPending id creator gameType).play (before ++ [c]) = r ∧
        ((∃ user move, c = .move user move ∧ (r.WonByLine ∨ r.Drawn)) ∨
          ∃ absent, c = .forfeit absent ∧ r.Forfeited)) := by
  have hnew := lawful_newPending id creator gameType
  obtain ⟨hlawful, hcreator⟩ := lawful_play hnew calls
  exact ⟨hlawful, hcreator, fun c => (hlawful.call c).2.2,
    fun hfinished => ended_by_call hnew (by simp [newPending]) calls hfinished⟩

/-- The creator fills the first row, after a rival's move out of turn has failed. -/
def firstRow : List Call :=
  [.join 2, .move 1 { x := 0, y := 0 }, .move 2 { x := 1, y := 0 }, .move 1 { x := 0, y := 1 },
   .move 2 { x := 1, y := 1 }, .move 2 { x := 0, y := 2 }, .move 1 { x := 0, y := 2 }]

/-- The first row ends the game by the move that completes it. -/
theorem firstRow_ended :
    ((newPending 7 1 .ticTacToe).play firstRow).status = .finished ∧
      ∃ before c after, firstRow = before ++ c :: after ∧
        ((newPending 7 1 .ticTacToe).play before).status = .active ∧
        (newPending 7 1 .ticTacToe).play (before ++ [c]) = (newPending 7 1 .ticTacToe).play firstRow ∧
        ((∃ user move, c = .move user move ∧ (((newPending 7 1 .ticTacToe).play firstRow).WonByLine ∨
            ((newPending 7 1 .ticTacToe).play firstRow).Drawn)) ∨
          ∃ absent, c = .forfeit absent ∧ ((newPending 7 1 .ticTacToe).play firstRow).Forfeited) := by
  have hfinished : ((newPending 7 1 .ticTacToe).play firstRow).status = .finished := by decide +kernel
  exact ⟨hfinished, (play_newPending 7 1 .ticTacToe firstRow).2.2.2 hfinished⟩

end Room

end Parlor.Game
