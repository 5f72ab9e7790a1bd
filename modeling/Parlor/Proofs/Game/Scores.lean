import Mathlib.Algebra.GroupWithZero.Nat
import Mathlib.Algebra.Ring.Int.Defs
import Parlor.Proofs.Game.Interleaving

/-!
# Scores and finished games

The scores are kept next to the rooms and changed together with them. Whatever the order in which the
servers write, a row that has ended never changes again, and the score of a player counts the finished
rows: those that the player has won, those that the other player has won, and the draws.

The points are a sum that is kept as a whole number only while it fits. Statistics can be read exactly
as long as it is one.
-/

namespace Parlor.Game

/-! ## What a row counts for -/

namespace StoredRoom

/-- A row of a finished game of a kind. -/
def isFinished (row : StoredRoom) (g : GameType) : Bool := row.status == .finished && row.gameType == g.name

/-- A player sits in a row. -/
def seats (row : StoredRoom) (user : UserId) : Bool :=
  row.creator == user.toInt64 || row.opponent == some user.toInt64

/-- The other player of a row. -/
def rivalOf? (row : StoredRoom) (user : UserId) : Option Int64 :=
  if row.creator = user.toInt64 then row.opponent
  else if row.opponent = some user.toInt64 then some row.creator
  else none

/-- A finished game that a player has won. -/
def wonBy (user : UserId) (g : GameType) (row : StoredRoom) : Bool :=
  row.isFinished g && row.winner == some user.toInt64

/-- A finished game that the other player has won. -/
def lostBy (user : UserId) (g : GameType) (row : StoredRoom) : Bool :=
  row.isFinished g && (row.rivalOf? user).any fun rival => row.winner == some rival

/-- A drawn game of a player. -/
def drawnBy (user : UserId) (g : GameType) (row : StoredRoom) : Bool :=
  row.isFinished g && row.isDraw && row.seats user

/-- A row that is not finished counts for nobody. -/
theorem counts_nothing {row : StoredRoom} (h : row.status ≠ .finished) (user : UserId) (g : GameType) :
    row.wonBy user g = false ∧ row.lostBy user g = false ∧ row.drawnBy user g = false := by
  have hfinished : row.isFinished g = false := by simp [isFinished, h]
  simp [wonBy, lostBy, drawnBy, hfinished]

end StoredRoom

namespace Finish

/-- The two players of a result are not the same. -/
def Fair : Finish → Prop
  | .win winner loser => winner ≠ loser
  | .draw first second => first ≠ second

/-- A result is a win of a player. -/
def isWonBy (user : UserId) : Finish → Bool
  | .win winner _ => winner == user
  | .draw _ _ => false

/-- A result is a loss of a player. -/
def isLostBy (user : UserId) : Finish → Bool
  | .win _ loser => loser == user
  | .draw _ _ => false

/-- A result is a draw of a player. -/
def isDrawnBy (user : UserId) : Finish → Bool
  | .win _ _ => false
  | .draw first second => first == user || second == user

/-- The score of a player after a result was counted. -/
def credit (finish : Finish) (winPoints : Int64) (user : UserId) (s : Score) : Score :=
  if finish.isWonBy user then s.addWin winPoints
  else if finish.isLostBy user then s.addLoss
  else if finish.isDrawnBy user then s.addDraw
  else s

/-- The two players of a result. -/
def players : Finish → List UserId
  | .win winner loser => [winner, loser]
  | .draw first second => [first, second]

/-- The score of a player after a result was counted, once for each seat that the player has in it. -/
def counted (winPoints : Int64) (user : UserId) (finish : Finish) (s : Score) : Score :=
  match finish with
  | .win winner loser =>
    let s := if winner = user then s.addWin winPoints else s
    if loser = user then s.addLoss else s
  | .draw first second =>
    let s := if first = user then s.addDraw else s
    if second = user then s.addDraw else s

/-- A result counts nothing for those who have not played. -/
theorem counted_of_not_mem {finish : Finish} {user : UserId} (h : user ∉ finish.players) (winPoints : Int64)
    (s : Score) : finish.counted winPoints user s = s := by
  cases finish <;> simp_all [players, counted, eq_comm (a := user)]

/-- A result between two players is counted once for each of them. -/
theorem credit_eq_counted {finish : Finish} (hfair : finish.Fair) (winPoints : Int64) (user : UserId) (s : Score) :
    finish.credit winPoints user s = finish.counted winPoints user s := by
  cases finish with
  | win winner loser =>
    have hne : winner ≠ loser := hfair
    by_cases hwinner : winner = user
    · subst hwinner
      simp [credit, counted, isWonBy, hne.symm]
    · by_cases hloser : loser = user <;> simp [credit, counted, isWonBy, isLostBy, isDrawnBy, hwinner, hloser]
  | draw first second =>
    have hne : first ≠ second := hfair
    by_cases hfirst : first = user
    · subst hfirst
      simp [credit, counted, isWonBy, isLostBy, isDrawnBy, hne.symm]
    · by_cases hsecond : second = user <;>
        simp [credit, counted, isWonBy, isLostBy, isDrawnBy, hfirst, hsecond]

end Finish

/-- A word equals another exactly if their signed words do. -/
theorem toInt64_inj {a b : UInt64} : a.toInt64 = b.toInt64 ↔ a = b := ⟨toInt64_injective, fun h => h ▸ rfl⟩

/-- Comparing signed words compares the words. -/
theorem toInt64_beq (a b : UInt64) : (a.toInt64 == b.toInt64) = (a == b) := by
  rw [Bool.eq_iff_iff, beq_iff_eq, beq_iff_eq, toInt64_inj]

/-- The other player of the row of a room with two players. -/
theorem StoredRoom.rivalOf?_eq {row : StoredRoom} {r : Room} (h : row.Holds r) {rival : UserId}
    (hopponent : r.opponent = some rival) (user : UserId) :
    row.rivalOf? user =
      if r.creator = user then some rival.toInt64
      else if rival = user then some r.creator.toInt64
      else none := by
  simp only [StoredRoom.rivalOf?, h.creator, h.opponent, hopponent, Option.map_some, Option.some.injEq, toInt64_inj]

/-- The row of a finished room is one of a finished game of its kind. -/
theorem StoredRoom.isFinished_eq {row : StoredRoom} {r : Room} (h : row.Holds r) (hstatus : r.status = .finished)
    (g : GameType) : row.isFinished g = decide (g = r.gameType) := by
  cases g
  cases hgame : r.gameType
  simp [isFinished, h.status, hstatus, h.gameType, hgame]

namespace Room

/-- The winner of a game that has ended is one of the two players. -/
theorem Ended.winner_player {r : Room} {rival winner : UserId} (h : r.Ended rival) (hwinner : r.winner = some winner) :
    winner = r.creator ∨ winner = rival := by
  rcases h.result with ⟨-, user, m, huser, hmarker, -, -⟩ | ⟨-, hnone, -, -⟩ | ⟨-, ⟨user, huser, hpart⟩, -⟩
  · obtain rfl : user = winner := by simpa [huser] using hwinner
    by_cases hcreator : user = r.creator
    · exact .inl hcreator
    · refine .inr (Classical.byContradiction fun hne => ?_)
      simp [markerOf?, hcreator, h.opponent, Ne.symm hne] at hmarker
  · rw [hnone] at hwinner
    contradiction
  · obtain rfl : user = winner := by simpa [huser] using hwinner
    rw [isParticipant, h.opponent] at hpart
    rcases Bool.or_eq_true _ _ |>.mp hpart with hcreator | hrival
    · exact .inl (eq_of_beq hcreator).symm
    · exact .inr (Option.some.inj (eq_of_beq hrival)).symm

/-- A game that has ended is drawn exactly if nobody has won it. -/
theorem Ended.isDraw_eq {r : Room} {rival : UserId} (h : r.Ended rival) : r.isDraw = r.winner.isNone := by
  rcases h.result with hline | hdrawn | hforfeited
  · obtain ⟨user, -, huser, -⟩ := hline.line
    rw [hline.isDraw, huser]
    rfl
  · rw [hdrawn.isDraw, hdrawn.winner]
    rfl
  · obtain ⟨user, huser, -⟩ := hforfeited.winner
    rw [hforfeited.isDraw, huser]
    rfl

/-- The player who has not won a game that has ended has lost it. -/
theorem Ended.lost_eq {r : Room} {rival winner : UserId} (h : r.Ended rival) (hwinner : r.winner = some winner)
    {row : StoredRoom} (hrow : row.Holds r) (user : UserId) :
    ((row.rivalOf? user).any fun other => some winner.toInt64 == some other) =
      ((if winner = r.creator then rival else r.creator) == user) := by
  rw [StoredRoom.rivalOf?_eq hrow h.opponent]
  rcases h.winner_player hwinner with rfl | rfl
  · by_cases hcreator : r.creator = user
    · have hne : rival ≠ user := hcreator ▸ h.distinct
      simp [hcreator, toInt64_beq, hne, hne.symm]
    · by_cases hrival : rival = user <;> simp [hcreator, hrival]
  · by_cases hcreator : r.creator = user
    · simp [hcreator]
    · by_cases hrival : winner = user
      · subst hrival
        simp [hcreator, h.distinct, toInt64_beq]
      · simp [hcreator, hrival, h.distinct]

/-- A finished room has a result between its two players, and its row counts for them as the result does. -/
theorem Lawful.result {r : Room} (h : r.Lawful) (hstatus : r.status = .finished) {row : StoredRoom}
    (hrow : row.Holds r) :
    ∃ finish, r.finish? = some finish ∧ finish.Fair ∧ ∀ user g,
      row.wonBy user g = (decide (g = r.gameType) && finish.isWonBy user) ∧
        row.lostBy user g = (decide (g = r.gameType) && finish.isLostBy user) ∧
        row.drawnBy user g = (decide (g = r.gameType) && finish.isDrawnBy user) := by
  obtain ⟨rival, hended⟩ := h.ended hstatus
  have hfinished := StoredRoom.isFinished_eq hrow hstatus
  have hdraw := hended.isDraw_eq
  cases hwinner : r.winner with
  | some winner =>
    rw [hwinner] at hdraw
    refine ⟨.win winner (if winner = r.creator then rival else r.creator), ?_, ?_, fun user g => ⟨?_, ?_, ?_⟩⟩
    · simp [finish?, hstatus, hended.opponent, hwinner]
    · rcases hended.winner_player hwinner with rfl | rfl
      · simpa [Finish.Fair] using hended.distinct.symm
      · simp [Finish.Fair, hended.distinct]
    · rw [StoredRoom.wonBy, hfinished, hrow.winner, hwinner]
      exact congrArg _ (toInt64_beq winner user)
    · rw [StoredRoom.lostBy, hfinished, hrow.winner, hwinner]
      exact congrArg _ (hended.lost_eq hwinner hrow user)
    · simp [StoredRoom.drawnBy, hrow.isDraw, hdraw, Finish.isDrawnBy]
  | none =>
    rw [hwinner] at hdraw
    refine ⟨.draw r.creator rival, ?_, hended.distinct.symm, fun user g => ⟨?_, ?_, ?_⟩⟩
    · simp [finish?, hstatus, hended.opponent, hwinner, hdraw]
    · simp [StoredRoom.wonBy, hrow.winner, hwinner, Finish.isWonBy]
    · simp [StoredRoom.lostBy, hrow.winner, hwinner, Finish.isLostBy]
    · rw [StoredRoom.drawnBy, StoredRoom.seats, hfinished, hrow.isDraw, hdraw, hrow.creator, hrow.opponent,
        hended.opponent, Finish.isDrawnBy, toInt64_beq, Option.isNone_none, Bool.and_true]
      exact congrArg _ (congrArg _ (toInt64_beq rival user))

end Room

/-! ## Counting a result -/

namespace Store

/-- Under what a score is kept. -/
def scoreKey (user : UserId) (g : GameType) : Int64 × String := (user.toInt64, g.name)

/-- Different players and kinds of games have different keys. -/
theorem scoreKey_injective {user user' : UserId} {g g' : GameType} (h : scoreKey user g = scoreKey user' g') :
    user = user' ∧ g = g' := by
  refine ⟨toInt64_injective (congrArg Prod.fst h), ?_⟩
  cases g
  cases g'
  rfl

/-- The score of a player of one kind of game, all zero before the first game. -/
def scoreIn (scores : Table (Int64 × String) Score) (user : UserId) (g : GameType) : Score :=
  (scores.get? (scoreKey user g)).getD {}

/-- The score of a player in a store. -/
def scoreOf (s : Store) (user : UserId) (g : GameType) : Score := scoreIn s.scores user g

/-- Changing the score of a player changes no other one. -/
theorem scoreIn_insert (scores : Table (Int64 × String) Score) (user user' : UserId) (g g' : GameType)
    (score : Score) :
    scoreIn (scores.insert (scoreKey user g) score) user' g' =
      if user = user' ∧ g = g' then score else scoreIn scores user' g' := by
  rw [scoreIn, Table.get?_insert, scoreIn]
  by_cases h : user = user' ∧ g = g'
  · rw [if_pos h, if_pos (by rw [h.1, h.2])]
    rfl
  · rw [if_neg h, if_neg fun hkey => h (scoreKey_injective hkey)]

/-- Changing the score of a player changes what is kept under the key of that player, and nothing else. -/
theorem get?_insert_scoreKey (scores : Table (Int64 × String) Score) (user user' : UserId) (g : GameType)
    (score : Score) :
    (scores.insert (scoreKey user g) score).get? (scoreKey user' g) =
      if user = user' then some score else scores.get? (scoreKey user' g) := by
  rw [Table.get?_insert]
  exact if_congr ⟨fun h => (scoreKey_injective h).1, fun h => h ▸ rfl⟩ rfl rfl

/-- Counting a result changes what is kept for its players. -/
theorem get?_countIn_scoreKey (scores : Table (Int64 × String) Score) (g : GameType) (finish : Finish)
    (winPoints : Int64) (user : UserId) :
    (countIn scores g finish winPoints).get? (scoreKey user g) =
      if user ∈ finish.players then some (finish.counted winPoints user (scoreIn scores user g))
      else scores.get? (scoreKey user g) := by
  cases finish with
  | win winner loser =>
    have hcount : countIn scores g (.win winner loser) winPoints =
        (scores.insert (scoreKey winner g) ((scoreIn scores winner g).addWin winPoints)).insert (scoreKey loser g)
          (scoreIn (scores.insert (scoreKey winner g) ((scoreIn scores winner g).addWin winPoints)) loser g).addLoss :=
      rfl
    rw [hcount, get?_insert_scoreKey, get?_insert_scoreKey, scoreIn_insert]
    by_cases hwinner : winner = user <;> by_cases hloser : loser = user <;>
      simp [Finish.players, Finish.counted, hwinner, hloser, eq_comm (a := user)]
  | draw first second =>
    have hcount : countIn scores g (.draw first second) winPoints =
        (scores.insert (scoreKey first g) (scoreIn scores first g).addDraw).insert (scoreKey second g)
          (scoreIn (scores.insert (scoreKey first g) (scoreIn scores first g).addDraw) second g).addDraw := rfl
    rw [hcount, get?_insert_scoreKey, get?_insert_scoreKey, scoreIn_insert]
    by_cases hfirst : first = user <;> by_cases hsecond : second = user <;>
      simp [Finish.players, Finish.counted, hfirst, hsecond, eq_comm (a := user)]

/-- Counting a result credits it to its players. -/
theorem scoreIn_countIn (scores : Table (Int64 × String) Score) {g : GameType} {finish : Finish}
    (hfair : finish.Fair) (winPoints : Int64) (user : UserId) (g' : GameType) :
    scoreIn (countIn scores g finish winPoints) user g' =
      if g' = g then finish.credit winPoints user (scoreIn scores user g') else scoreIn scores user g' := by
  -- there is one kind of game only
  obtain rfl : g' = g := by
    cases g
    cases g'
    rfl
  rw [if_pos rfl, Finish.credit_eq_counted hfair, scoreIn, get?_countIn_scoreKey]
  by_cases hplayer : user ∈ finish.players
  · rw [if_pos hplayer, Option.getD_some]
  · rw [if_neg hplayer, Finish.counted_of_not_mem hplayer, scoreIn]

end Store

/-- What a result adds to the score of a player. -/
theorem Finish.credit_counts {finish : Finish} (hfair : finish.Fair) (winPoints : Int64) (user : UserId)
    (s : Score) :
    (finish.credit winPoints user s).wins = s.wins + (finish.isWonBy user).toNat ∧
      (finish.credit winPoints user s).losses = s.losses + (finish.isLostBy user).toNat ∧
      (finish.credit winPoints user s).draws = s.draws + (finish.isDrawnBy user).toNat ∧
      (finish.credit winPoints user s).games = s.games + (finish.isWonBy user).toNat +
        (finish.isLostBy user).toNat + (finish.isDrawnBy user).toNat := by
  unfold Finish.credit
  cases hw : finish.isWonBy user with
  | true =>
    have hl : finish.isLostBy user = false := by
      cases finish with
      | win winner loser =>
        have hne : loser ≠ winner := Ne.symm hfair
        have heq : winner = user := by simpa [isWonBy] using hw
        simpa [isLostBy, ← heq] using hne
      | draw => rfl
    have hd : finish.isDrawnBy user = false := by
      cases finish with
      | win => rfl
      | draw => simp [isWonBy] at hw
    simp [Score.addWin, hl, hd]
  | false =>
    cases hl : finish.isLostBy user with
    | true =>
      have hd : finish.isDrawnBy user = false := by
        cases finish with
        | win => rfl
        | draw => simp [isLostBy] at hl
      simp [Score.addLoss, hd]
    | false => cases hd : finish.isDrawnBy user <;> simp [Score.addDraw]

/-- Counting a result adds to each number of a score what the result is for the player. -/
theorem Store.number_countIn (scores : Table (Int64 × String) Score) {g : GameType} {finish : Finish}
    (hfair : finish.Fair) (winPoints : Int64) {number : Score → Int} {holds : UserId → Bool}
    (hcredit : ∀ user s, number (finish.credit winPoints user s) = number s + (holds user).toNat)
    (user : UserId) (g' : GameType) :
    number (scoreIn (countIn scores g finish winPoints) user g') =
      number (scoreIn scores user g') + (decide (g' = g) && holds user).toNat := by
  rw [scoreIn_countIn scores hfair]
  by_cases hg : g' = g
  · rw [if_pos hg, hcredit, decide_eq_true hg, Bool.true_and]
  · rw [if_neg hg, decide_eq_false hg, Bool.false_and, Bool.toNat_false, Int.natCast_zero, Int.add_zero]

namespace Traffic

/-! ## Every finished game once -/

/-- The scores count the finished rows. -/
structure Tallied (s : Store) : Prop where
  wins : ∀ user g, (s.scoreOf user g).wins = s.rooms.countP (StoredRoom.wonBy user g)
  losses : ∀ user g, (s.scoreOf user g).losses = s.rooms.countP (StoredRoom.lostBy user g)
  draws : ∀ user g, (s.scoreOf user g).draws = s.rooms.countP (StoredRoom.drawnBy user g)
  games : ∀ user g, (s.scoreOf user g).games =
    (s.scoreOf user g).wins + (s.scoreOf user g).losses + (s.scoreOf user g).draws

/--
What an accepted write counts: nothing, or the result that its row has from now on, for the two different
players of the room.
-/
theorem Sound.landed_scores {t : Traffic} (h : t.Sound) {f : Flight} (hf : f ∈ t.flights) {row : StoredRoom}
    (hrow : t.store.row? f.write.room.id = some row) (hadmits : f.write.Admits row) :
    ((f.write.change t.store.clock row).status ≠ .finished ∧
        (f.write.landed t.store f.winPoints).scores = t.store.scores) ∨
      ∃ finish, finish.Fair ∧
        (∀ user g, (f.write.change t.store.clock row).wonBy user g =
            (decide (g = f.write.room.gameType) && finish.isWonBy user) ∧
          (f.write.change t.store.clock row).lostBy user g =
            (decide (g = f.write.room.gameType) && finish.isLostBy user) ∧
          (f.write.change t.store.clock row).drawnBy user g =
            (decide (g = f.write.room.gameType) && finish.isDrawnBy user)) ∧
        (f.write.landed t.store f.winPoints).scores =
          Store.countIn t.store.scores f.write.room.gameType finish f.winPoints := by
  obtain ⟨-, hleads, hlawful, r, hr, hlawful', hprecedes⟩ := h.flight hf hrow
  obtain ⟨hholds, -⟩ := hleads.lands hlawful hprecedes hlawful' hr hadmits t.store.clock
  have hresult := hleads.result?_eq hlawful
  by_cases hfinished : f.write.room.status = .finished
  · obtain ⟨finish, hfinish, hfair, hcounts⟩ := (hleads.lawful hlawful).1.result hfinished hholds
    refine .inr ⟨finish, hfair, hcounts, ?_⟩
    rw [Write.landed, Write.scores, hresult, hfinish]
  · refine .inl ⟨by rwa [hholds.status], ?_⟩
    have hnone : f.write.room.finish? = none := by simp [Room.finish?, hfinished]
    rw [Write.landed, Write.scores, hresult, hnone]

/-- An accepted write keeps the scores equal to what the finished rows count for. -/
theorem Tallied.landed {t : Traffic} (hsound : t.Sound) (h : Tallied t.store) {f : Flight} (hf : f ∈ t.flights)
    {row : StoredRoom} (hrow : t.store.row? f.write.room.id = some row) (hadmits : f.write.Admits row) :
    Tallied (f.write.landed t.store f.winPoints) := by
  have hlive : row.status ≠ .finished := by
    rcases hadmits.live with hpending | hactive
    · simp [hpending]
    · simp [hactive]
  have hbefore := StoredRoom.counts_nothing hlive
  have hcount {p : StoredRoom → Bool} (hp : p row = false) :
      (f.write.landed t.store f.winPoints).rooms.countP p =
        t.store.rooms.countP p + (p (f.write.change t.store.clock row)).toNat :=
    Store.countP_rewrite hsound.numbered.nodup hrow hp _
  rcases hsound.landed_scores hf hrow hadmits with ⟨hstatus, hscores⟩ | ⟨finish, hfair, hcounts, hscores⟩
  · have hafter := StoredRoom.counts_nothing hstatus
    have hsame (user : UserId) (g : GameType) :
        (f.write.landed t.store f.winPoints).scoreOf user g = t.store.scoreOf user g := by
      rw [Store.scoreOf, hscores, Store.scoreOf]
    refine ⟨fun user g => ?_, fun user g => ?_, fun user g => ?_, fun user g => ?_⟩
    · rw [hsame, hcount (hbefore user g).1, (hafter user g).1, h.wins]
      rfl
    · rw [hsame, hcount (hbefore user g).2.1, (hafter user g).2.1, h.losses]
      rfl
    · rw [hsame, hcount (hbefore user g).2.2, (hafter user g).2.2, h.draws]
      rfl
    · rw [hsame, h.games]
  · have hcredit := fun user s => finish.credit_counts hfair f.winPoints user s
    have hnumber (number : Score → Int) {holds : UserId → Bool}
        (hone : ∀ user s, number (finish.credit f.winPoints user s) = number s + (holds user).toNat)
        (user : UserId) (g : GameType) : number ((f.write.landed t.store f.winPoints).scoreOf user g) =
          number (t.store.scoreOf user g) + (decide (g = f.write.room.gameType) && holds user).toNat := by
      rw [Store.scoreOf, hscores]
      exact Store.number_countIn t.store.scores hfair f.winPoints hone user g
    refine ⟨fun user g => ?_, fun user g => ?_, fun user g => ?_, fun user g => ?_⟩
    · rw [hnumber Score.wins (fun user s => (hcredit user s).1), hcount (hbefore user g).1,
        (hcounts user g).1, h.wins, Int.natCast_add]
    · rw [hnumber Score.losses (fun user s => (hcredit user s).2.1), hcount (hbefore user g).2.1,
        (hcounts user g).2.1, h.losses, Int.natCast_add]
    · rw [hnumber Score.draws (fun user s => (hcredit user s).2.2.1), hcount (hbefore user g).2.2,
        (hcounts user g).2.2, h.draws, Int.natCast_add]
    · have hgames := h.games user g
      rw [Store.scoreOf, hscores, Store.scoreIn_countIn _ hfair]
      split
      · obtain ⟨hwins, hlosses, hdraws, hall⟩ := hcredit user (t.store.scoreOf user g)
        rw [Store.scoreOf] at hwins hlosses hdraws hall hgames
        omega
      · exact hgames

/-- The tally depends on the rows and the scores. -/
theorem Tallied.congr {s s' : Store} (h : Tallied s) (hrooms : s'.rooms = s.rooms)
    (hscores : s'.scores = s.scores) :
    Tallied s' := by
  have hscore (user : UserId) (g : GameType) : s'.scoreOf user g = s.scoreOf user g := by
    rw [Store.scoreOf, hscores, Store.scoreOf]
  exact ⟨fun user g => by rw [hscore, hrooms, h.wins], fun user g => by rw [hscore, hrooms, h.losses],
    fun user g => by rw [hscore, hrooms, h.draws], fun user g => by rw [hscore, h.games]⟩

/-- Every step keeps the scores equal to what the finished rows count for. -/
theorem Tallied.step {t : Traffic} (hsound : t.Sound) (h : Tallied t.store) (e : Step) :
    Tallied (t.step e).store := by
  cases hsound.step_cases e with
  | idle hrooms hmoves hscores hflights hrefused => exact h.congr hrooms hscores
  | created creator gameType row hstep hfits hholds hstore hflights =>
    have hwaiting : row.status ≠ .finished := by simp [hholds.status, Room.newPending]
    have hnothing := StoredRoom.counts_nothing hwaiting
    have hcount {p : StoredRoom → Bool} (hp : p row = false) :
        (t.store.rooms ++ [row]).countP p = t.store.rooms.countP p := by
      rw [List.countP_append, List.countP_singleton, hp]
      rfl
    rw [hstore]
    exact ⟨fun user g => (h.wins user g).trans (congrArg Int.ofNat (hcount (hnothing user g).1).symm),
      fun user g => (h.losses user g).trans (congrArg Int.ofNat (hcount (hnothing user g).2.1).symm),
      fun user g => (h.draws user g).trans (congrArg Int.ofNat (hcount (hnothing user g).2.2).symm), h.games⟩
  | sent f hstep hkeeps hstore hflights => exact hstore ▸ h
  | landed place f row hstep hflight hrow hadmits haccepted hstore hflights =>
    exact hstore ▸ h.landed hsound (List.mem_of_getElem? hflight) hrow hadmits

/-- The scores count the finished rows after any steps. -/
theorem Tallied.run {t : Traffic} (hsound : t.Sound) (h : Tallied t.store) (steps : List Step) :
    Tallied (t.run steps).store := by
  induction steps generalizing t with
  | nil => exact h
  | cons e steps ih => exact ih (hsound.step e) (h.step hsound e)

/-- There is nothing to count at the start. -/
theorem tallied_start (clock : String) : Tallied (start clock).store :=
  ⟨fun _ _ => rfl, fun _ _ => rfl, fun _ _ => rfl, fun _ _ => rfl⟩

/-! ## Rows that have ended -/

/-- No step changes a row that has ended. -/
theorem Sound.ended_step {t : Traffic} (h : t.Sound) {id : RoomId} {row : StoredRoom}
    (hrow : t.store.row? id = some row) (hended : row.status.isTerminal = true) (e : Step) :
    (t.step e).store.row? id = some row := by
  cases h.step_cases e with
  | idle hrooms hmoves hscores hflights hrefused => rwa [Store.row?_congr hrooms]
  | created creator gameType row' hstep hfits hholds hstore hflights =>
    rw [hstore, Store.row?_append h.numbered hfits hholds.id, if_neg, hrow]
    rintro rfl
    rw [h.numbered.row?_nextId hfits] at hrow
    contradiction
  | sent f hstep hkeeps hstore hflights => rwa [hstore]
  | landed place f row' hstep hflight hrow' hadmits haccepted hstore hflights =>
    rw [hstore, Write.row?_landed, hrow, Option.map_some, if_neg]
    rintro rfl
    obtain rfl : row = row' := Option.some.inj (hrow.symm.trans hrow')
    rcases hadmits.live with hlive | hlive <;> simp [hlive, Status.isTerminal] at hended

/-- No steps change a row that has ended. -/
theorem Sound.ended_run {t : Traffic} (h : t.Sound) {id : RoomId} {row : StoredRoom}
    (hrow : t.store.row? id = some row) (hended : row.status.isTerminal = true) (steps : List Step) :
    (t.run steps).store.row? id = some row := by
  induction steps generalizing t with
  | nil => exact hrow
  | cons e steps ih => exact ih (h.step e) (h.ended_step hrow hended e)

end Traffic

/-! ## Points -/

/-- A sum of points that is kept as a whole number fits a signed word. -/
theorem Points.add_fits {p : Points} {delta : Int64} {n : Int} (h : p.add delta = .whole n) :
    Word.isSigned n = true := by
  have hreal {k : Int} (h : Points.ofReal k = .whole n) : Word.isSigned n = true := by
    unfold Points.ofReal at h
    split at h
    · rename_i hrange
      rw [Points.whole.injEq] at h
      exact decide_eq_true (h ▸ ⟨Int.le_of_lt hrange.1, hrange.2⟩)
    · contradiction
  cases p with
  | whole m =>
    rw [Points.add] at h
    split at h
    · rename_i hfits
      rw [Points.whole.injEq] at h
      exact h ▸ hfits
    · exact hreal h
  | real m => exact hreal h

/-- A product that fits a signed word fits one with a smaller factor. -/
theorem isSigned_mul_of_succ {w k : Int} (hk : 0 ≤ k) (h : Word.isSigned (w * (k + 1)) = true) :
    Word.isSigned (w * k) = true := by
  have hrange : Word.signedLow ≤ w * (k + 1) ∧ w * (k + 1) ≤ Word.signedHigh := of_decide_eq_true h
  rw [Int.mul_add, Int.mul_one, Word.signedLow, Word.signedHigh] at hrange
  refine decide_eq_true ?_
  rw [Word.signedLow, Word.signedHigh]
  rcases Int.le_total 0 w with hw | hw
  · have hnonneg := Int.mul_nonneg hw hk
    omega
  · have hnonpos := Int.mul_nonpos_of_nonpos_of_nonneg hw hk
    omega

/-- Nothing is added to points that fit. -/
theorem Points.add_zero {n : Int} (h : Word.isSigned n = true) : (Points.whole n).add 0 = .whole n := by
  have hzero : n + (0 : Int64).toInt = n := Int.add_zero n
  rw [Points.add, hzero, if_pos h]

/-- The points of a player are the points for a win times the wins, as long as this fits. -/
structure Score.Priced (w : Int64) (s : Score) : Prop where
  wins : 0 ≤ s.wins
  points : Word.isSigned (w.toInt * s.wins) = true → s.points = .whole (w.toInt * s.wins)

/-- Counting a result keeps the points of a player. -/
theorem Score.Priced.credit {w : Int64} {s : Score} (h : s.Priced w) (finish : Finish) (user : UserId) :
    (finish.credit w user s).Priced w := by
  have hnothing (hfits : Word.isSigned (w.toInt * s.wins) = true) : s.points.add 0 = .whole (w.toInt * s.wins) :=
    (congrArg (Points.add 0) (h.points hfits)).trans (Points.add_zero hfits)
  unfold Finish.credit
  split
  · refine ⟨Int.le_add_one h.wins, fun (hfits : Word.isSigned (w.toInt * (s.wins + 1)) = true) => ?_⟩
    have hsum : w.toInt * s.wins + w.toInt = w.toInt * (s.wins + 1) := by rw [Int.mul_add, Int.mul_one]
    change s.points.add w = .whole (w.toInt * (s.wins + 1))
    rw [h.points (isSigned_mul_of_succ h.wins hfits), Points.add, hsum, if_pos hfits]
  · split
    · exact ⟨h.wins, hnothing⟩
    · split
      · exact ⟨h.wins, hnothing⟩
      · exact h

/-- Points that are kept as a whole number fit a signed word. -/
def Score.Readable (s : Score) : Prop := ∀ n, s.points = .whole n → Word.isSigned n = true

/-- Counting a result keeps whole points within a signed word. -/
theorem Score.Readable.credit {s : Score} (h : s.Readable) (finish : Finish) (winPoints : Int64) (user : UserId) :
    (finish.credit winPoints user s).Readable := by
  unfold Finish.credit
  split
  · exact fun n hn => Points.add_fits hn
  · split
    · exact fun n hn => Points.add_fits hn
    · split
      · exact fun n hn => Points.add_fits hn
      · exact h

namespace Traffic

section Credited

variable {P : Score → Prop} {A : Int64 → Prop}

/-- What every counted result keeps of a score, a step keeps of all scores. -/
theorem Sound.scores_step {t : Traffic} (h : t.Sound)
    (hcredit : ∀ winPoints, A winPoints → ∀ finish user s, P s → P (Finish.credit finish winPoints user s))
    (hflights : ∀ f ∈ t.flights, A f.winPoints) (hscores : ∀ user g, P (t.store.scoreOf user g)) (e : Step)
    (user : UserId) (g : GameType) : P ((t.step e).store.scoreOf user g) := by
  cases h.step_cases e with
  | idle hrooms hmoves hsame hflights' hrefused =>
    rw [Store.scoreOf, hsame]
    exact hscores user g
  | created creator gameType row hstep hfits hholds hstore hflights' => exact hstore ▸ hscores user g
  | sent f hstep hkeeps hstore hflights' => exact hstore ▸ hscores user g
  | landed place f row hstep hflight hrow hadmits haccepted hstore hflights' =>
    have hf := List.mem_of_getElem? hflight
    rw [hstore]
    rcases h.landed_scores hf hrow hadmits with ⟨-, hsame⟩ | ⟨finish, hfair, -, hcount⟩
    · rw [Store.scoreOf, hsame]
      exact hscores user g
    · rw [Store.scoreOf, hcount, Store.scoreIn_countIn _ hfair]
      split
      · exact hcredit _ (hflights f hf) finish user _ (hscores user g)
      · exact hscores user g

/-- The points for a win that are on their way are those that the steps have sent off. -/
theorem Sound.flights_step {t : Traffic} (h : t.Sound) (hflights : ∀ f ∈ t.flights, A f.winPoints) {e : Step}
    (he : ∀ id call data winPoints, e = .load id call data winPoints → A winPoints) :
    ∀ f ∈ (t.step e).flights, A f.winPoints := by
  intro f hf
  cases h.step_cases e with
  | idle hrooms hmoves hsame hflights' hrefused => exact hflights f (hflights' f hf)
  | created creator gameType row hstep hfits hholds hstore hflights' => exact hflights f (hflights' ▸ hf)
  | sent g hstep hkeeps hstore hflights' =>
    rw [hflights'] at hf
    rcases List.mem_append.mp hf with hf | hf
    · exact hflights f hf
    · rw [List.mem_singleton.mp hf]
      exact he _ _ _ _ hstep
  | landed place g row hstep hflight hrow hadmits haccepted hstore hflights' => exact hflights f (hflights' f hf)

/-- What every counted result keeps of a score holds of all scores after any steps. -/
theorem Sound.scores_run {t : Traffic} (h : t.Sound)
    (hcredit : ∀ winPoints, A winPoints → ∀ finish user s, P s → P (Finish.credit finish winPoints user s))
    (hflights : ∀ f ∈ t.flights, A f.winPoints) (hscores : ∀ user g, P (t.store.scoreOf user g)) (steps : List Step)
    (hsteps : ∀ id call data winPoints, Step.load id call data winPoints ∈ steps → A winPoints) (user : UserId)
    (g : GameType) : P ((t.run steps).store.scoreOf user g) := by
  induction steps generalizing t with
  | nil => exact hscores user g
  | cons e steps ih =>
    refine ih (h.step e) (h.flights_step hflights fun id call data winPoints he => ?_)
      (h.scores_step hcredit hflights hscores e) fun id call data winPoints he => ?_
    · exact hsteps id call data winPoints (he ▸ List.mem_cons_self)
    · exact hsteps id call data winPoints (List.mem_cons_of_mem e he)

end Credited

end Traffic

/-! ## All players -/

/-- All players that there can be. -/
def allUsers : List UserId := (List.range UInt64.size).map UInt64.ofNat

/-- Every player is listed once. -/
theorem count_allUsers (user : UserId) : allUsers.count user = 1 := by
  have hmem : user ∈ allUsers :=
    List.mem_map.mpr ⟨user.toNat, List.mem_range.mpr user.toNat_lt_size, UInt64.ofNat_toNat⟩
  have hnodup : allUsers.Nodup := by
    rw [allUsers, List.Nodup, List.pairwise_map]
    refine List.Pairwise.imp_of_mem ?_ List.nodup_range
    intro m n hm hn hne heq
    have hnat := congrArg UInt64.toNat heq
    rw [UInt64.toNat_ofNat_of_lt' (List.mem_range.mp hm), UInt64.toNat_ofNat_of_lt' (List.mem_range.mp hn)] at hnat
    exact hne hnat
  rw [hnodup.count, if_pos hmem]

/-- What is counted for every player by rows is counted for every row by players. -/
theorem sum_countP_congr (users : List UserId) (rows : List StoredRoom) {p q : UserId → StoredRoom → Bool}
    (h : ∀ row ∈ rows, (users.countP fun user => p user row) = users.countP fun user => q user row) :
    (users.map fun user => rows.countP (p user)).sum = (users.map fun user => rows.countP (q user)).sum := by
  have hsplit (row : StoredRoom) (rows : List StoredRoom) (p : UserId → StoredRoom → Bool) :
      (users.map fun user => (row :: rows).countP (p user)).sum =
        (users.map fun user => rows.countP (p user)).sum + users.countP fun user => p user row := by
    clear h
    induction users with
    | nil => rfl
    | cons user users ih =>
      rw [List.map_cons, List.sum_cons, ih, List.map_cons, List.sum_cons, List.countP_cons, List.countP_cons]
      omega
  induction rows with
  | nil => rfl
  | cons row rows ih =>
    rw [hsplit, hsplit, ih fun row' hrow' => h row' (List.mem_cons_of_mem _ hrow'), h row List.mem_cons_self]

/-- Every row is won by as many players as it is lost by. -/
theorem StoredRoom.countP_won_eq_lost {row : StoredRoom} {r : Room} (hrow : row.Holds r) (hr : r.Lawful)
    (g : GameType) :
    (allUsers.countP fun user => row.wonBy user g) = allUsers.countP fun user => row.lostBy user g := by
  by_cases hstatus : r.status = .finished
  · obtain ⟨finish, -, -, hcounts⟩ := hr.result hstatus hrow
    rw [show (fun user => row.wonBy user g) = _ from funext fun user => (hcounts user g).1,
      show (fun user => row.lostBy user g) = _ from funext fun user => (hcounts user g).2.1]
    generalize decide (g = r.gameType) = here
    cases here with
    | false => rfl
    | true =>
      cases finish with
      | win winner loser =>
        have hone (player : UserId) : (allUsers.countP fun user => true && player == user) = 1 := by
          rw [← count_allUsers player, List.count]
          exact List.countP_congr fun user _ => by rw [Bool.true_and, beq_iff_eq, beq_iff_eq, eq_comm]
        exact (hone winner).trans (hone loser).symm
      | draw => rfl
  · have hrunning : row.status ≠ .finished := by rwa [hrow.status]
    have hnothing := StoredRoom.counts_nothing hrunning
    simp only [fun user => (hnothing user g).1, fun user => (hnothing user g).2.1]

namespace Traffic

/-- The wins of all players are as many as their losses. -/
theorem Sound.sum_wins_eq_losses {t : Traffic} (h : t.Sound) (htally : Tallied t.store) (g : GameType) :
    (allUsers.map fun user => (t.store.scoreOf user g).wins).sum =
      (allUsers.map fun user => (t.store.scoreOf user g).losses).sum := by
  have hcount : (allUsers.map fun user => t.store.rooms.countP (StoredRoom.wonBy user g)).sum =
      (allUsers.map fun user => t.store.rooms.countP (StoredRoom.lostBy user g)).sum := by
    refine sum_countP_congr allUsers t.store.rooms fun row hrow => ?_
    obtain ⟨r, hr, hlawful⟩ := h.rooms _ _ (h.numbered.row?_of_mem hrow)
    exact StoredRoom.countP_won_eq_lost hr hlawful g
  have hsum (count : UserId → Nat) (users : List UserId) :
      (users.map fun user => (count user : Int)).sum = ((users.map count).sum : Nat) := by
    induction users with
    | nil => rfl
    | cons user users ih => rw [List.map_cons, List.sum_cons, ih, List.map_cons, List.sum_cons, Int.natCast_add]
  simp only [htally.wins, htally.losses, hsum, hcount]

end Traffic

/-- What the finished rows say about a player, with a number of points. -/
def Store.statsFromRooms (s : Store) (user : UserId) (g : GameType) (points : Int) : Stats where
  user := user
  gameType := g.name
  wins := s.rooms.countP (StoredRoom.wonBy user g)
  losses := s.rooms.countP (StoredRoom.lostBy user g)
  draws := s.rooms.countP (StoredRoom.drawnBy user g)
  games := s.rooms.countP (StoredRoom.wonBy user g) + s.rooms.countP (StoredRoom.lostBy user g) +
    s.rooms.countP (StoredRoom.drawnBy user g)
  points := points

namespace Traffic

/-- Statistics are what the finished rows say, if the points can be read. -/
theorem Tallied.stats_eq {s : Store} (h : Tallied s) (user : UserId) (g : GameType) :
    s.stats user g = match (s.scoreOf user g).points.read? with
      | some points => .ok (s.statsFromRooms user g points)
      | none => .error { cause := none } := by
  have hstats : s.stats user g = match (s.scoreOf user g).points.read? with
      | some points =>
        .ok { user, gameType := g.name, wins := (s.scoreOf user g).wins, losses := (s.scoreOf user g).losses
              draws := (s.scoreOf user g).draws, games := (s.scoreOf user g).games, points }
      | none => .error { cause := none } := rfl
  rw [hstats, h.games, h.wins, h.losses, h.draws]
  rfl

/-- Statistics are what the finished rows say exactly if the points are a whole number. -/
theorem Tallied.stats_ok_iff {s : Store} (h : Tallied s) (user : UserId) (g : GameType) :
    (∃ points, s.stats user g = .ok (s.statsFromRooms user g points)) ↔
      ∃ n, (s.scoreOf user g).points = .whole n := by
  rw [h.stats_eq]
  cases (s.scoreOf user g).points with
  | whole n => exact ⟨fun _ => ⟨n, rfl⟩, fun _ => ⟨n, rfl⟩⟩
  | real n => simp [Points.read?]

/-- Statistics cannot be read exactly if the points are no whole number. -/
theorem Tallied.stats_error_iff {s : Store} (h : Tallied s) (user : UserId) (g : GameType) :
    (∃ fault, s.stats user g = .error fault) ↔ ∃ n, (s.scoreOf user g).points = .real n := by
  rw [h.stats_eq]
  cases (s.scoreOf user g).points with
  | whole n => simp [Points.read?]
  | real n => simp [Points.read?]

/-- Where all wins are worth the same, the points are those of the wins as long as their number fits. -/
theorem stats_priced_iff (clock : String) {steps : List Step} {w : Int64}
    (hw : ∀ id call data winPoints, Step.load id call data winPoints ∈ steps → winPoints = w) (user : UserId)
    (g : GameType) :
    ((start clock).run steps).store.stats user g = .ok (((start clock).run steps).store.statsFromRooms user g
        (w.toInt * ((start clock).run steps).store.rooms.countP (StoredRoom.wonBy user g))) ↔
      Word.isSigned (w.toInt * ((start clock).run steps).store.rooms.countP (StoredRoom.wonBy user g)) = true := by
  have hstart := sound_start clock
  have htally := (tallied_start clock).run hstart steps
  rw [htally.stats_eq, ← htally.wins]
  constructor
  · intro hstats
    have hreadable : (((start clock).run steps).store.scoreOf user g).Readable :=
      hstart.scores_run (A := fun _ => True) (fun winPoints _ finish user s hs => hs.credit finish winPoints user)
        (fun _ _ => trivial) (fun _ _ n hn => by rw [← Points.whole.inj hn]; rfl) steps
        (fun _ _ _ _ _ => trivial) user g
    cases hpoints : (((start clock).run steps).store.scoreOf user g).points with
    | whole n =>
      simp only [hpoints, Points.read?, Except.ok.injEq, Store.statsFromRooms, Stats.mk.injEq, true_and] at hstats
      exact hstats ▸ hreadable n hpoints
    | real n => simp [hpoints, Points.read?] at hstats
  · intro hfits
    have hpriced : (((start clock).run steps).store.scoreOf user g).Priced w :=
      hstart.scores_run (A := (· = w)) (fun winPoints hwin finish user s hs => hwin ▸ hs.credit finish user)
        (fun f hf => by simp [start] at hf)
        (fun user g => ⟨Int.le_refl 0, fun _ => by rw [show (start clock).store.scoreOf user g = {} from rfl]; simp⟩)
        steps hw user g
    rw [hpriced.points hfits]
    rfl

/--
After any steps of any servers: a row that has ended is never changed again; the statistics of a player are
what the finished rows say exactly as long as the sum of points is kept as a whole number, and cannot be
read otherwise; where all wins are worth the same, they are these and the points are those of the wins
exactly as long as the product fits a signed word; the wins of all players are as many as their losses;
and no two players share a score.
-/
theorem finished_games_counted_once (clock : String) (steps : List Step) :
    let t := (start clock).run steps
    (∀ before after, steps = before ++ after → ∀ id row,
      ((start clock).run before).store.row? id = some row → row.status.isTerminal = true →
      t.store.row? id = some row) ∧
    (∀ user g, (∃ points, t.store.stats user g = .ok (t.store.statsFromRooms user g points)) ↔
      ∃ n, (t.store.scoreOf user g).points = .whole n) ∧
    (∀ user g, (∃ fault, t.store.stats user g = .error fault) ↔
      ∃ n, (t.store.scoreOf user g).points = .real n) ∧
    (∀ w : Int64, (∀ id call data winPoints, Step.load id call data winPoints ∈ steps → winPoints = w) →
      ∀ user g, t.store.stats user g = .ok (t.store.statsFromRooms user g
          (w.toInt * t.store.rooms.countP (StoredRoom.wonBy user g))) ↔
        Word.isSigned (w.toInt * t.store.rooms.countP (StoredRoom.wonBy user g)) = true) ∧
    (∀ g, (allUsers.map fun user => (t.store.scoreOf user g).wins).sum =
      (allUsers.map fun user => (t.store.scoreOf user g).losses).sum) ∧
    ∀ user user' g g', Store.scoreKey user g = Store.scoreKey user' g' → user = user' ∧ g = g' := by
  have hstart := sound_start clock
  have hsound := hstart.run steps
  have htally := (tallied_start clock).run hstart steps
  refine ⟨fun before after hsteps id row hrow hended => ?_, fun user g => ?_, fun user g => ?_,
    fun w hw user g => ?_, hsound.sum_wins_eq_losses htally, fun _ _ _ _ => Store.scoreKey_injective⟩
  · have hrun : (start clock).run steps = ((start clock).run before).run after := by
      rw [hsteps, run, List.foldl_append]
      rfl
    rw [hrun]
    exact (hstart.run before).ended_run hrow hended after
  · exact htally.stats_ok_iff user g
  · exact htally.stats_error_iff user g
  · exact stats_priced_iff clock hw user g

/-- A player wins a game that is worth ten points, and time passes. -/
def oneWin : List Step :=
  [.create 1 .ticTacToe, .load 1 (.join 2) "" 10, .land 0, .load 1 (.forfeit 2) "" 10, .land 0, .tick "later"]

/-- The row of the game that was won stays as it is, and the statistics tell of the win. -/
theorem oneWin_counted :
    (∃ row, ((start "").run (oneWin.take 5)).store.row? 1 = some row ∧ row.status.isTerminal = true ∧
        ((start "").run oneWin).store.row? 1 = some row) ∧
      (∀ id call data winPoints, Step.load id call data winPoints ∈ oneWin → winPoints = 10) ∧
      ((start "").run oneWin).store.stats 1 .ticTacToe =
        .ok { user := 1, gameType := "tictactoe", wins := 1, losses := 0, draws := 0, games := 1, points := 10 } := by
  obtain ⟨hended, -, -, hpriced, -, -⟩ := finished_games_counted_once "" oneWin
  have hprice : ∀ id call data winPoints, Step.load id call data winPoints ∈ oneWin → winPoints = 10 := by
    intro id call data winPoints hstep
    have hloads : id = 1 ∧ call = .join 2 ∧ data = "" ∧ winPoints = 10 ∨
        id = 1 ∧ call = .forfeit 2 ∧ data = "" ∧ winPoints = 10 := by simpa [oneWin] using hstep
    rcases hloads with ⟨-, -, -, hten⟩ | ⟨-, -, -, hten⟩
    · exact hten
    · exact hten
  have hrow : ∃ row, ((start "").run (oneWin.take 5)).store.row? 1 = some row ∧ row.status.isTerminal = true := by
    have hany : (((start "").run (oneWin.take 5)).store.row? 1).any (·.status.isTerminal) = true := by
      decide +kernel
    exact Option.any_eq_true _ _ |>.mp hany
  have hwins : ((start "").run oneWin).store.rooms.countP (StoredRoom.wonBy 1 .ticTacToe) = 1 := by decide +kernel
  obtain ⟨row, hfound, hterminal⟩ := hrow
  refine ⟨⟨row, hfound, hterminal, hended _ _ (List.take_append_drop 5 oneWin).symm 1 row hfound hterminal⟩, hprice, ?_⟩
  rw [(hpriced 10 hprice 1 .ticTacToe).mpr (by rw [hwins]; decide)]
  decide +kernel

/-- A player wins two games that are worth as many points as a signed word can hold. -/
def twoDearWins : List Step :=
  [.create 1 .ticTacToe, .load 1 (.join 2) "" Int64.maxValue, .land 0,
   .load 1 (.forfeit 2) "" Int64.maxValue, .land 0,
   .create 1 .ticTacToe, .load 2 (.join 2) "" Int64.maxValue, .land 0,
   .load 2 (.forfeit 2) "" Int64.maxValue, .land 0]

/-- Both wins are stored and counted, and yet the statistics of the player cannot be read. -/
theorem stats_unreadable_after_dear_wins :
    let t := (start "").run twoDearWins
    t.store.rooms.countP (StoredRoom.wonBy 1 .ticTacToe) = 2 ∧ (t.store.scoreOf 1 .ticTacToe).wins = 2 ∧
      (t.store.stats 1 .ticTacToe).toOption = none := by decide +kernel

end Traffic

end Parlor.Game
