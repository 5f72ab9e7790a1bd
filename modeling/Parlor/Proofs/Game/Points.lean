import Parlor.Config.Load
import Parlor.Proofs.Game.Attempts
import Parlor.Proofs.Game.Rounding

/-!
# Points beyond a signed word

The points for a win may be any signed word. As soon as the points of a player leave the range of signed
words they are kept as a real number, and rounding does not bring them back: whoever wins on gets further
away, and those who lose or draw are given nothing.

So where all wins are worth the same, the statistics of a player can be read exactly as long as the points
for the wins fit a signed word. As there are no more rooms than positive signed words, this is always so
if a win is worth one point, none, or takes one away. A win that is worth anything else can be repeated
until the statistics cannot be read any more.
-/

namespace Parlor

namespace Config

/-! ## Points that can be configured -/

/-- Every signed word is one that a whole number of a source can stand for. -/
theorem toSigned?_toInt (w : Int64) : Node.toSigned? (.integer w.toInt) = some w := by
  have hlow : Word.signedLow ≤ w.toInt := w.minValue_le_toInt
  have hhigh : w.toInt ≤ Word.signedHigh := w.toInt_le
  rw [Node.toSigned?, Node.toInt?, if_pos ⟨hlow, hhigh⟩, Option.map_some, Int64.ofInt_toInt]

/-- Any signed word can be configured as the points for a win. -/
theorem ofSources?_winPoints (w : Int64) :
    ofSources? [defaultEntries, [("game", .group [("win_points", .integer w.toInt)])], []] =
      some { game := { winPoints := w } } := by
  have hpaths : Step.pathOf "logging.level" = [.name "logging", .name "level"] ∧
      Step.pathOf "server.host" = [.name "server", .name "host"] ∧
      Step.pathOf "server.port" = [.name "server", .name "port"] ∧
      Step.pathOf "game" = [.name "game"] := by decide +kernel
  have hsources :
      [defaultEntries, [("game", .group [("win_points", .integer w.toInt)])], []].foldl Node.laySource (.group []) =
        .group
          [("logging", .group [("level", .text "info")]),
           ("server", .group [("host", .text "127.0.0.1"), ("port", .integer 8080)]),
           ("game", .group [("win_points", .integer w.toInt)])] := by
    simp [Node.laySource, defaultEntries, hpaths, Node.changeAt, Node.changeName, Node.entries, Node.find?, Node.put,
      Node.layOver, Node.layEntries, Node.orGroup]
  have hport : Node.toPort? (.integer 8080) = some 8080 := by decide +kernel
  rw [ofSources?, hsources]
  simp [readSection, sectionFields, loggingFields, serverFields, gameFields, Setting.of, Node.find?, Node.toText?,
    hport, toSigned?_toInt]

end Config

namespace Game

/-! ## Points beyond the range -/

namespace Points

/-- Points at or beyond an end of the range of signed words, the upper one for 1 and the lower one for -1. -/
def Beyond (sign : Int) (p : Points) : Prop := ∃ m : Nat, 2 ^ 63 ≤ m ∧ p = .real (sign * m)

variable {sign : Int}

/-- A number is rounded by its magnitude. -/
theorem nearestReal_mul (hsign : sign = 1 ∨ sign = -1) (m : Nat) :
    nearestReal (sign * m) = sign * (roundMagnitude m : Nat) := by
  rcases hsign with rfl | rfl
  · rw [Int.one_mul, Int.one_mul, nearestReal_natCast]
  · rw [Int.neg_one_mul, Int.neg_one_mul, nearestReal_neg, nearestReal_natCast]

/-- A real number at or beyond an end of the range stays one. -/
theorem beyond_ofReal (hsign : sign = 1 ∨ sign = -1) {m : Nat} (h : 2 ^ 63 ≤ m) :
    (ofReal (sign * m)).Beyond sign := by
  refine ⟨m, h, if_neg ?_⟩
  rw [Word.signedLow, Word.signedHigh]
  rcases hsign with rfl | rfl <;> omega

/-- Points beyond the range stay there as long as nothing is added in the other direction. -/
theorem Beyond.add (hsign : sign = 1 ∨ sign = -1) {p : Points} (h : p.Beyond sign) {delta : Int64} {d : Nat}
    (hdelta : delta.toInt = sign * d) : (p.add delta).Beyond sign := by
  obtain ⟨m, hm, rfl⟩ := h
  have hsum : (Points.real (sign * m)).add delta = ofReal (sign * (roundMagnitude (m + roundMagnitude d) : Nat)) := by
    rw [Points.add, hdelta, nearestReal_mul hsign, ← Int.mul_add, ← Int.natCast_add, nearestReal_mul hsign]
  rw [hsum]
  exact beyond_ofReal hsign (pow_le_roundMagnitude (Nat.le_trans hm (Nat.le_add_right _ _)))

/-- A sum that leaves the range is beyond it. -/
theorem beyond_of_overflow (hsign : sign = 1 ∨ sign = -1) {n d : Nat} {delta : Int64}
    (hdelta : delta.toInt = sign * d) (hover : ¬ Word.isSigned (sign * n + delta.toInt) = true) :
    ((Points.whole (sign * n)).add delta).Beyond sign := by
  have hsum : (Points.whole (sign * n)).add delta =
      ofReal (sign * (roundMagnitude (roundMagnitude n + roundMagnitude d) : Nat)) := by
    rw [Points.add, if_neg hover, hdelta, nearestReal_mul hsign, nearestReal_mul hsign, ← Int.mul_add,
      ← Int.natCast_add, nearestReal_mul hsign]
  rw [hsum]
  refine beyond_ofReal hsign (le_roundMagnitude_add ?_)
  rw [Word.isSigned, decide_eq_true_eq, hdelta, Word.signedLow, Word.signedHigh] at hover
  rcases hsign with rfl | rfl <;> omega

/-- Points beyond the range cannot be read. -/
theorem Beyond.read? {p : Points} (h : p.Beyond sign) : p.read? = none := by
  obtain ⟨m, -, rfl⟩ := h
  rfl

end Points

/--
Where all wins are worth the same, the points of a player are beyond the range as soon as the points for the
wins do not fit any more.
-/
structure Score.Steady (sign : Int) (w : Int64) (s : Score) : Prop where
  priced : s.Priced w
  beyond : ¬ Word.isSigned (w.toInt * s.wins) = true → s.points.Beyond sign

/-- Counting a result keeps the points of a player where they are as long as all wins are worth the same. -/
theorem Score.Steady.credit {sign : Int} (hsign : sign = 1 ∨ sign = -1) {w : Int64} {d : Nat}
    (hw : w.toInt = sign * d) {s : Score} (h : s.Steady sign w) (finish : Finish) (user : UserId) :
    (finish.credit w user s).Steady sign w := by
  refine ⟨h.priced.credit finish user, ?_⟩
  -- a loss or a draw adds nothing
  have hnothing (hover : ¬ Word.isSigned (w.toInt * s.wins) = true) : (s.points.add 0).Beyond sign :=
    (h.beyond hover).add hsign (d := 0) (by simp)
  unfold Finish.credit
  split
  · intro (hover : ¬ Word.isSigned (w.toInt * (s.wins + 1)) = true)
    change (s.points.add w).Beyond sign
    by_cases hfits : Word.isSigned (w.toInt * s.wins) = true
    · obtain ⟨wins, hwins⟩ := Int.eq_ofNat_of_zero_le h.priced.wins
      have hpoints : w.toInt * s.wins = sign * (d * wins : Nat) := by
        rw [hw, hwins, Int.mul_assoc, Int.natCast_mul]
      have hsum : w.toInt * s.wins + w.toInt = w.toInt * (s.wins + 1) := by rw [Int.mul_add, Int.mul_one]
      rw [h.priced.points hfits, hpoints]
      exact Points.beyond_of_overflow hsign hw (by rwa [← hpoints, hsum])
    · exact (h.beyond hfits).add hsign hw
  · split
    · exact hnothing
    · split
      · exact hnothing
      · exact h.beyond

/-! ## Games that are won -/

namespace Store

/-- The store after a game that somebody has created, and that another player has joined and given up. -/
def wonGame (s : Store) (winner loser : UserId) (winPoints : Int64) : Store :=
  let created := (s.createRoom winner .ticTacToe).1
  let joined := created.attempt s.nextId (.join loser) "" winPoints
  joined.attempt s.nextId (.forfeit loser) "" winPoints

/-- The steps of a traffic that such a game consists of. -/
def wonGameSteps (id : RoomId) (winner loser : UserId) (winPoints : Int64) : List Step :=
  .create winner .ticTacToe ::
    (attemptSteps id (.join loser) "" winPoints ++ attemptSteps id (.forfeit loser) "" winPoints)

/-- Such a game is played by its steps, with nothing else on its way. -/
theorem wonGame_eq_run (s : Store) (winner loser : UserId) (winPoints : Int64) :
    (Traffic.mk s []).run (wonGameSteps s.nextId winner loser winPoints) = ⟨s.wonGame winner loser winPoints, []⟩ := by
  have hcreate : (Traffic.mk s []).step (.create winner .ticTacToe) = ⟨(s.createRoom winner .ticTacToe).1, []⟩ := rfl
  rw [wonGameSteps, Traffic.run_cons, hcreate, Traffic.run_append, attempt_eq_run, attempt_eq_run, wonGame]

/-- Unless the store is full, a room that is created is appended. -/
theorem createRoom_of_lt (s : Store) (hfits : s.rooms.length < roomLimit) (creator : UserId) (gameType : GameType) :
    ∃ row, row.Holds (.newPending s.nextId creator gameType) ∧
      (s.createRoom creator gameType).1 = { s with rooms := s.rooms ++ [row] } := by
  rcases s.createRoom_cases creator gameType with ⟨-, hrow⟩ | hfull
  · exact hrow
  · have hlength := congrArg (fun s => s.rooms.length) hfull
    simp [createRoom, insertRow, hfits] at hlength

/-- A join makes a room that waits active, and counts nothing. -/
theorem Sound.attempt_join {s : Store} (h : s.Sound) {id : RoomId} {r : Room} (hr : s.Keeps id r)
    (hpending : r.status = .pending) {user : UserId} (hcreator : r.creator ≠ user) (data : String)
    (winPoints : Int64) :
    (s.attempt id (.join user) data winPoints).Keeps id (r.joinedBy user) ∧
      (s.attempt id (.join user) data winPoints).rooms.length = s.rooms.length ∧
      (s.attempt id (.join user) data winPoints).scores = s.scores := by
  obtain ⟨r', hroom, hsame⟩ := hr.room
  have htimed := Room.eq_of_untimed hsame
  have hwrite : r'.write? data (.join user) = some (.update (r'.joinedBy user)) :=
    Room.write?_join (by rw [htimed, hpending]) (by rwa [htimed]) data
  obtain ⟨-, -, hattempt⟩ := h.attempt_landed hroom hwrite winPoints
  refine ⟨?_, ?_, ?_⟩
  · rw [h.attempt_keeps hroom hwrite, if_pos rfl, htimed]
    rfl
  · rw [hattempt]
    exact List.length_map _
  · rw [hattempt]
    rfl

/-- A forfeit of an active room counts a win of the other player. -/
theorem Sound.attempt_forfeit_counts {s : Store} (h : s.Sound) {id : RoomId} {r : Room} (hr : s.Keeps id r)
    (hactive : r.status = .active) {user winner : UserId} (hwinner : r.opponentOf? user = some winner)
    (data : String) (winPoints : Int64) :
    (s.attempt id (.forfeit user) data winPoints).rooms.length = s.rooms.length ∧
      (s.attempt id (.forfeit user) data winPoints).scores =
        countIn s.scores r.gameType (.win winner user) winPoints := by
  obtain ⟨r', hroom, hsame⟩ := hr.room
  have htimed := Room.eq_of_untimed hsame
  have hwrite : r'.write? data (.forfeit user) = some (.conclude (r'.wonBy winner) (.win winner user)) :=
    Room.write?_forfeit (by rw [htimed, hactive]) (by rwa [Room.opponentOf?_of_untimed hsame]) data
  obtain ⟨-, -, hattempt⟩ := h.attempt_landed hroom hwrite winPoints
  rw [hattempt, htimed]
  exact ⟨List.length_map _, rfl⟩

/-- A game that is won is one more room and one more win. -/
theorem Sound.wonGame {s : Store} (h : s.Sound) (hfits : s.rooms.length < roomLimit) {winner loser : UserId}
    (hne : winner ≠ loser) (winPoints : Int64) :
    (s.wonGame winner loser winPoints).rooms.length = s.rooms.length + 1 ∧
      ((s.wonGame winner loser winPoints).scoreOf winner .ticTacToe).wins =
        (s.scoreOf winner .ticTacToe).wins + 1 := by
  obtain ⟨row, hholds, hcreate⟩ := s.createRoom_of_lt hfits winner .ticTacToe
  have hcreated : (s.createRoom winner .ticTacToe).1.Sound := h.served (.created winner .ticTacToe)
  have hnew : (s.createRoom winner .ticTacToe).1.Keeps s.nextId (.newPending s.nextId winner .ticTacToe) := by
    rw [hcreate, Traffic.Sound.keeps_created h hfits hholds, if_pos rfl]
  obtain ⟨hjoined, hrooms, hscores⟩ := hcreated.attempt_join hnew rfl hne "" winPoints
  have hother : ((Room.newPending s.nextId winner .ticTacToe).joinedBy loser).opponentOf? loser = some winner :=
    (Room.opponentOf?_eq_some_iff rfl).mpr (.inr ⟨hne.symm, rfl, rfl⟩)
  have hsound := hcreated.of_run (attempt_eq_run _ s.nextId (.join loser) "" winPoints)
  obtain ⟨hrooms', hscores'⟩ := hsound.attempt_forfeit_counts hjoined rfl hother "" winPoints
  refine ⟨?_, ?_⟩
  · rw [Store.wonGame, hrooms', hrooms, hcreate, List.length_append, List.length_singleton]
  · have hfair : (Finish.win winner loser).Fair := hne
    have hcredit : ((Finish.win winner loser).credit winPoints winner (s.scoreOf winner .ticTacToe)).wins =
        (s.scoreOf winner .ticTacToe).wins + 1 := by
      simpa [Finish.isWonBy] using (Finish.credit_counts hfair winPoints winner (s.scoreOf winner .ticTacToe)).1
    rw [Store.scoreOf, Store.wonGame, hscores', scoreIn_countIn _ hfair, if_pos rfl, hscores, hcreate]
    exact hcredit

end Store

namespace Traffic

/-- All wins in some steps are worth the same. -/
def Worth (w : Int64) (steps : List Step) : Prop :=
  ∀ id call data winPoints, Step.load id call data winPoints ∈ steps → winPoints = w

/-- The steps in which a player wins one game after the other, from the first game of all. -/
def winningSteps (winner loser : UserId) (winPoints : Int64) : Nat → List Step
  | 0 => []
  | k + 1 =>
    winningSteps winner loser winPoints k ++ Store.wonGameSteps (UInt64.ofNat (k + 1)) winner loser winPoints

/-- All these games are worth the same. -/
theorem worth_winningSteps (winner loser : UserId) (winPoints : Int64) (k : Nat) :
    Worth winPoints (winningSteps winner loser winPoints k) := by
  intro id call data other hstep
  induction k with
  | zero => contradiction
  | succ k ih =>
    rcases List.mem_append.mp hstep with hbefore | hlast
    · exact ih hbefore
    · have hloads : (id = UInt64.ofNat (k + 1) ∧ call = .join loser ∧ data = "" ∧ other = winPoints) ∨
          (id = UInt64.ofNat (k + 1) ∧ call = .forfeit loser ∧ data = "" ∧ other = winPoints) := by
        simpa [Store.wonGameSteps, Store.attemptSteps] using hlast
      rcases hloads with ⟨-, -, -, hsame⟩ | ⟨-, -, -, hsame⟩
      · exact hsame
      · exact hsame

/-- A player can win as many games as there can be rooms. -/
theorem run_winningSteps (clock : String) {winner loser : UserId} (hne : winner ≠ loser) (winPoints : Int64) {k : Nat}
    (hk : k ≤ Store.roomLimit) :
    ∃ s, (start clock).run (winningSteps winner loser winPoints k) = ⟨s, []⟩ ∧ s.rooms.length = k ∧
      (s.scoreOf winner .ticTacToe).wins = k := by
  induction k with
  | zero => exact ⟨{ clock }, rfl, rfl, rfl⟩
  | succ k ih =>
    obtain ⟨s, hrun, hrooms, hwins⟩ := ih (Nat.le_of_succ_le hk)
    have hsound : s.Sound := (Store.sound_empty clock).of_run hrun
    have hnext : s.nextId = UInt64.ofNat (k + 1) := by rw [Store.nextId, hrooms]
    obtain ⟨hroom, hwin⟩ := hsound.wonGame (by rw [hrooms]; exact hk) hne winPoints
    refine ⟨s.wonGame winner loser winPoints, ?_, by rw [hroom, hrooms], by rw [hwin, hwins, Int.natCast_succ]⟩
    rw [winningSteps, run_append, hrun, ← hnext, Store.wonGame_eq_run]

/-! ## Which points for a win keep statistics readable -/

/--
Where all wins are worth the same, the statistics of a player can be read exactly as long as the points for the
wins fit a signed word.
-/
theorem stats_ok_iff_fits (clock : String) {steps : List Step} {w : Int64} (hw : Worth w steps) (user : UserId)
    (g : GameType) :
    (∃ stats, ((start clock).run steps).store.stats user g = .ok stats) ↔
      Word.isSigned (w.toInt * ((start clock).run steps).store.rooms.countP (StoredRoom.wonBy user g)) = true := by
  refine ⟨fun ⟨stats, hstats⟩ => Classical.byContradiction fun hover => ?_,
    fun hfits => ⟨_, (stats_priced_iff clock hw user g).mpr hfits⟩⟩
  have htally := (tallied_start clock).run (sound_start clock) steps
  obtain ⟨sign, hsign, d, hd⟩ : ∃ sign : Int, (sign = 1 ∨ sign = -1) ∧ ∃ d : Nat, w.toInt = sign * d := by
    rcases Int.natAbs_eq w.toInt with hpos | hneg
    · exact ⟨1, .inl rfl, _, by rwa [Int.one_mul]⟩
    · exact ⟨-1, .inr rfl, _, by rwa [Int.neg_one_mul]⟩
  have hstart : ({} : Score).Steady sign w := by
    have hnone : w.toInt * ({} : Score).wins = 0 := Int.mul_zero _
    refine ⟨⟨Int.le_refl 0, fun _ => by rw [hnone]⟩, fun hover => ?_⟩
    rw [hnone] at hover
    exact absurd (by decide) hover
  have hsteady : (((start clock).run steps).store.scoreOf user g).Steady sign w :=
    (sound_start clock).scores_run (A := (· = w))
      (fun winPoints hwin finish user s hs => hwin ▸ hs.credit hsign hd finish user)
      (fun f hf => by simp [start] at hf) (fun _ _ => hstart) steps hw user g
  rw [← htally.wins] at hover
  rw [htally.stats_eq, (hsteady.beyond hover).read?] at hstats
  contradiction

/-- No number of rooms makes points leave the range if a win is worth one point at most, given or taken. -/
theorem isSigned_mul_of_natAbs_le_one {w : Int} (hw : w.natAbs ≤ 1) {k : Nat} (hk : k ≤ Store.roomLimit) :
    Word.isSigned (w * k) = true := by
  have hlimit : k ≤ 9223372036854775807 := hk
  have hcases : w = 0 ∨ w = 1 ∨ w = -1 := by omega
  rw [Word.isSigned, decide_eq_true_eq, Word.signedLow, Word.signedHigh]
  rcases hcases with rfl | rfl | rfl <;> omega

/--
Any signed word can be configured as the points for a win. After any steps in which all wins are worth this
much, the statistics of a player can be read exactly if the points for the games that the player has won fit a
signed word. They can be read after all such steps exactly if a win is worth one point, none, or takes one away.
-/
theorem stats_readable_iff (w : Int64) :
    Config.ofSources? [Config.defaultEntries, [("game", .group [("win_points", .integer w.toInt)])], []] =
        some { game := { winPoints := w } } ∧
      (∀ clock steps, Worth w steps → ∀ user g,
        (∃ stats, ((start clock).run steps).store.stats user g = .ok stats) ↔
          Word.isSigned (w.toInt * ((start clock).run steps).store.rooms.countP (StoredRoom.wonBy user g)) = true) ∧
      ∀ user g, (∀ clock steps, Worth w steps →
        ∃ stats, ((start clock).run steps).store.stats user g = .ok stats) ↔ w.toInt.natAbs ≤ 1 := by
  refine ⟨Config.ofSources?_winPoints w, fun clock steps hw user g => stats_ok_iff_fits clock hw user g,
    fun user g => ⟨fun hreadable => ?_, fun hone clock steps hw => ?_⟩⟩
  · obtain ⟨loser, hne⟩ : ∃ loser, user ≠ loser := ⟨user + 1, by simp⟩
    obtain rfl : g = .ticTacToe := by cases g; rfl
    -- one win more than half as many as there can be leaves the range for any other worth
    have hmany : 2 ^ 62 + 1 ≤ Store.roomLimit := by decide
    obtain ⟨s, hrun, -, hwins⟩ := run_winningSteps "" hne w hmany
    have hpriced := worth_winningSteps user loser w (2 ^ 62 + 1)
    have htally := (tallied_start "").run (sound_start "") (winningSteps user loser w (2 ^ 62 + 1))
    have hfits := (stats_ok_iff_fits "" hpriced user .ticTacToe).mp (hreadable "" _ hpriced)
    rw [← htally.wins, hrun, hwins, Word.isSigned, decide_eq_true_eq, Word.signedLow, Word.signedHigh] at hfits
    omega
  · have hrooms := ((sound_start clock).run steps).numbered.fits
    exact (stats_ok_iff_fits clock hw user g).mpr
      (isSigned_mul_of_natAbs_le_one hone (Nat.le_trans List.countP_le_length hrooms))

/-- Three wins that are worth ten points each can be read, and so can `2 ^ 62 + 1` wins that are worth one point each. -/
theorem ten_points_readable :
    Worth 10 (winningSteps 1 2 10 3) ∧ Worth 1 (winningSteps 1 2 1 (2 ^ 62 + 1)) ∧
      ((start "").run (winningSteps 1 2 10 3)).store.rooms.countP (StoredRoom.wonBy 1 .ticTacToe) = 3 ∧
      (∃ stats, ((start "").run (winningSteps 1 2 10 3)).store.stats 1 .ticTacToe = .ok stats) ∧
      ∃ stats, ((start "").run (winningSteps 1 2 1 (2 ^ 62 + 1))).store.stats 1 .ticTacToe = .ok stats := by
  have hten := worth_winningSteps 1 2 10 3
  have hone := worth_winningSteps 1 2 1 (2 ^ 62 + 1)
  have hwins : ((start "").run (winningSteps 1 2 10 3)).store.rooms.countP (StoredRoom.wonBy 1 .ticTacToe) = 3 := by
    decide +kernel
  refine ⟨hten, hone, hwins, ?_, ?_⟩
  · exact ((stats_readable_iff 10).2.1 "" _ hten 1 .ticTacToe).mpr (by rw [hwins]; decide)
  · exact ((stats_readable_iff 1).2.2 1 .ticTacToe).mpr (by decide) "" _ hone

/--
A variable of the environment makes a win worth as many points as a signed word can hold. It is accepted, and
after two wins at this price the statistics of the winner cannot be read.
-/
theorem stats_unreadable_as_configured :
    (Config.load { vars := [("SANCTUM__GAME__WIN_POINTS", "9223372036854775807")] } "config.toml" none).toOption =
        some { game := { winPoints := Int64.maxValue } } ∧
      Worth Int64.maxValue (winningSteps 1 2 Int64.maxValue 2) ∧
      ((start "").run (winningSteps 1 2 Int64.maxValue 2)).store.rooms.countP (StoredRoom.wonBy 1 .ticTacToe) = 2 ∧
      ¬ ∃ stats, ((start "").run (winningSteps 1 2 Int64.maxValue 2)).store.stats 1 .ticTacToe = .ok stats := by
  have hunread :
      (((start "").run (winningSteps 1 2 Int64.maxValue 2)).store.stats 1 .ticTacToe).toOption = none := by
    decide +kernel
  refine ⟨by decide +kernel, worth_winningSteps 1 2 _ 2, by decide +kernel, fun ⟨stats, hstats⟩ => ?_⟩
  rw [hstats] at hunread
  contradiction

end Traffic

end Game

end Parlor
