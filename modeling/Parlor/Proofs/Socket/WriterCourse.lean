import Parlor.Proofs.Offers
import Parlor.Socket.Writer

/-!
# What a writer writes

A writer at its desk: frames are put into the queue of its connection, the queue is closed, time passes,
the socket takes messages or does not, pings fall due, and the reader may end the writer, all in any order.
What comes out on the socket is a beginning of what was put in. A writer whose queue is closed, and that
nothing stops, writes everything and then says goodbye. After a write that has failed, nothing comes out
any more but the very message that could not be written, which the socket may let go when it is closed.

A writer stops by itself if it cannot tell when to send its next ping. That takes a period of no length, which
no settings give, or one that reaches beyond the end of the clock, which some do.
-/

namespace Parlor.Socket

open Text (Nanos)

namespace Timing

/-- A period that is given and used is not empty. -/
theorem explicitPeriod?_pos {settings : Config.RealtimeSettings} {period : Nanos}
    (h : explicitPeriod? settings = some period) : 0 < period := by
  unfold explicitPeriod? at h
  split at h
  · split at h
    · rename_i seconds _ hbounds
      have hpositive : 0 < seconds.toNat := by simpa [UInt64.lt_iff_toNat_lt] using hbounds.1
      obtain rfl := Option.some.inj h
      exact Nat.mul_pos hpositive (by decide)
    · contradiction
  · contradiction

/-- Settings always leave time between two pings. -/
theorem pingPeriod_ne_zero {settings : Config.RealtimeSettings} {t : Timing}
    (h : ofSettings settings = some t) : t.pingPeriod ≠ 0 := by
  unfold ofSettings at h
  cases hexplicit : explicitPeriod? settings with
  | some period =>
    rw [hexplicit] at h
    obtain rfl := Option.some.inj h
    exact Nat.ne_of_gt (explicitPeriod?_pos hexplicit)
  | none =>
    rw [hexplicit] at h
    dsimp only at h
    split at h
    · obtain rfl := Option.some.inj h
      have hwait : 0 < max settings.pongWaitSeconds.toNat 1 := by omega
      refine Nat.ne_of_gt (Nat.div_pos ?_ (by decide))
      simp only [Text.seconds]
      omega
    · contradiction

/-- By a moment the clock can tell when the next ping is due, and that is later. -/
structure PingsBy (t : Timing) (now : Nanos) : Prop where
  period : t.pingPeriod ≠ 0
  fits : now + t.pingPeriod < Clock.bound

/-- What the clock can tell it could tell before. -/
theorem PingsBy.mono {t : Timing} {now now' : Nanos} (h : t.PingsBy now') (hle : now ≤ now') : t.PingsBy now :=
  ⟨h.period, Nat.lt_of_le_of_lt (Nat.add_le_add_right hle _) h.fits⟩

end Timing

namespace Writer

/-- A writer that starts waits for its first ping, or is unable to. -/
theorem start_cases (t : Timing) (now : Nanos) :
    (∃ due, start t now = .idle due) ∨ start t now = .unable ∧ ¬ t.PingsBy now := by
  unfold start firstPing?
  split
  case isTrue hzero => exact .inr ⟨rfl, fun hpings => hpings.period hzero⟩
  case isFalse =>
    rcases Nat.lt_or_ge (now + t.pingPeriod) Clock.bound with hfits | hlate
    · exact .inl ⟨now + t.pingPeriod, by rw [Clock.after?_of_lt hfits]; rfl⟩
    · refine .inr ⟨by rw [Clock.after?_of_le hlate]; rfl, fun hpings => ?_⟩
      exact Nat.not_lt_of_le hlate hpings.fits

/-- A ping that is due is begun, or the writer gives up because the next one is too late for the clock. -/
theorem ping_cases (t : Timing) (due now : Nanos) (c : Connection) :
    (∃ next, ping t due now c = ⟨begin t now .ping next, c, none, false⟩) ∨
      ping t due now c = finish c ∧ ¬ t.PingsBy now := by
  by_cases hmissed : due + pingTolerance < now
  · have hnext : nextPing? t due now = Clock.after? now t.pingPeriod := by rw [nextPing?, if_pos hmissed]
    rcases Nat.lt_or_ge (now + t.pingPeriod) Clock.bound with hfits | hlate
    · exact .inl ⟨now + t.pingPeriod, by rw [ping, hnext, Clock.after?_of_lt hfits, Option.elim_some]⟩
    · refine .inr ⟨by rw [ping, hnext, Clock.after?_of_le hlate, Option.elim_none], fun hpings => ?_⟩
      exact Nat.not_lt_of_le hlate hpings.fits
  · have hnext : nextPing? t due now = some ((Clock.after? due t.pingPeriod).getD (now + Clock.distance)) := by
      rw [nextPing?, if_neg hmissed]
    exact .inl ⟨_, by rw [ping, hnext, Option.elim_some]⟩

end Writer

/-! ## One move -/

namespace Writer

/-- What a move can be, by what the writer was at. -/
inductive Does (t : Timing) (wire : Wire) (now : Nanos) (c : Connection) : Writer → Move → Prop
  | giveUp : Does t wire now c .unable (finish c)
  | take {ping : Nanos} {frame : String} {rest : List String} (waiting : c.waiting = frame :: rest) :
    Does t wire now c (.idle ping) ⟨begin t now (.text frame) ping, { c with waiting := rest }, none, false⟩
  | sayGoodbye {ping : Nanos} (waiting : c.waiting = []) (closed : c.isOpen = false) :
    Does t wire now c (.idle ping) ⟨begin t now .close ping, c, none, false⟩
  | ping {due : Nanos} (waiting : c.waiting = []) (opened : c.isOpen = true) (late : due ≤ now) :
    Does t wire now c (.idle due) (ping t due now c)
  | write {message : Outbound} {deadline ping : Nanos} (sound : wire = .sound) (goesOn : message ≠ .close) :
    Does t wire now c (.writing message deadline ping) ⟨.idle ping, c, some message, false⟩
  | part {deadline ping : Nanos} (sound : wire = .sound) :
    Does t wire now c (.writing .close deadline ping) { beginClosing t now none c with written := some .close }
  | fail {message : Outbound} {deadline ping : Nanos} (unsound : wire ≠ .sound) :
    Does t wire now c (.writing message deadline ping) (beginClosing t now (some message) c)
  | letGo {held : Option Outbound} {deadline : Nanos} (sound : wire = .sound) :
    Does t wire now c (.closing held deadline) { finish c with written := held, closes := true }
  | drop {held : Option Outbound} {deadline : Nanos} (unsound : wire ≠ .sound) :
    Does t wire now c (.closing held deadline) (finish c)

/-- A writer does nothing else. -/
theorem does_of_move {t : Timing} {wire : Wire} {now : Nanos} {c : Connection} {w : Writer} {m : Move}
    (h : w.move t wire now c = some m) : Does t wire now c w m := by
  cases w with
  | unable => exact Option.some.inj h ▸ .giveUp
  | idle due =>
    simp only [move] at h
    cases hwaiting : c.waiting with
    | cons frame rest =>
      rw [hwaiting] at h
      exact Option.some.inj h ▸ .take hwaiting
    | nil =>
      rw [hwaiting] at h
      cases hopen : c.isOpen with
      | false =>
        rw [hopen] at h
        exact Option.some.inj h ▸ .sayGoodbye hwaiting hopen
      | true =>
        by_cases hlate : due ≤ now
        · simp only [hopen, Bool.not_true, Bool.false_eq_true, if_false, if_pos hlate] at h
          exact Option.some.inj h ▸ .ping hwaiting hopen hlate
        · simp [hopen, hlate] at h
  | writing message deadline due =>
    cases wire with
    | sound =>
      by_cases hclose : message = .close
      · subst hclose
        exact Option.some.inj h ▸ .part rfl
      · simp only [move, if_neg hclose] at h
        exact Option.some.inj h ▸ .write rfl hclose
    | failing => exact Option.some.inj h ▸ .fail (by decide)
    | stalled =>
      by_cases hlate : deadline ≤ now
      · simp only [move, if_pos hlate] at h
        exact Option.some.inj h ▸ .fail (by decide)
      · simp [move, hlate] at h
  | closing held deadline =>
    cases wire with
    | sound => exact Option.some.inj h ▸ .letGo rfl
    | failing => exact Option.some.inj h ▸ .drop (by decide)
    | stalled =>
      by_cases hlate : deadline ≤ now
      · simp only [move, if_pos hlate] at h
        exact Option.some.inj h ▸ .drop (by decide)
      · simp [move, hlate] at h
  | finished => contradiction

end Writer

/-! ## The desk -/

/-- The text of a message that carries a frame. -/
def Outbound.frame? : Outbound → Option String
  | .text frame => some frame
  | .ping | .close => none

/-- A writer with its connection and its socket, and what has happened there. -/
structure Desk where
  writer : Writer
  connection : Connection
  wire : Wire := .sound
  now : Nanos
  /-- The frames that the queue has taken. -/
  queued : List String := []
  /-- What has been written to the socket. -/
  written : List Outbound := []
  /-- The first message whose writing has been given up. -/
  failed : Option Outbound := none
  /-- Whether the reader has ended the writer. -/
  isAborted : Bool := false
  deriving DecidableEq, Repr

/-- What can happen at a desk. -/
inductive Turn where
  /-- A frame is put into the queue. -/
  | send (frame : String)
  /-- The queue is closed. -/
  | close
  /-- Somebody sets about taking the connection out of its server. -/
  | mark
  /-- Time passes. -/
  | pass (span : Nanos)
  /-- The socket behaves otherwise from now on. -/
  | wire (wire : Wire)
  /-- The writer moves, and prefers a frame to a ping. -/
  | move
  /-- The writer moves, and prefers a ping that is due to a frame. -/
  | tick
  /-- The reader ends the writer. -/
  | abort
  deriving DecidableEq, Repr

/-- A turn that the writer has no part in. -/
def Turn.IsBeside : Turn → Prop
  | .move | .tick | .abort => False
  | _ => True

/-- A turn that neither ends the writer nor disturbs the socket. -/
def Turn.IsHarmless : Turn → Prop
  | .abort => False
  | .wire w => w = .sound
  | _ => True

namespace Desk

/-- A desk whose writer starts now. -/
def start (t : Timing) (now : Nanos) (c : Connection) : Desk :=
  { writer := .start t now, connection := c, now }

/-- The frames that have been written. -/
def frames (d : Desk) : List String := d.written.filterMap Outbound.frame?

/-- The message whose writing a move ends without having written it. -/
def failure? (before : Writer) (m : Move) : Option Outbound :=
  match before with
  | .writing message _ _ => if m.written = some message then none else some message
  | _ => none

/-- The desk after a move of its writer. -/
def after (d : Desk) (m : Move) : Desk :=
  { d with
    writer := m.writer, connection := m.connection, written := d.written ++ m.written.toList
    failed := d.failed.or (failure? d.writer m) }

/-- The desk after something has happened. -/
def turn (t : Timing) (d : Desk) : Turn → Desk
  | .send frame =>
    { d with
      connection := (d.connection.send frame).1
      queued := d.queued ++ if (d.connection.send frame).2 = .queued then [frame] else [] }
  | .close => { d with connection := d.connection.close.1 }
  | .mark => { d with connection := d.connection.markUnregistered.1 }
  | .pass span => { d with now := d.now + span }
  | .wire wire => { d with wire }
  | .move => (d.writer.move t d.wire d.now d.connection).elim d d.after
  | .tick =>
    match d.writer with
    | .idle due => if due ≤ d.now then d.after (Writer.ping t due d.now d.connection) else d
    | _ => d
  | .abort =>
    { d with
      writer := .finished, connection := d.connection.dropReceiver.1
      isAborted := d.isAborted || d.writer != .finished }

/-- The desk after a course of such turns. -/
def run (t : Timing) (d : Desk) (turns : List Turn) : Desk := turns.foldl (turn t) d

/-- The loop of the writer has ended. -/
def HasEnded (d : Desk) : Prop := (∃ held deadline, d.writer = .closing held deadline) ∨ d.writer = .finished

/-- Everything that was queued has been written, and a goodbye once, as the last thing. -/
structure Complete (d : Desk) : Prop where
  frames : d.frames = d.queued
  goodbye : ∃ before, d.written = before ++ [.close] ∧ .close ∉ before

/-! ## Phases -/

/-- Nothing has stopped the writer yet, and what is written, in hand and waiting is what was queued. -/
structure Calm (d : Desk) (inHand : Option Outbound) : Prop where
  failed : d.failed = none
  isAborted : d.isAborted = false
  listening : d.connection.receiver = .listening
  frames : d.frames ++ ((inHand.bind Outbound.frame?).toList ++ d.connection.waiting) = d.queued
  unsaid : .close ∉ d.written
  last : inHand = some .close → d.connection.waiting = [] ∧ d.connection.isOpen = false

/-- Where a desk stands. -/
inductive Phase (t : Timing) (d : Desk) : Prop
  /-- The writer has not begun, and is not going to. -/
  | unable (writer : d.writer = .unable) (silent : ¬ t.PingsBy d.now) (calm : d.Calm none)
  | idle {ping : Nanos} (writer : d.writer = .idle ping) (calm : d.Calm none)
  | writing {message : Outbound} {deadline ping : Nanos} (writer : d.writer = .writing message deadline ping)
    (calm : d.Calm (some message))
  /-- The goodbye has been written. -/
  | parting (writer : (∃ deadline, d.writer = .closing none deadline) ∨ d.writer = .finished)
    (deaf : d.connection.receiver ≠ .listening) (failed : d.failed = none) (closed : d.connection.isOpen = false)
    (complete : d.Complete)
  /-- A message could not be written, and is held until the socket is closed. -/
  | holding {message : Outbound} {deadline : Nanos} (writer : d.writer = .closing (some message) deadline)
    (deaf : d.connection.receiver ≠ .listening) (failed : d.failed = some message)
    (frames : d.frames ++ message.frame?.toList <+: d.queued)
  /-- The writer has been stopped on the way. -/
  | stopped (writer : d.writer = .finished) (deaf : d.connection.receiver ≠ .listening)
    (reason : d.failed ≠ none ∨ d.isAborted = true ∨ ¬ t.PingsBy d.now) (frames : d.frames <+: d.queued)

variable {t : Timing} {d d' : Desk}

theorem phase_start (t : Timing) (now : Nanos) (user : UserId) (capacity : Nat) :
    (start t now (.new user capacity)).Phase t := by
  have hcalm : (start t now (.new user capacity)).Calm none := ⟨rfl, rfl, rfl, rfl, by simp [start], by simp⟩
  obtain ⟨due, hidle⟩ | ⟨hunable, hsilent⟩ := Writer.start_cases t now
  · exact .idle hidle hcalm
  · exact .unable hunable hsilent hcalm

/-! ### What others do -/

/-- One desk follows another by something that the writer has no part in. -/
structure Beside (d d' : Desk) : Prop where
  writer : d'.writer = d.writer
  written : d'.written = d.written
  failed : d'.failed = d.failed
  isAborted : d'.isAborted = d.isAborted
  receiver : d'.connection.receiver = d.connection.receiver
  now : d.now ≤ d'.now
  stays : d.connection.isOpen = false → d'.connection.isOpen = false
  /-- Frames are taken only by an open queue, behind those that wait. -/
  taken : ∃ more, d'.queued = d.queued ++ more ∧ d'.connection.waiting = d.connection.waiting ++ more ∧
    (d.connection.isClosed = true → more = [])

theorem beside_send (t : Timing) (d : Desk) (frame : String) : d.Beside (d.turn t (.send frame)) := by
  rcases hclosed : d.connection.isClosed with _ | _
  · by_cases hroom : d.connection.waiting.length < d.connection.capacity
    · constructor <;> simp [turn, Connection.HasRoom.send ⟨hclosed, hroom⟩, hclosed]
    · constructor <;> simp [turn, Connection.send_full hclosed (Nat.le_of_not_lt hroom)]
  · constructor <;> simp [turn, Connection.send_closed hclosed]

/-- A turn of others is beside the writer. -/
theorem beside_turn (t : Timing) (d : Desk) {x : Turn} (hbeside : x.IsBeside) : d.Beside (d.turn t x) := by
  cases x with
  | send frame => exact beside_send t d frame
  | close => constructor <;> simp [turn, Connection.close]
  | mark => constructor <;> simp [turn, Connection.markUnregistered]
  | pass span => constructor <;> simp [turn]
  | wire wire => constructor <;> simp [turn]
  | move | tick | abort => exact hbeside.elim

theorem Beside.frames (h : d.Beside d') : d'.frames = d.frames := by rw [Desk.frames, h.written, Desk.frames]

/-- A queue whose reading side listens no more takes nothing. -/
theorem Beside.deaf (h : d.Beside d') (hdeaf : d.connection.receiver ≠ .listening) : d'.queued = d.queued := by
  obtain ⟨more, hqueued, -, hnone⟩ := h.taken
  rw [hqueued, hnone (by simp [Connection.isClosed, hdeaf]), List.append_nil]

theorem Calm.beside {inHand : Option Outbound} (hcalm : d.Calm inHand) (h : d.Beside d') : d'.Calm inHand := by
  obtain ⟨more, hqueued, hwaiting, hnone⟩ := h.taken
  refine ⟨h.failed.trans hcalm.failed, h.isAborted.trans hcalm.isAborted, h.receiver.trans hcalm.listening, ?_,
    by rw [h.written]; exact hcalm.unsaid, fun hclose => ?_⟩
  · rw [h.frames, hwaiting, hqueued, ← hcalm.frames]
    simp only [List.append_assoc]
  · obtain ⟨hempty, hclosed⟩ := hcalm.last hclose
    rw [hwaiting, hempty, hnone (by simp [Connection.isClosed, hclosed])]
    exact ⟨rfl, h.stays hclosed⟩

/-- What others do leaves a desk in its phase. -/
theorem Phase.beside (hphase : d.Phase t) (h : d.Beside d') : d'.Phase t := by
  have hdeaf (hd : d.connection.receiver ≠ .listening) : d'.connection.receiver ≠ .listening := by
    rwa [h.receiver]
  have hsilent (hd : ¬ t.PingsBy d.now) : ¬ t.PingsBy d'.now := fun hpings => hd (hpings.mono h.now)
  cases hphase with
  | unable writer silent calm => exact .unable (h.writer.trans writer) (hsilent silent) (calm.beside h)
  | idle writer calm => exact .idle (h.writer.trans writer) (calm.beside h)
  | writing writer calm => exact .writing (h.writer.trans writer) (calm.beside h)
  | parting writer deaf failed closed complete =>
    refine .parting (by rwa [h.writer]) (hdeaf deaf) (h.failed.trans failed) (h.stays closed) ⟨?_, ?_⟩
    · rw [h.frames, h.deaf deaf, complete.frames]
    · rw [h.written]
      exact complete.goodbye
  | holding writer deaf failed frames =>
    exact .holding (h.writer.trans writer) (hdeaf deaf) (h.failed.trans failed)
      (by rw [h.frames, h.deaf deaf]; exact frames)
  | stopped writer deaf reason frames =>
    exact .stopped (h.writer.trans writer) (hdeaf deaf)
      (by rw [h.failed, h.isAborted]; exact reason.imp_right (.imp_right hsilent))
      (by rw [h.frames, h.deaf deaf]; exact frames)

/-! ### What the writer does -/

section After

variable (d : Desk) (m : Move)

@[simp] theorem after_connection : (d.after m).connection = m.connection := rfl

@[simp] theorem after_queued : (d.after m).queued = d.queued := rfl

@[simp] theorem after_written : (d.after m).written = d.written ++ m.written.toList := rfl

@[simp] theorem after_failed : (d.after m).failed = d.failed.or (failure? d.writer m) := rfl

@[simp] theorem frames_after : (d.after m).frames = d.frames ++ (m.written.bind Outbound.frame?).toList := by
  rw [frames, after_written, List.filterMap_append, ← frames]
  rcases m.written with _ | _ | _ | _ <;> rfl

end After

theorem deaf_closeReceiver (c : Connection) : c.closeReceiver.receiver ≠ .listening := by
  unfold Connection.closeReceiver
  split <;> simp_all

theorem deaf_dropReceiver (c : Connection) : c.dropReceiver.1.receiver ≠ .listening := by
  simp [Connection.dropReceiver]

theorem Calm.frames_prefix {inHand : Option Outbound} (hcalm : d.Calm inHand) :
    d.frames ++ (inHand.bind Outbound.frame?).toList <+: d.queued := by
  rw [← hcalm.frames, ← List.append_assoc]
  exact List.prefix_append _ _

/-- A writer that gives up between two messages is stopped. -/
theorem Calm.finish (hcalm : d.Calm none) (hsilent : ¬ t.PingsBy d.now) :
    (d.after (Writer.finish d.connection)).Phase t := by
  refine .stopped rfl (deaf_dropReceiver _) (.inr (.inr hsilent)) ?_
  simpa [Writer.finish] using hcalm.frames_prefix

/-- Between two messages a writer sends a ping that is due, or gives up. -/
theorem Calm.ping {due : Nanos} (hcalm : d.Calm none) (hwriter : d.writer = .idle due) :
    (d.after (Writer.ping t due d.now d.connection)).Phase t := by
  obtain ⟨next, hping⟩ | ⟨hping, hsilent⟩ := Writer.ping_cases t due d.now d.connection
  · rw [hping]
    refine .writing rfl ⟨?_, hcalm.isAborted, hcalm.listening, ?_, ?_, by simp⟩
    · simp [hcalm.failed, failure?, hwriter]
    · simpa [Outbound.frame?] using hcalm.frames
    · simpa using hcalm.unsaid
  · rw [hping]
    exact hcalm.finish hsilent

/-- Between two messages a writer takes a frame, says goodbye, sends a ping or gives up. -/
theorem Calm.move_idle {ping : Nanos} {m : Move} (hcalm : d.Calm none) (hwriter : d.writer = .idle ping)
    (hdoes : Writer.Does t d.wire d.now d.connection (.idle ping) m) : (d.after m).Phase t := by
  have hfailed : (d.after m).failed = none := by simp [hcalm.failed, failure?, hwriter]
  cases hdoes with
  | take hwaiting =>
    refine .writing rfl ⟨hfailed, hcalm.isAborted, hcalm.listening, ?_, ?_, by simp⟩
    · simpa [Outbound.frame?, hwaiting] using hcalm.frames
    · simpa using hcalm.unsaid
  | sayGoodbye hwaiting hclosed =>
    refine .writing rfl ⟨hfailed, hcalm.isAborted, hcalm.listening, ?_, ?_, fun _ => ⟨hwaiting, hclosed⟩⟩
    · simpa [Outbound.frame?] using hcalm.frames
    · simpa using hcalm.unsaid
  | ping hwaiting hopen hlate => exact hcalm.ping hwriter

/-- A message is written, or its writing is given up. -/
theorem Calm.move_writing {message : Outbound} {deadline ping : Nanos} {m : Move} (hcalm : d.Calm (some message))
    (hwriter : d.writer = .writing message deadline ping)
    (hdoes : Writer.Does t d.wire d.now d.connection (.writing message deadline ping) m) : (d.after m).Phase t := by
  cases hdoes with
  | write hsound hgoesOn =>
    refine .idle rfl ⟨by simp [hcalm.failed, failure?, hwriter], hcalm.isAborted, hcalm.listening, ?_, ?_,
      by simp⟩
    · simpa using hcalm.frames
    · simp [hcalm.unsaid, hgoesOn.symm]
  | part hsound =>
    obtain ⟨hwaiting, hclosed⟩ := hcalm.last rfl
    refine .parting (.inl ⟨_, rfl⟩) (deaf_closeReceiver _) (by simp [hcalm.failed, failure?, hwriter]) ?_
      ⟨?_, d.written, rfl, hcalm.unsaid⟩
    · simp only [after_connection, Writer.beginClosing, Connection.closeReceiver]
      split <;> exact hclosed
    · simpa [hwaiting] using hcalm.frames
  | fail hunsound =>
    refine .holding rfl (deaf_closeReceiver _) ?_ ?_
    · simp [hcalm.failed, failure?, hwriter, Writer.beginClosing]
    · simpa [Writer.beginClosing] using hcalm.frames_prefix

/-- A move takes a desk from a phase to a phase. -/
theorem Phase.move (hphase : d.Phase t) : (d.turn t .move).Phase t := by
  cases hmove : d.writer.move t d.wire d.now d.connection with
  | none => simpa only [turn, hmove, Option.elim_none] using hphase
  | some m =>
    have hturn : d.turn t .move = d.after m := by simp only [turn, hmove, Option.elim_some]
    have hdoes := Writer.does_of_move hmove
    rw [hturn]
    cases hphase with
    | unable writer silent calm =>
      rw [writer] at hdoes
      cases hdoes
      exact calm.finish silent
    | idle writer calm => exact calm.move_idle writer (writer ▸ hdoes)
    | writing writer calm => exact calm.move_writing writer (writer ▸ hdoes)
    | parting writer deaf failed closed complete =>
      obtain ⟨deadline, writer⟩ | writer := writer
      · rw [writer] at hdoes
        have hfailed : (d.after m).failed = none := by simp [failed, failure?, writer]
        cases hdoes with
        | letGo hsound =>
          refine .parting (.inr rfl) (deaf_dropReceiver _) hfailed closed ⟨?_, ?_⟩
          · simpa [Writer.finish] using complete.frames
          · simpa [Writer.finish] using complete.goodbye
        | drop hunsound =>
          refine .parting (.inr rfl) (deaf_dropReceiver _) hfailed closed ⟨?_, ?_⟩
          · simpa [Writer.finish] using complete.frames
          · simpa [Writer.finish] using complete.goodbye
      · rw [writer] at hdoes
        cases hdoes
    | @holding message deadline writer deaf failed frames =>
      rw [writer] at hdoes
      have hfailed : (d.after m).failed ≠ none := by simp [failed]
      cases hdoes with
      | letGo hsound =>
        refine .stopped rfl (deaf_dropReceiver _) (.inl hfailed) ?_
        simpa using frames
      | drop hunsound =>
        refine .stopped rfl (deaf_dropReceiver _) (.inl hfailed) ?_
        simpa [Writer.finish] using (List.prefix_append _ _).trans frames
    | stopped writer deaf reason frames =>
      rw [writer] at hdoes
      cases hdoes

/-- A ping that is taken before the frames that wait leaves them waiting. -/
theorem Phase.tick (hphase : d.Phase t) : (d.turn t .tick).Phase t := by
  cases hphase with
  | unable writer silent calm => simpa only [turn, writer] using .unable writer silent calm
  | @idle due writer calm =>
    by_cases hdue : due ≤ d.now
    · simp only [turn, writer, if_pos hdue]
      exact calm.ping writer
    · simp only [turn, writer, if_neg hdue]
      exact .idle writer calm
  | writing writer calm => simpa only [turn, writer] using .writing writer calm
  | parting writer deaf failed closed complete =>
    have hsame : d.turn t .tick = d := by
      obtain ⟨deadline, writer⟩ | writer := writer <;> simp only [turn, writer]
    rw [hsame]
    exact .parting writer deaf failed closed complete
  | holding writer deaf failed frames => simpa only [turn, writer] using .holding writer deaf failed frames
  | stopped writer deaf reason frames => simpa only [turn, writer] using .stopped writer deaf reason frames

/-- What has come out is what was put in, up to some frame. -/
theorem Phase.frames_prefix (hphase : d.Phase t) : d.frames <+: d.queued := by
  cases hphase with
  | unable writer silent calm => exact (List.prefix_append _ _).trans calm.frames_prefix
  | idle writer calm => exact (List.prefix_append _ _).trans calm.frames_prefix
  | writing writer calm => exact (List.prefix_append _ _).trans calm.frames_prefix
  | parting writer deaf failed closed complete => exact complete.frames ▸ List.prefix_rfl
  | holding writer deaf failed frames => exact (List.prefix_append _ _).trans frames
  | stopped writer deaf reason frames => exact frames

/-- Ending a writer stops it, unless it has finished by itself. -/
theorem Phase.abort (hphase : d.Phase t) : (d.turn t .abort).Phase t := by
  have hstopped (hbusy : d.writer ≠ .finished) : (d.turn t .abort).Phase t :=
    .stopped rfl (deaf_dropReceiver _) (.inr (.inl (by simp [turn, hbusy]))) hphase.frames_prefix
  cases hphase with
  | unable writer silent calm => exact hstopped (by simp [writer])
  | idle writer calm => exact hstopped (by simp [writer])
  | writing writer calm => exact hstopped (by simp [writer])
  | parting writer deaf failed closed complete =>
    exact .parting (.inr rfl) (deaf_dropReceiver _) failed closed ⟨complete.frames, complete.goodbye⟩
  | holding writer deaf failed frames => exact hstopped (by simp [writer])
  | stopped writer deaf reason frames =>
    exact .stopped rfl (deaf_dropReceiver _) (by simpa [turn, writer] using reason) frames

/-- Whatever happens, a desk is in some phase. -/
theorem Phase.turn (hphase : d.Phase t) (x : Turn) : (d.turn t x).Phase t := by
  cases x with
  | move => exact hphase.move
  | tick => exact hphase.tick
  | abort => exact hphase.abort
  | send | close | mark | pass | wire => exact hphase.beside (beside_turn t d trivial)

theorem Phase.run (hphase : d.Phase t) (turns : List Turn) : (d.run t turns).Phase t := by
  induction turns generalizing d with
  | nil => exact hphase
  | cons x rest ih => exact ih (hphase.turn x)

/-! ## After the end of the loop -/

/-- The reading side of the queue listens until the loop has ended. -/
theorem Phase.hasEnded_iff (hphase : d.Phase t) : d.HasEnded ↔ d.connection.receiver ≠ .listening := by
  cases hphase with
  | unable writer silent calm => simp [HasEnded, writer, calm.listening]
  | idle writer calm => simp [HasEnded, writer, calm.listening]
  | writing writer calm => simp [HasEnded, writer, calm.listening]
  | parting writer deaf failed closed complete =>
    exact iff_of_true (writer.imp_left fun ⟨deadline, hwriter⟩ => ⟨none, deadline, hwriter⟩) deaf
  | holding writer deaf failed frames => exact iff_of_true (.inl ⟨_, _, writer⟩) deaf
  | stopped writer deaf reason frames => exact iff_of_true (.inr writer) deaf

theorem HasEnded.beside (hended : d.HasEnded) (h : d.Beside d') : d'.HasEnded := by
  rwa [HasEnded, h.writer]

/-- A writer that has left its loop does not come back to it. -/
theorem HasEnded.turn (hended : d.HasEnded) (x : Turn) : (d.turn t x).HasEnded := by
  cases x with
  | send | close | mark | pass | wire => exact hended.beside (beside_turn t d trivial)
  | move =>
    cases hmove : d.writer.move t d.wire d.now d.connection with
    | none => simpa only [Desk.turn, hmove, Option.elim_none] using hended
    | some m =>
      simp only [Desk.turn, hmove, Option.elim_some]
      have hdoes := Writer.does_of_move hmove
      obtain ⟨held, deadline, hwriter⟩ | hwriter := hended
      · rw [hwriter] at hdoes
        cases hdoes <;> exact .inr rfl
      · rw [hwriter] at hdoes
        cases hdoes
  | tick => obtain ⟨held, deadline, hwriter⟩ | hwriter := hended <;> simp [Desk.turn, HasEnded, hwriter]
  | abort => exact .inr rfl

theorem HasEnded.run (hended : d.HasEnded) (turns : List Turn) : (d.run t turns).HasEnded := by
  induction turns generalizing d with
  | nil => exact hended
  | cons x rest ih => exact ih (hended.turn x)

/-- A writer that has finished writes nothing more. -/
theorem run_finished (hfinished : d.writer = .finished) (turns : List Turn) :
    (d.run t turns).writer = .finished ∧ (d.run t turns).written = d.written ∧
      (d.run t turns).failed = d.failed := by
  induction turns generalizing d with
  | nil => exact ⟨hfinished, rfl, rfl⟩
  | cons x rest ih =>
    obtain ⟨hwriter, hwritten, hfailed⟩ : (d.turn t x).writer = .finished ∧ (d.turn t x).written = d.written ∧
        (d.turn t x).failed = d.failed := by
      cases x <;> simp [turn, hfinished, Writer.move]
    obtain ⟨hlast, hsame, hstill⟩ := ih hwriter
    exact ⟨hlast, hsame.trans hwritten, hstill.trans hfailed⟩

/-- A message that is held stays held until the writer has finished, and comes out at most once. -/
theorem turn_holding {message : Outbound} {deadline : Nanos} (hwriter : d.writer = .closing (some message) deadline)
    (hfailed : d.failed = some message) (x : Turn) :
    (d.turn t x).failed = some message ∧
      ((d.turn t x).writer = d.writer ∧ (d.turn t x).written = d.written ∨
        (d.turn t x).writer = .finished ∧
          ((d.turn t x).written = d.written ∨ (d.turn t x).written = d.written ++ [message])) := by
  cases x with
  | move =>
    cases hmove : d.writer.move t d.wire d.now d.connection with
    | none => simp [turn, hmove, hfailed]
    | some m =>
      have hdoes := Writer.does_of_move hmove
      rw [hwriter] at hdoes
      cases hdoes <;> simp [turn, hmove, after, hfailed, Writer.finish]
  | abort => simp [turn, hwriter, hfailed]
  | _ => simp [turn, hwriter, hfailed]

/-- After a write has failed, at most the message that could not be written comes out, and as the last thing. -/
theorem Phase.after_failure (hphase : d.Phase t) {message : Outbound} (hfailed : d.failed = some message)
    (later : List Turn) :
    (d.run t later).written = d.written ∨
      d.writer ≠ .finished ∧ (d.run t later).writer = .finished ∧
        (d.run t later).written = d.written ++ [message] := by
  induction later generalizing d with
  | nil => exact .inl rfl
  | cons x rest ih =>
    have hstopped (hwriter : d.writer = .finished) : (d.run t (x :: rest)).written = d.written :=
      (run_finished hwriter _).2.1
    cases hphase with
    | unable writer silent calm => simp [calm.failed] at hfailed
    | idle writer calm => simp [calm.failed] at hfailed
    | writing writer calm => simp [calm.failed] at hfailed
    | parting writer deaf failed closed complete => simp [failed] at hfailed
    | stopped writer deaf reason frames => exact .inl (hstopped writer)
    | holding writer deaf failed frames =>
      obtain rfl := Option.some.inj (failed.symm.trans hfailed)
      have hbusy : d.writer ≠ .finished := by simp [writer]
      have hnext : (d.turn t x).Phase t := (Phase.holding writer deaf failed frames).turn x
      obtain ⟨hstill, ⟨hsame, hwritten⟩ | ⟨hfinished, hwritten⟩⟩ := turn_holding (t := t) writer failed x
      · rcases ih hnext hstill with hnone | ⟨-, hlast, hmore⟩
        · exact .inl (hnone.trans hwritten)
        · exact .inr ⟨hbusy, hlast, hmore.trans (by rw [hwritten])⟩
      · obtain ⟨hlast, hrest, -⟩ := run_finished (t := t) hfinished rest
        rcases hwritten with hnone | hone
        · exact .inl (hrest.trans hnone)
        · exact .inr ⟨hbusy, hlast, hrest.trans hone⟩

/-! ## A writer that nothing stops -/

/-- A loop that has ended without a failure and by itself has written everything. -/
theorem Phase.complete (hphase : d.Phase t) (hpings : t.PingsBy d.now) (hended : d.HasEnded)
    (hfailed : d.failed = none) (haborted : d.isAborted = false) : d.Complete := by
  cases hphase with
  | unable writer silent calm => simp [HasEnded, writer] at hended
  | idle writer calm => simp [HasEnded, writer] at hended
  | writing writer calm => simp [HasEnded, writer] at hended
  | parting writer deaf failed closed complete => exact complete
  | holding writer deaf failed frames => simp [failed] at hfailed
  | stopped writer deaf reason frames =>
    rcases reason with hreason | hreason | hreason
    · exact absurd hfailed hreason
    · simp [haborted] at hreason
    · exact absurd hpings hreason

/-- A desk whose queue is closed, whose socket takes everything, and where nothing has gone wrong. -/
structure Winding (t : Timing) (d : Desk) : Prop where
  phase : d.Phase t
  failed : d.failed = none
  isAborted : d.isAborted = false
  closed : d.connection.isOpen = false
  sound : d.wire = .sound

/-- The number of moves that a writer has still to make before it has finished, if no ping comes between. -/
def rank (d : Desk) : Nat :=
  match d.writer with
  | .unable => 1
  | .idle _ => 2 * d.connection.waiting.length + 3
  | .writing message _ _ => if message = .close then 2 else 2 * d.connection.waiting.length + 4
  | .closing _ _ => 1
  | .finished => 0

theorem rank_le (d : Desk) : d.rank ≤ 2 * d.connection.waiting.length + 4 := by
  unfold rank
  split
  · omega
  · omega
  · split <;> omega
  · omega
  · omega

theorem rank_eq_zero_iff (d : Desk) : d.rank = 0 ↔ d.writer = .finished := by
  unfold rank
  split
  · simp_all
  · simp_all
  · split <;> simp_all
  · simp_all
  · simp_all

/-- What others do takes nothing into a closed queue. -/
theorem Winding.rank_beside (hwinding : d.Winding t) (h : d.Beside d') : d'.rank = d.rank := by
  obtain ⟨more, -, hwaiting, hnone⟩ := h.taken
  have hsame : d'.connection.waiting = d.connection.waiting := by
    rw [hwaiting, hnone (by simp [Connection.isClosed, hwinding.closed]), List.append_nil]
  rw [rank, rank, h.writer, hsame]

theorem Winding.beside (hwinding : d.Winding t) (h : d.Beside d') (hsound : d'.wire = .sound) : d'.Winding t :=
  ⟨hwinding.phase.beside h, h.failed.trans hwinding.failed, h.isAborted.trans hwinding.isAborted,
    h.stays hwinding.closed, hsound⟩

/-- Each move brings the end nearer. -/
theorem Winding.rank_move (hwinding : d.Winding t) : (d.turn t .move).rank = d.rank - 1 := by
  cases hwriter : d.writer with
  | unable => simp [rank, turn, Writer.move, hwriter, after, Writer.finish]
  | idle ping =>
    cases hwaiting : d.connection.waiting with
    | nil =>
      simp [rank, turn, Writer.move, hwriter, hwaiting, hwinding.closed, after, Writer.begin]
    | cons frame rest =>
      simp [rank, turn, Writer.move, hwriter, hwaiting, after, Writer.begin]
      omega
  | writing message deadline ping =>
    by_cases hclose : message = .close
    · simp [rank, turn, Writer.move, hwriter, hclose, hwinding.sound, after, Writer.beginClosing]
    · simp [rank, turn, Writer.move, hwriter, hclose, hwinding.sound, after]
  | closing held deadline => simp [rank, turn, Writer.move, hwriter, hwinding.sound, after, Writer.finish]
  | finished => simp [rank, turn, Writer.move, hwriter]

theorem Winding.move (hwinding : d.Winding t) : (d.turn t .move).Winding t := by
  cases hmove : d.writer.move t d.wire d.now d.connection with
  | none => simpa only [Desk.turn, hmove, Option.elim_none] using hwinding
  | some m =>
    have hphase := hwinding.phase.move
    simp only [Desk.turn, hmove, Option.elim_some] at hphase ⊢
    have hdoes := Writer.does_of_move hmove
    generalize hwriter : d.writer = w at hdoes
    refine ⟨hphase, ?_, hwinding.isAborted, ?_, hwinding.sound⟩
    · rw [after_failed, hwinding.failed, Option.none_or, hwriter]
      cases hdoes with
      | fail hunsound => exact absurd hwinding.sound hunsound
      | _ => simp [failure?]
    · have hclosing : d.connection.closeReceiver.isOpen = d.connection.isOpen := by
        unfold Connection.closeReceiver
        split <;> rfl
      rw [after_connection, ← hwinding.closed]
      cases hdoes with
      | ping hwaiting hopen hlate => exact absurd hopen (by simp [hwinding.closed])
      | part hsound => exact hclosing
      | fail hunsound => exact hclosing
      | _ => rfl

theorem Winding.tick (hwinding : d.Winding t) :
    (d.turn t .tick).Winding t ∧ (d.turn t .tick).rank ≤ d.rank + 1 := by
  have hphase := hwinding.phase.tick
  cases hwriter : d.writer with
  | idle due =>
    by_cases hdue : due ≤ d.now
    · simp only [Desk.turn, hwriter, if_pos hdue] at hphase ⊢
      have hfailed (m : Move) : (d.after m).failed = none := by simp [hwinding.failed, failure?, hwriter]
      obtain ⟨next, hping⟩ | ⟨hping, -⟩ := Writer.ping_cases t due d.now d.connection
      · rw [hping] at hphase ⊢
        refine ⟨⟨hphase, hfailed _, hwinding.isAborted, hwinding.closed, hwinding.sound⟩, ?_⟩
        simp [rank, hwriter, after, Writer.begin]
      · rw [hping] at hphase ⊢
        refine ⟨⟨hphase, hfailed _, hwinding.isAborted, hwinding.closed, hwinding.sound⟩, ?_⟩
        simp [rank, hwriter, after, Writer.finish]
    · simp only [Desk.turn, hwriter, if_neg hdue]
      exact ⟨hwinding, Nat.le_succ _⟩
  | _ =>
    simp only [Desk.turn, hwriter]
    exact ⟨hwinding, Nat.le_succ _⟩

/-- A harmless turn leaves a desk winding up; a move brings the end nearer, and only a ping puts it off. -/
theorem Winding.turn (hwinding : d.Winding t) {x : Turn} (hharmless : x.IsHarmless) :
    (d.turn t x).Winding t ∧
      (d.turn t x).rank ≤ d.rank - (if x = .move then 1 else 0) + (if x = .tick then 1 else 0) := by
  have hbeside {d' : Desk} (h : d.Beside d') (hsound : d'.wire = .sound) : d'.Winding t ∧ d'.rank ≤ d.rank :=
    ⟨hwinding.beside h hsound, Nat.le_of_eq (hwinding.rank_beside h)⟩
  cases x with
  | send | close | mark | pass => exact hbeside (beside_turn t d trivial) hwinding.sound
  | wire wire => exact hbeside (beside_turn t d trivial) hharmless
  | move => exact ⟨hwinding.move, by simp [hwinding.rank_move]⟩
  | tick => simpa using hwinding.tick
  | abort => exact hharmless.elim

theorem Winding.run (hwinding : d.Winding t) {later : List Turn} (hharmless : ∀ x ∈ later, x.IsHarmless) : (d.run t later).Winding t := by
  induction later generalizing d with
  | nil => exact hwinding
  | cons x rest ih =>
    exact ih (hwinding.turn (hharmless x List.mem_cons_self)).1
      fun y hy => hharmless y (List.mem_cons_of_mem _ hy)

/-- A desk that is wound up has finished after enough moves, however they and the pings are placed. -/
theorem Winding.finishes (hwinding : d.Winding t) {later : List Turn} (hharmless : ∀ x ∈ later, x.IsHarmless)
    (henough : d.rank + later.count .tick ≤ later.count .move) :
    (d.run t later).writer = .finished := by
  induction later generalizing d with
  | nil => exact (rank_eq_zero_iff d).mp (by simpa using henough)
  | cons x rest ih =>
    by_cases hzero : d.rank = 0
    · exact (run_finished ((rank_eq_zero_iff d).mp hzero) (x :: rest)).1
    · obtain ⟨hnext, hrank⟩ := hwinding.turn (hharmless x List.mem_cons_self)
      refine ih hnext (fun y hy => hharmless y (List.mem_cons_of_mem _ hy)) ?_
      simp only [List.count_cons, beq_iff_eq] at henough
      split at henough <;> split at henough <;> simp_all <;> omega

/--
Whatever happens at the desk of a new connection, in whatever order: the frames that have come out are the
first of those that were queued, in their order. After a write that has failed nothing comes out any more but
the message that could not be written, and that once, when the closing of the socket ends the writer. If no
write has failed, the reader has not ended the writer and the queue is closed, then at the end of the loop all
frames have come out, and a goodbye once, as the last thing, provided that the clock could always tell when
the next ping is due; and the loop does end, after two moves for each frame that waits, one for each ping that
comes between, and four more. Once the loop has ended, every frame that is sent finds the queue closed.
-/
theorem course_keeps_contract (t : Timing) (now : Nanos) (user : UserId) (capacity : Nat) (turns : List Turn) :
    let d := (start t now (.new user capacity)).run t turns
    d.frames <+: d.queued ∧
      (∀ message, d.failed = some message → ∀ later,
        (d.run t later).written = d.written ∨
          d.writer ≠ .finished ∧ (d.run t later).writer = .finished ∧
            (d.run t later).written = d.written ++ [message]) ∧
      (d.failed = none → d.isAborted = false → d.connection.isOpen = false →
        (t.PingsBy d.now → d.HasEnded → d.Complete) ∧
          (d.wire = .sound → ∀ later, (∀ x ∈ later, x.IsHarmless) →
            2 * d.connection.waiting.length + 4 + later.count .tick ≤ later.count .move →
              (d.run t later).HasEnded ∧ (t.PingsBy (d.run t later).now → (d.run t later).Complete))) ∧
      (d.HasEnded → ∀ later frame, ((d.run t later).connection.send frame).2 = .closed) := by
  intro d
  have hphase : d.Phase t := (phase_start t now user capacity).run turns
  refine ⟨hphase.frames_prefix, fun message hfailed later => hphase.after_failure hfailed later, ?undisturbed,
    ?deaf⟩
  case undisturbed =>
    intro hfailed haborted hclosed
    refine ⟨fun hpings hended => hphase.complete hpings hended hfailed haborted, ?_⟩
    intro hsound later hharmless henough
    have hwinding : d.Winding t := ⟨hphase, hfailed, haborted, hclosed, hsound⟩
    have hlater := hwinding.run hharmless
    have hended : (d.run t later).HasEnded :=
      .inr (hwinding.finishes hharmless (by have := d.rank_le; omega))
    exact ⟨hended, fun hpings => hlater.phase.complete hpings hended hlater.failed hlater.isAborted⟩
  case deaf =>
    intro hended later frame
    have hdeaf := (hphase.run later).hasEnded_iff.mp (hended.run later)
    rw [Connection.send_closed (by simp [Connection.isClosed, hdeaf])]

/-- Waiting times of a socket. -/
def patient : Timing where
  sendBuffer := 256
  maxMessageSize := 512
  writeWait := Text.seconds 10
  pongWait := Text.seconds 60
  pingPeriod := Text.seconds 54

/-- Two frames are queued, a ping comes before them, and the queue is closed. -/
def twoFrames : List Turn := [.send "a", .send "b", .pass (Text.seconds 54), .tick, .close]

/-- Both frames come out, and then the goodbye. -/
theorem twoFrames_flushed :
    let d := (start patient 0 (.new 1 256)).run patient twoFrames
    (d.run patient (List.replicate 9 .move)).HasEnded ∧ (d.run patient (List.replicate 9 .move)).Complete := by
  intro d
  obtain ⟨hended, hcomplete⟩ :=
    ((course_keeps_contract patient 0 1 256 twoFrames).2.2.1 (by decide +kernel) (by decide +kernel)
      (by decide +kernel)).2 (by decide +kernel) (List.replicate 9 .move)
      (fun x hx => by rw [List.eq_of_mem_replicate hx]; trivial) (by decide +kernel)
  exact ⟨hended, hcomplete ⟨by decide, by decide +kernel⟩⟩

/-- A frame whose writing takes too long, on a socket that works again later. -/
def stalledFrame : List Turn := [.wire .stalled, .send "a", .move, .pass (Text.seconds 10), .move]

/--
The writing of the frame is given up before anything has come out, and closing the socket lets it out after all.
With settings whose ping period is too long for the clock a writer ends before it has written anything, although
no write has failed and nobody has ended it.
-/
theorem flushed_late_or_never_begun :
    let d := (start patient 0 (.new 1 256)).run patient stalledFrame
    (d.failed = some (.text "a") ∧ d.written = [] ∧
      (d.run patient [.wire .sound, .move]).written = [.text "a"]) ∧
    ∃ t, Timing.ofSettings
        { pongWaitSeconds := 9223372036854775807, pingPeriodSeconds := some 9223372036854775806 } = some t ∧
      let e := (start t (Text.seconds 2) (.new 1 256)).run t [.send "a", .close, .move]
      e.failed = none ∧ e.isAborted = false ∧ e.connection.isOpen = false ∧ e.HasEnded ∧ e.written = [] := by
  intro d
  refine ⟨by decide +kernel, _, rfl, by decide +kernel, by decide +kernel, by decide +kernel, .inr ?_,
    by decide +kernel⟩
  decide +kernel

end Desk

end Parlor.Socket
