import Parlor.Proofs.Socket.Endings
import Parlor.Socket.Pump

/-!
# A pump on a server that keeps a record

What each step of a pump asks of its server, read off a host that takes note of every call. The record
changes nothing: a pump depends on its server only as far as the host shows it. The writer asks for nothing
that matters to the reader, and a reader that stops takes the connection out before it closes the queue.
-/

namespace Parlor.Socket

open Json (Bytes)
open Text (Nanos)

variable {σ : Type}

/-! ## A server that keeps a record -/

/-- A server, and what has been asked of it and when. -/
structure Traced (σ : Type) where
  state : σ
  calls : List (Nanos × Call) := []

/-- Moves the clock of a server. -/
def Traced.setNow (setNow : Nanos → σ → σ) (moment : Nanos) (s : Traced σ) : Traced σ :=
  { s with state := setNow moment s.state }

/-- A host that records what is asked of it. -/
def Host.traced (h : Host σ) : Host (Traced σ) where
  now s := h.now s.state
  connection s := h.connection s.state
  setConnection c s :=
    { state := h.setConnection c s.state
      calls := s.calls ++ if (h.connection s.state).isOpen && !c.isOpen then [(h.now s.state, .closed)] else [] }
  handle payload s := { state := h.handle payload s.state, calls := s.calls ++ [(h.now s.state, .handled payload)] }
  unregister s :=
    let state := h.unregister s.state
    { state, calls := s.calls ++ [(h.now s.state, .unregistered (h.connection state).isOpen)] }
  wrote message s := { s with state := h.wrote message s.state }

/-- Nobody has set about taking the connection of a server out. -/
def Host.IsFresh (h : Host σ) (s : σ) : Prop := (h.connection s).isUnregistered = false

/--
A host whose clock can be moved forward, and stands still except while a connection is taken out. It leaves it
to the pump to mark the connection.
-/
structure Host.Orderly (h : Host σ) (setNow : Nanos → σ → σ) : Prop where
  setConnection : ∀ c s, h.now (h.setConnection c s) = h.now s
  wrote : ∀ message s, h.now (h.wrote message s) = h.now s
  handle : ∀ payload s, h.now (h.handle payload s) = h.now s
  unregister : ∀ s, h.now s ≤ h.now (h.unregister s)
  fresh_setConnection : ∀ c s, c.isUnregistered = false → h.IsFresh (h.setConnection c s)
  fresh_wrote : ∀ message s, h.IsFresh s → h.IsFresh (h.wrote message s)
  fresh_handle : ∀ payload s, h.IsFresh s → h.IsFresh (h.handle payload s)
  fresh_setNow : ∀ moment s, h.IsFresh s → h.IsFresh (setNow moment s)
  setNow : ∀ moment s, h.now s ≤ moment → h.now (setNow moment s) = moment

/-! ## Looking at a server through another -/

/-- Seen through a view, the server of one host is that of another. -/
structure Host.Views {τ : Type} (h : Host σ) (k : Host τ) (view : σ → τ) : Prop where
  now : ∀ s, k.now (view s) = h.now s
  connection : ∀ s, k.connection (view s) = h.connection s
  setConnection : ∀ c s, view (h.setConnection c s) = k.setConnection c (view s)
  handle : ∀ payload s, view (h.handle payload s) = k.handle payload (view s)
  unregister : ∀ s, view (h.unregister s) = k.unregister (view s)
  wrote : ∀ message s, view (h.wrote message s) = k.wrote message (view s)

/-- A server that keeps a record is the server, if one does not look at the record. -/
theorem Host.traced_views (h : Host σ) : h.traced.Views h Traced.state :=
  ⟨fun _ => rfl, fun _ => rfl, fun _ _ => rfl, fun _ _ => rfl, fun _ => rfl, fun _ _ => rfl⟩

namespace Pump

section Views

variable {τ : Type} {h : Host σ} {k : Host τ} {view : σ → τ} (hview : h.Views k view)
include hview

/-- Writing is seen as writing. -/
theorem write_view (fuel : Nat) (p : Pump) (s : σ) :
    (p.write h fuel s).map id view = p.write k fuel (view s) := by
  induction fuel generalizing p s with
  | zero => rfl
  | succ fuel ih =>
    rw [write, write, hview.now, hview.connection]
    split
    case h_1 => rfl
    case h_2 m _ =>
      rw [ih, ← hview.setConnection]
      cases m.written with
      | none => rfl
      | some message =>
        rw [Option.elim_some, hview.wrote]
        rfl

/-- Ending the writer is seen as that. -/
theorem abort_view (p : Pump) (s : σ) : (p.abort h s).map id view = p.abort k (view s) := by
  rw [abort, abort, hview.connection, ← hview.setConnection]
  rfl

/-- Taking a connection out is seen as that. -/
theorem detach_view (s : σ) : view (detach h s) = detach k (view s) := by
  have hchange (change : Connection → Connection) (s : σ) :
      view (h.setConnection (change (h.connection s)) s) =
        k.setConnection (change (k.connection (view s))) (view s) := by
    rw [hview.setConnection, hview.connection]
  unfold detach
  dsimp only
  rw [← hchange fun c => c.markUnregistered.1, hview.connection s]
  split
  · rw [← hview.unregister]
    exact hchange (fun c => c.close.1) _
  · exact hchange (fun c => c.close.1) _

/-- Leaving is seen as leaving. -/
theorem leave_view (exit : Exit) (p : Pump) (s : σ) : (p.leave h exit s).map id view = p.leave k exit (view s) := by
  unfold leave
  dsimp only
  rw [← detach_view hview, ← abort_view hview, hview.now]
  split <;> rfl

/-- Waking is seen as waking. -/
theorem wake_view (p : Pump) (s : σ) : (p.wake h s).map id view = p.wake k (view s) := by
  unfold wake
  rw [← detach_view hview, ← abort_view hview, ← leave_view hview, hview.now]
  split
  case h_1 | h_2 | h_5 | h_6 => rfl
  case h_3 | h_4 => split <;> rfl

/-- Settling is seen as settling. -/
theorem settle_view (p : Pump) (s : σ) : (p.settle h s).map id view = p.settle k (view s) := by
  have hround (p : Pump) (s : σ) : ((p.writeAll h s).1.wake h (p.writeAll h s).2).map id view =
      (p.writeAll k (view s)).1.wake k (p.writeAll k (view s)).2 := by
    rw [wake_view hview, writeAll, writeAll, ← write_view hview, hview.connection]
    rfl
  have hsettle : p.settle k (view s) =
      (((p.writeAll k (view s)).1.wake k (p.writeAll k (view s)).2).1.writeAll k
          ((p.writeAll k (view s)).1.wake k (p.writeAll k (view s)).2).2).1.wake k
        (((p.writeAll k (view s)).1.wake k (p.writeAll k (view s)).2).1.writeAll k
          ((p.writeAll k (view s)).1.wake k (p.writeAll k (view s)).2).2).2 := rfl
  rw [hsettle, ← hround p s]
  exact hround _ _

/-- Receiving is seen as receiving. -/
theorem receive_view (p : Pump) (s : σ) (frame : Inbound) :
    (p.receive h s frame).map id view = p.receive k (view s) frame := by
  unfold receive
  dsimp only
  rw [hview.now]
  split
  case h_1 => rfl
  case h_2 => rw [← hview.handle]; rfl
  case h_3 => exact leave_view hview _ _ _

/-- Receiving several frames is seen as that. -/
theorem receiveAll_view (p : Pump) (s : σ) (frames : List Inbound) :
    (p.receiveAll h s frames).map id view = p.receiveAll k (view s) frames := by
  induction frames generalizing p s with
  | nil => exact settle_view hview p s
  | cons frame rest ih =>
    rw [receiveAll, receiveAll, ← receive_view hview]
    exact ih _ _

/-- The passing of time is seen as that, if it is on the clock. -/
theorem pass_view {setNow : Nanos → σ → σ} {setNow' : Nanos → τ → τ}
    (hclock : ∀ moment s, view (setNow moment s) = setNow' moment (view s)) (until_ : Nanos) (p : Pump) (s : σ) :
    (p.pass h setNow until_ s).map id view = p.pass k setNow' until_ (view s) := by
  unfold pass
  dsimp only
  rw [hview.now, ← hclock]
  split
  · exact settle_view hview _ _
  · rfl

end Views

end Pump

/-! ## The writer -/

/-- Writing does not touch the sending side of a queue. -/
theorem Writer.move_keeps {t : Timing} {wire : Wire} {now : Nanos} {c : Connection} {w : Writer} {m : Move}
    (h : w.move t wire now c = some m) :
    m.connection.isOpen = c.isOpen ∧ m.connection.isUnregistered = c.isUnregistered := by
  have hclosing (held : Option Outbound) :
      (beginClosing t now held c).connection.isOpen = c.isOpen ∧
        (beginClosing t now held c).connection.isUnregistered = c.isUnregistered := by
    simp only [beginClosing, Connection.closeReceiver]
    split <;> exact ⟨rfl, rfl⟩
  have hping (due : Nanos) :
      (ping t due now c).connection.isOpen = c.isOpen ∧
        (ping t due now c).connection.isUnregistered = c.isUnregistered := by
    unfold ping
    cases nextPing? t due now <;> exact ⟨rfl, rfl⟩
  unfold move at h
  repeat' split at h
  all_goals first
    | contradiction
    | obtain rfl := Option.some.inj h
      first
        | exact ⟨rfl, rfl⟩
        | exact hping _
        | exact hclosing none

/-- A reader has stopped, and not because of its writer. -/
def Reader.hasStopped : Reader → Bool
  | .leaving exit _ | .left exit => exit != .writerExited
  | .reading _ | .broken => false

namespace Pump

/-- A writer that has finished stays so, and the reader has stopped by then if it had. -/
def KeepsEnd (p p' : Pump) : Prop :=
  p.writer = .finished → p'.writer = .finished ∧ p'.reader.hasStopped = p.reader.hasStopped

theorem KeepsEnd.refl (p : Pump) : p.KeepsEnd p := fun hwriter => ⟨hwriter, rfl⟩

theorem KeepsEnd.trans {p p' p'' : Pump} (h : p.KeepsEnd p') (h' : p'.KeepsEnd p'') : p.KeepsEnd p'' := by
  intro hwriter
  obtain ⟨hwriter', hstopped⟩ := h hwriter
  obtain ⟨hwriter'', hstopped'⟩ := h' hwriter'
  exact ⟨hwriter'', hstopped'.trans hstopped⟩

/-- Nothing has happened but to the writer and to the receiving side of its queue. -/
structure OnlyWrites (h : Host σ) (p : Pump) (s : Traced σ) (p' : Pump) (s' : Traced σ) : Prop where
  timing : p'.timing = p.timing
  reader : p'.reader = p.reader
  now : h.now s'.state = h.now s.state
  calls : s'.calls = s.calls
  fresh : h.IsFresh s.state → h.IsFresh s'.state
  finished : p.writer = .finished → p'.writer = .finished

theorem OnlyWrites.keepsEnd {h : Host σ} {p p' : Pump} {s s' : Traced σ} (hwrites : OnlyWrites h p s p' s') :
    p.KeepsEnd p' := fun hwriter => ⟨hwrites.finished hwriter, by rw [hwrites.reader]⟩

section Steps

variable {h : Host σ} {setNow : Nanos → σ → σ} (horderly : h.Orderly setNow)
include horderly

/-- Giving a connection back that is as open as before is no call. -/
theorem setConnection_quiet {c : Connection} {s : Traced σ} (hopen : c.isOpen = (h.connection s.state).isOpen) :
    h.now (h.traced.setConnection c s).state = h.now s.state ∧ (h.traced.setConnection c s).calls = s.calls := by
  refine ⟨horderly.setConnection c s.state, ?_⟩
  simp [Host.traced, hopen]

/-- A writer that moves does nothing else. -/
theorem write_onlyWrites (fuel : Nat) (p : Pump) (s : Traced σ) :
    OnlyWrites h p s (p.write h.traced fuel s).1 (p.write h.traced fuel s).2 := by
  induction fuel generalizing p s with
  | zero => exact ⟨rfl, rfl, rfl, rfl, id, id⟩
  | succ fuel ih =>
    rw [write]
    split
    case h_1 => exact ⟨rfl, rfl, rfl, rfl, id, id⟩
    case h_2 m hmove =>
      obtain ⟨hopen, hmark⟩ := Writer.move_keeps hmove
      obtain ⟨hnow, hcalls⟩ := setConnection_quiet horderly (s := s) hopen
      have hrest := ih { p with writer := m.writer, isSocketClosed := p.isSocketClosed || m.closes }
        (m.written.elim (h.traced.setConnection m.connection s) fun message =>
          h.traced.wrote message (h.traced.setConnection m.connection s))
      refine ⟨hrest.timing, hrest.reader, hrest.now.trans ?_, hrest.calls.trans ?_, fun hfresh => hrest.fresh ?_,
        fun hfinished => ?_⟩
      · cases m.written with
        | none => exact hnow
        | some message => exact (horderly.wrote message _).trans hnow
      · cases m.written <;> exact hcalls
      · have hgiven := horderly.fresh_setConnection m.connection s.state (hmark.trans hfresh)
        cases m.written with
        | none => exact hgiven
        | some message => exact horderly.fresh_wrote message _ hgiven
      · rw [hfinished] at hmove
        contradiction

/-- A writer that is ended does nothing else. -/
theorem abort_onlyWrites (p : Pump) (s : Traced σ) :
    OnlyWrites h p s (p.abort h.traced s).1 (p.abort h.traced s).2 := by
  obtain ⟨hnow, hcalls⟩ := setConnection_quiet horderly (c := (h.connection s.state).dropReceiver.1) (s := s) rfl
  exact ⟨rfl, rfl, hnow, hcalls, fun hfresh => horderly.fresh_setConnection _ _ hfresh, fun _ => rfl⟩

/-- Taking a connection out for the first time makes the last calls, and may take time. -/
theorem detach_calls {s : Traced σ} (hfresh : h.IsFresh s.state) :
    h.now s.state ≤ h.now (detach h.traced s).state ∧ ∃ isOpen,
      (detach h.traced s).calls = s.calls ++ parting (h.now s.state) isOpen (h.now (detach h.traced s).state) := by
  let marked := h.traced.setConnection (h.connection s.state).markUnregistered.1 s
  obtain ⟨hmarked, hcalls⟩ := setConnection_quiet horderly
    (c := (h.connection s.state).markUnregistered.1) (s := s) rfl
  have hfirst : (h.connection s.state).markUnregistered.2 = true := by
    rw [Connection.markUnregistered, hfresh, Bool.not_false]
  have hdetach : detach h.traced s =
      h.traced.setConnection (h.connection (h.unregister marked.state)).close.1 (h.traced.unregister marked) := by
    have hunfold : detach h.traced s =
        let next := if (h.connection s.state).markUnregistered.2 then h.traced.unregister marked else marked
        h.traced.setConnection (h.traced.connection next).close.1 next := rfl
    rw [hunfold, if_pos hfirst]
    rfl
  have hnow : h.now (detach h.traced s).state = h.now (h.unregister marked.state) := by
    rw [hdetach]
    exact horderly.setConnection _ _
  refine ⟨?_, (h.connection (h.unregister marked.state)).isOpen, ?_⟩
  · rw [hnow, ← hmarked]
    exact horderly.unregister marked.state
  · rw [hnow, parting, hdetach, ← hcalls, ← hmarked]
    simp [marked, Host.traced, Connection.close]

/-- A reader that leaves makes the last calls. -/
theorem leave_calls (exit : Exit) (p : Pump) {s : Traced σ} (hfresh : h.IsFresh s.state) :
    let next := p.leave h.traced exit s
    h.now s.state ≤ h.now next.2.state ∧ ∃ isOpen,
      next.2.calls = s.calls ++ parting (h.now s.state) isOpen (h.now next.2.state) := by
  have hdetach := detach_calls horderly hfresh
  intro next
  by_cases hwait : p.timing.writeWait = 0
  · have hnext : next = ({ (p.abort h.traced (detach h.traced s)).1 with reader := .left exit },
        (p.abort h.traced (detach h.traced s)).2) := if_pos hwait
    have habort := abort_onlyWrites horderly p (detach h.traced s)
    rw [hnext, habort.now, habort.calls]
    exact hdetach
  · have hnext : next.2 = detach h.traced s := congrArg Prod.snd (if_neg hwait)
    rw [hnext]
    exact hdetach

end Steps

/-! ## Receiving -/

/-- A reader that is not reading takes nothing in. -/
theorem receive_of_not_reading {h : Host σ} {p : Pump} (hreader : ∀ due, p.reader ≠ .reading due) (s : σ)
    (frame : Inbound) : p.receive h s frame = (p, s) := by
  obtain ⟨timing, wire, reader, writer, isSocketClosed⟩ := p
  cases reader with
  | reading due => exact absurd rfl (hreader due)
  | leaving | left | broken => cases frame <;> rfl

/-- A pong starts the time of the reader anew. -/
theorem receive_pong {h : Host σ} {p : Pump} {due : Nanos} (hreader : p.reader = .reading due) (s : σ) :
    p.receive h s .pong = ({ p with reader := .start p.timing (h.now s) }, s) := by
  obtain ⟨timing, wire, reader, writer, isSocketClosed⟩ := p
  obtain rfl : reader = .reading due := hreader
  rfl

/-- Any other frame is handed on, ends the reader, or is nothing to it. -/
theorem receive_reading {h : Host σ} {p : Pump} {due : Nanos} (hreader : p.reader = .reading due) {frame : Inbound}
    (hframe : frame ≠ .pong) (s : σ) :
    p.receive h s frame =
      match Reader.reaction p.timing frame with
      | .pass => (p, s)
      | .handle payload => (p, h.handle payload s)
      | .leave exit => p.leave h exit s := by
  obtain ⟨timing, wire, reader, writer, isSocketClosed⟩ := p
  obtain rfl : reader = .reading due := hreader
  cases frame with
  | pong => contradiction
  | data | ping | close | ended | failure => rfl

/-! ## Waking -/

/-- A reader with a writer sees whether its time is up. -/
theorem wake_reading {h : Host σ} {p : Pump} {due : Nanos} (hreader : p.reader = .reading due)
    (hwriter : p.writer ≠ .finished) (s : σ) :
    p.wake h s = if due ≤ h.now s then p.leave h .deadlineExpired s else (p, s) := by
  unfold wake
  rw [hreader]
  cases hcase : p.writer with
  | finished => exact absurd hcase hwriter
  | unable | idle | writing | closing => rfl

/-- A reader without a writer leaves. -/
theorem wake_bereft {h : Host σ} {p : Pump} {due : Nanos} (hreader : p.reader = .reading due)
    (hwriter : p.writer = .finished) (s : σ) :
    p.wake h s = ({ p with reader := .left .writerExited }, detach h s) := by
  unfold wake
  rw [hreader, hwriter]

/-- A reader that waits for its writer sees whether it has finished, and ends it when its patience is up. -/
theorem wake_leaving {h : Host σ} {p : Pump} {exit : Exit} {patience : Nanos}
    (hreader : p.reader = .leaving exit patience) (s : σ) :
    p.wake h s =
      if p.writer = .finished then ({ p with reader := .left exit }, s)
      else if patience ≤ h.now s then ({ (p.abort h s).1 with reader := .left exit }, (p.abort h s).2)
      else (p, s) := by
  unfold wake
  rw [hreader]
  cases p.writer <;> rfl

/-- A reader that has left sees nothing. -/
theorem wake_left {h : Host σ} {p : Pump} {exit : Exit} (hreader : p.reader = .left exit) (s : σ) :
    p.wake h s = (p, s) := by
  unfold wake
  rw [hreader]

/-- A reader that is gone sees nothing. -/
theorem wake_broken {h : Host σ} {p : Pump} (hreader : p.reader = .broken) (s : σ) : p.wake h s = (p, s) := by
  unfold wake
  rw [hreader]

/-- Waking the reader does not bring a writer back, and makes no difference to when the reader has stopped. -/
theorem wake_keepsEnd {h : Host σ} (p : Pump) (s : σ) : p.KeepsEnd (p.wake h s).1 := by
  intro hwriter
  cases hreader : p.reader with
  | reading due => rw [wake_bereft hreader hwriter]; exact ⟨hwriter, rfl⟩
  | leaving exit patience => rw [wake_leaving hreader, if_pos hwriter]; exact ⟨hwriter, rfl⟩
  | left exit => rw [wake_left hreader]; exact ⟨hwriter, by rw [hreader]⟩
  | broken => rw [wake_broken hreader]; exact ⟨hwriter, by rw [hreader]⟩

/-- Neither side of a pump is behind its time: the reader's is not up, and a reader that reads has a writer. -/
structure AtRest (h : Host σ) (p : Pump) (s : Traced σ) : Prop where
  prompt : ∀ due, p.reader.due? = some due → h.now s.state < due
  attended : ∀ due, p.reader = .reading due → p.writer ≠ .finished

/-- A reader that has left is at rest. -/
theorem atRest_of_left {h : Host σ} {p : Pump} {exit : Exit} (hreader : p.reader = .left exit) (s : Traced σ) :
    AtRest h p s := by
  constructor <;> simp [hreader, Reader.due?]

/-- A reader that is gone is at rest. -/
theorem atRest_of_broken {h : Host σ} {p : Pump} (hreader : p.reader = .broken) (s : Traced σ) : AtRest h p s := by
  constructor <;> simp [hreader, Reader.due?]

/-- A reader that leaves waits no longer than a write may take. -/
theorem leave_reader (h : Host σ) (exit : Exit) (p : Pump) (s : Traced σ) :
    let next := p.leave h.traced exit s
    next.1.timing = p.timing ∧
      (next.1.reader = .left exit ∨
        0 < p.timing.writeWait ∧
          next.1.reader = .leaving exit (Clock.limit (h.now next.2.state) p.timing.writeWait)) := by
  intro next
  by_cases hwait : p.timing.writeWait = 0
  · have hnext : next = ({ (p.abort h.traced (detach h.traced s)).1 with reader := .left exit },
        (p.abort h.traced (detach h.traced s)).2) := if_pos hwait
    rw [hnext]
    exact ⟨rfl, .inl rfl⟩
  · have hnext : next =
        ({ p with reader := .leaving exit (Clock.limit (h.now (detach h.traced s).state) p.timing.writeWait) },
          detach h.traced s) := if_neg hwait
    rw [hnext]
    exact ⟨rfl, .inr ⟨Nat.pos_of_ne_zero hwait, rfl⟩⟩

/-- A reader that leaves has stopped, unless its writer is the reason. -/
theorem leave_hasStopped (h : Host σ) {exit : Exit} (hexit : exit ≠ .writerExited) (p : Pump) (s : Traced σ) :
    (p.leave h.traced exit s).1.reader.hasStopped = true := by
  obtain ⟨-, hleft | ⟨-, hleaving⟩⟩ := leave_reader h exit p s
  · rw [hleft, Reader.hasStopped, bne_iff_ne]
    exact hexit
  · rw [hleaving, Reader.hasStopped, bne_iff_ne]
    exact hexit

/-- A reader that leaves is at rest, for it waits some time or not at all. -/
theorem leave_atRest (h : Host σ) (exit : Exit) (p : Pump) (s : Traced σ) :
    AtRest h (p.leave h.traced exit s).1 (p.leave h.traced exit s).2 := by
  obtain ⟨-, hleft | ⟨hpositive, hleaving⟩⟩ := leave_reader h exit p s
  · exact atRest_of_left hleft _
  · refine ⟨fun due hdue => ?_, fun due hdue => ?_⟩
    · rw [hleaving, Reader.due?, Option.some.injEq] at hdue
      rw [← hdue]
      exact Clock.lt_limit hpositive
    · rw [hleaving] at hdue
      contradiction

/-- A pump whose reader has been woken is at rest. -/
theorem wake_atRest (h : Host σ) (p : Pump) (s : Traced σ) : AtRest h (p.wake h.traced s).1 (p.wake h.traced s).2 := by
  cases hreader : p.reader with
  | reading due =>
    by_cases hwriter : p.writer = .finished
    · rw [wake_bereft hreader hwriter]
      exact atRest_of_left rfl _
    · rw [wake_reading hreader hwriter]
      split
      case isTrue => exact leave_atRest h .deadlineExpired p s
      case isFalse hearly =>
        refine ⟨fun other hdue => ?_, fun _ _ => hwriter⟩
        rw [hreader, Reader.due?, Option.some.injEq] at hdue
        exact hdue ▸ Nat.lt_of_not_le hearly
  | leaving exit patience =>
    rw [wake_leaving hreader]
    split
    · exact atRest_of_left rfl _
    split
    case isTrue => exact atRest_of_left rfl _
    case isFalse hearly =>
      refine ⟨fun due hdue => ?_, fun due hdue => ?_⟩
      · rw [hreader, Reader.due?, Option.some.injEq] at hdue
        exact hdue ▸ Nat.lt_of_not_le hearly
      · rw [hreader] at hdue
        contradiction
  | left exit =>
    rw [wake_left hreader]
    exact atRest_of_left hreader s
  | broken =>
    rw [wake_broken hreader]
    exact atRest_of_broken hreader s

end Pump

end Parlor.Socket
