import Parlor.Proofs.Socket.ReaderLoop
import Parlor.Proofs.Socket.WriterCourse

/-!
# The desk of a pump

A pump does nothing to its writer but what can happen at a desk: it lets the writer move or ends it, and its
server puts frames into the queue, closes it, marks the connection and takes its time. So every course of a pump
is a course of a desk, and what holds at every desk holds for the writer of a pump.
-/

namespace Parlor.Socket

open Text (Nanos)

variable {σ : Type} {h : Host σ} {setNow : Nanos → σ → σ} {written : σ → List Outbound} {t : Timing}

/-- A turn that a server can take. -/
def Turn.IsServers : Turn → Prop
  | .send _ | .close | .mark | .pass _ => True
  | .wire _ | .move | .tick | .abort => False

namespace Desk

/-- A desk is that of a pump, whose server knows what has been `written`. -/
structure Shows (h : Host σ) (written : σ → List Outbound) (t : Timing) (d : Desk) (x : Pump × σ) : Prop where
  timing : x.1.timing = t
  writer : d.writer = x.1.writer
  wire : d.wire = x.1.wire
  connection : d.connection = h.connection x.2
  now : d.now = h.now x.2
  written : d.written = written x.2

/-- What leads a pump from one state to another can happen at its desk. -/
def Leads (h : Host σ) (written : σ → List Outbound) (t : Timing) (x y : Pump × σ) : Prop :=
  ∀ d : Desk, d.Shows h written t x → ∃ turns, (d.run t turns).Shows h written t y

theorem Leads.refl (x : Pump × σ) : Leads h written t x x := fun _ hshows => ⟨[], hshows⟩

theorem Leads.trans {x y z : Pump × σ} (hxy : Leads h written t x y) (hyz : Leads h written t y z) :
    Leads h written t x z := by
  intro d hshows
  obtain ⟨turns, hturns⟩ := hxy d hshows
  obtain ⟨more, hmore⟩ := hyz _ hturns
  exact ⟨turns ++ more, by rwa [run, List.foldl_append]⟩

/-- A single turn leads from one state to another. -/
theorem Leads.of_turn {x y : Pump × σ} (turn : Turn)
    (hturn : ∀ d : Desk, d.Shows h written t x → (d.turn t turn).Shows h written t y) : Leads h written t x y :=
  fun d hshows => ⟨[turn], hturn d hshows⟩

/-- The reader of a pump may be at anything. -/
theorem Leads.reader {x : Pump × σ} {p : Pump} {s : σ} (hleads : Leads h written t x (p, s)) (reader : Reader) :
    Leads h written t x ({ p with reader }, s) := by
  intro d hshows
  obtain ⟨turns, hturns⟩ := hleads d hshows
  exact ⟨turns, hturns.timing, hturns.writer, hturns.wire, hturns.connection, hturns.now, hturns.written⟩

end Desk

/-- From one state to another a server has taken turns at the desk of a pump. -/
def Host.Serves (h : Host σ) (written : σ → List Outbound) (s s' : σ) : Prop :=
  ∃ turns : List Turn, (∀ x ∈ turns, x.IsServers) ∧
    ∀ (t : Timing) (p : Pump) (d : Desk), d.Shows h written t (p, s) → (d.run t turns).Shows h written t (p, s')

/-- A host that knows what has been written, and whose server works on the sending side of the queue only. -/
structure Host.Attentive (h : Host σ) (setNow : Nanos → σ → σ) (written : σ → List Outbound) : Prop where
  connection_setConnection : ∀ c s, h.connection (h.setConnection c s) = c
  now_setConnection : ∀ c s, h.now (h.setConnection c s) = h.now s
  written_setConnection : ∀ c s, written (h.setConnection c s) = written s
  connection_wrote : ∀ message s, h.connection (h.wrote message s) = h.connection s
  now_wrote : ∀ message s, h.now (h.wrote message s) = h.now s
  written_wrote : ∀ message s, written (h.wrote message s) = written s ++ [message]
  handle : ∀ payload s, h.Serves written s (h.handle payload s)
  unregister : ∀ s, h.Serves written s (h.unregister s)
  setNow : ∀ moment s, h.now s ≤ moment → h.Serves written s (setNow moment s)

theorem Host.Serves.leads {s s' : σ} (hserves : h.Serves written s s') (p : Pump) :
    Desk.Leads h written t (p, s) (p, s') := by
  obtain ⟨turns, -, hturns⟩ := hserves
  exact fun d hshows => ⟨turns, hturns t p d hshows⟩

/-- What else happens to a server are turns that it takes. -/
def Stimulus.IsServed (written : σ → List Outbound) : Stimulus h → Prop
  | .act change _ _ => ∀ s, h.Serves written s (change s)
  | _ => True

namespace Pump

open Desk (Leads)

section Steps

variable (hattentive : h.Attentive setNow written)
include hattentive

/-- A turn that only changes the connection leads to a changed connection. -/
theorem leads_setConnection (turn : Turn) (change : Connection → Connection)
    (hturn : ∀ d : Desk, d.turn t turn = { d with connection := change d.connection }) (p : Pump) (s : σ) :
    Leads h written t (p, s) (p, h.setConnection (change (h.connection s)) s) := by
  refine .of_turn turn fun d hshows => ?_
  rw [hturn]
  refine ⟨hshows.timing, hshows.writer, hshows.wire, ?_, ?_, ?_⟩
  · exact (congrArg change hshows.connection).trans (hattentive.connection_setConnection _ _).symm
  · exact hshows.now.trans (hattentive.now_setConnection _ _).symm
  · exact hshows.written.trans (hattentive.written_setConnection _ _).symm

/-- A connection that is taken out is marked, and its queue is closed. -/
theorem leads_detach (p : Pump) (s : σ) : Leads h written t (p, s) (p, detach h s) := by
  have hmark := leads_setConnection (t := t) hattentive .mark (fun c => c.markUnregistered.1) (fun _ => rfl) p s
  have hclose (s : σ) := leads_setConnection (t := t) hattentive .close (fun c => c.close.1) (fun _ => rfl) p s
  unfold detach
  dsimp only
  split
  · exact hmark.trans (((hattentive.unregister _).leads p).trans (hclose _))
  · exact hmark.trans (hclose _)

/-- A writer is ended at its desk. -/
theorem leads_abort (p : Pump) (s : σ) : Leads h written t (p, s) (p.abort h s) := by
  refine .of_turn .abort fun d hshows => ⟨hshows.timing, rfl, hshows.wire, ?_, ?_, ?_⟩
  · simp only [Desk.turn, abort, hshows.connection, hattentive.connection_setConnection]
  · exact hshows.now.trans (hattentive.now_setConnection _ _).symm
  · exact hshows.written.trans (hattentive.written_setConnection _ _).symm

/-- What a writer does it does at its desk. -/
theorem leads_write (fuel : Nat) (p : Pump) (s : σ) : Leads h written t (p, s) (p.write h fuel s) := by
  induction fuel generalizing p s with
  | zero => exact .refl _
  | succ fuel ih =>
    rw [write]
    split
    case h_1 => exact .refl _
    case h_2 m hmove =>
      refine Leads.trans (.of_turn .move fun d hshows => ?_) (ih _ _)
      have hturn : d.turn t .move = d.after m := by
        rw [Desk.turn, hshows.writer, hshows.wire, hshows.now, hshows.connection, ← hshows.timing, hmove,
          Option.elim_some]
      rw [hturn]
      refine ⟨hshows.timing, rfl, hshows.wire, ?_, ?_, ?_⟩
      · cases m.written with
        | none => exact (hattentive.connection_setConnection _ _).symm
        | some message =>
          exact ((hattentive.connection_wrote _ _).trans (hattentive.connection_setConnection _ _)).symm
      · cases m.written with
        | none => exact hshows.now.trans (hattentive.now_setConnection _ _).symm
        | some message =>
          exact hshows.now.trans ((hattentive.now_wrote _ _).trans (hattentive.now_setConnection _ _)).symm
      · rw [Desk.after_written, hshows.written]
        cases m.written with
        | none => simp [hattentive.written_setConnection]
        | some message => simp [hattentive.written_wrote, hattentive.written_setConnection]

/-- A reader that leaves takes its turns at the desk. -/
theorem leads_leave (exit : Exit) (p : Pump) (s : σ) : Leads h written t (p, s) (p.leave h exit s) := by
  have hdetach := leads_detach (t := t) hattentive p s
  unfold leave
  dsimp only
  split
  · exact (hdetach.trans (leads_abort hattentive p _)).reader _
  · exact hdetach.reader _

theorem leads_receive (p : Pump) (s : σ) (frame : Inbound) : Leads h written t (p, s) (p.receive h s frame) := by
  have hreader (reader : Reader) : Leads h written t (p, s) ({ p with reader }, s) := Leads.reader (.refl _) reader
  unfold receive
  dsimp only
  split
  · exact hreader _
  · exact (hreader _).trans ((hattentive.handle _ _).leads _)
  · exact (hreader _).trans (leads_leave hattentive _ _ _)

theorem leads_wake (p : Pump) (s : σ) : Leads h written t (p, s) (p.wake h s) := by
  unfold wake
  split
  case h_1 => exact (leads_detach hattentive p s).reader _
  case h_2 => exact Leads.reader (.refl _) _
  case h_3 =>
    split
    · exact leads_leave hattentive _ p s
    · exact .refl _
  case h_4 =>
    split
    · exact (leads_abort hattentive p s).reader _
    · exact .refl _
  case h_5 | h_6 => exact .refl _

theorem leads_settle (p : Pump) (s : σ) : Leads h written t (p, s) (p.settle h s) := by
  have hround (p : Pump) (s : σ) :
      Leads h written t (p, s) ((p.writeAll h s).1.wake h (p.writeAll h s).2) :=
    (leads_write hattentive _ p s).trans (leads_wake hattentive _ _)
  exact (hround p s).trans (hround _ _)

theorem leads_receiveAll (p : Pump) (s : σ) (frames : List Inbound) :
    Leads h written t (p, s) (p.receiveAll h s frames) := by
  induction frames generalizing p s with
  | nil => exact leads_settle hattentive p s
  | cons frame rest ih => exact (leads_receive hattentive p s frame).trans (ih _ _)

theorem leads_pass (until_ : Nanos) (p : Pump) (s : σ) : Leads h written t (p, s) (p.pass h setNow until_ s) := by
  have hpassed : Leads h written t (p, s) (p, setNow (max (p.stopBefore until_) (h.now s)) s) :=
    (hattentive.setNow _ s (Nat.le_max_right _ _)).leads p
  unfold pass
  dsimp only
  split
  · exact hpassed.trans (leads_settle hattentive _ _)
  · exact hpassed

/-- Whatever happens to a pump from outside happens at its desk. -/
theorem leads_meet {e : Stimulus h} (hserved : e.IsServed written) (x : Pump × σ) :
    Leads h written t x (meet h setNow x e) := by
  obtain ⟨p, s⟩ := x
  cases e with
  | arrive frames => exact leads_receiveAll hattentive p s frames
  | pass until_ => exact leads_pass hattentive until_ p s
  | quit => exact (leads_abort hattentive p s).trans (leads_settle hattentive _ _)
  | wire wire =>
    refine Leads.trans (.of_turn (.wire wire) fun d hshows => ?_) (leads_settle hattentive _ s)
    exact ⟨hshows.timing, hshows.writer, rfl, hshows.connection, hshows.now, hshows.written⟩
  | act change _ _ => exact ((hserved s).leads p).trans (leads_settle hattentive p _)

/-- Every course of a pump is a course of the desk at which its writer starts. -/
theorem course_at_desk (t : Timing) {s : σ} (hnothing : written s = []) {stimuli : List (Stimulus h)}
    (hserved : ∀ e ∈ stimuli, e.IsServed written) :
    ∃ turns, ((Desk.start t (h.now s) (h.connection s)).run t turns).Shows h written t
      (course h setNow t s stimuli) := by
  have hmeets (x : Pump × σ) : Leads h written t x (stimuli.foldl (meet h setNow) x) := by
    induction stimuli generalizing x with
    | nil => exact .refl x
    | cons e rest ih =>
      obtain ⟨he, hrest⟩ := List.forall_mem_cons.mp hserved
      exact (leads_meet hattentive he x).trans (ih hrest _)
  have hleads := (leads_settle (t := t) hattentive (start t (h.now s)) s).trans (hmeets _)
  exact hleads _ ⟨rfl, rfl, rfl, rfl, rfl, hnothing.symm⟩

/-- A pump whose writer has left its loop has a queue that takes nothing more. -/
theorem isClosed_of_left {user : UserId} {capacity : Nat} (t : Timing) {s : σ} (hnothing : written s = [])
    (hnew : h.connection s = .new user capacity) {stimuli : List (Stimulus h)}
    (hserved : ∀ e ∈ stimuli, e.IsServed written)
    (hleft : let p := (course h setNow t s stimuli).1
      (∃ held deadline, p.writer = .closing held deadline) ∨ p.writer = .finished) :
    (h.connection (course h setNow t s stimuli).2).isClosed = true := by
  obtain ⟨turns, hshows⟩ := course_at_desk hattentive t hnothing hserved
  rw [hnew] at hshows
  have hphase := (Desk.phase_start t (h.now s) user capacity).run turns
  have hdeaf := hphase.hasEnded_iff.mp (by rwa [Desk.HasEnded, hshows.writer])
  rw [hshows.connection] at hdeaf
  simp [Connection.isClosed, hdeaf]

end Steps

end Pump

/-- A server that is a clock and a connection, answers every frame, and notes what is written. -/
def answeringHost : Host (Nanos × Connection × List Outbound) where
  now s := s.1
  connection s := s.2.1
  setConnection c s := (s.1, c, s.2.2)
  handle _ s := (s.1, (s.2.1.send "seen").1, s.2.2)
  unregister s := s
  wrote message s := (s.1, s.2.1, s.2.2 ++ [message])

theorem answeringHost_attentive : answeringHost.Attentive (fun moment s => (moment, s.2)) (fun s => s.2.2) := by
  refine ⟨fun _ _ => rfl, fun _ _ => rfl, fun _ _ => rfl, fun _ _ => rfl, fun _ _ => rfl, fun _ _ => rfl,
    fun payload s => ⟨[.send "seen"], by simp [Turn.IsServers], fun t p d hshows => ?_⟩,
    fun s => ⟨[], by simp, fun t p d hshows => hshows⟩,
    fun moment s hpast => ⟨[.pass (moment - s.1)], by simp [Turn.IsServers], fun t p d hshows => ?_⟩⟩
  · refine ⟨hshows.timing, hshows.writer, hshows.wire, ?_, hshows.now, hshows.written⟩
    exact congrArg (fun c : Connection => (c.send "seen").1) hshows.connection
  · refine ⟨hshows.timing, hshows.writer, hshows.wire, hshows.connection, ?_, hshows.written⟩
    exact (congrArg (· + (moment - s.1)) hshows.now).trans (Nat.add_sub_cancel' hpast)

/-- The answer to the one frame that comes in before the peer leaves is written, and then the goodbye. -/
example :
    (Pump.course answeringHost (fun moment s => (moment, s.2)) Desk.patient (0, .new 1 8, [])
      [.arrive [.data [1], .close]]).2.2.2 = [.text "seen", .close] := by
  decide +kernel

end Parlor.Socket
