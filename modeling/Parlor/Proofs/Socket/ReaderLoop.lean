import Parlor.Proofs.Socket.Recording

/-!
# The loop of a reader

A pump on any server, whatever comes in and however its writer fares. The server is asked for the data that
come in before the reader ends, and then once to take the connection out, after which the queue is closed.
The reason that the pump gives is the one that its log gives. A reader whose deadline is too late for the
clock breaks down instead, and then nothing more is asked of the server.
-/

namespace Parlor.Socket

open Json (Bytes)
open Text (Nanos)

variable {σ : Type}

/-! ## What occurs to a pump -/

/-- What happens to a pump from outside. -/
inductive Stimulus (h : Host σ) where
  /-- Frames that have come in together are taken in. -/
  | arrive (frames : List Inbound)
  /-- Time passes up to a moment, or up to what is due before. -/
  | pass (until_ : Nanos)
  /-- The writer comes to its end, for whatever reason. -/
  | quit
  | wire (wire : Wire)
  /-- Something else happens to the server or the connection, in no time; only pumps mark connections. -/
  | act (change : σ → σ) (instant : ∀ s, h.now (change s) = h.now s)
    (unmarked : ∀ s, h.IsFresh s → h.IsFresh (change s))

/-- The frames that come in with a stimulus. -/
def Stimulus.frames {h : Host σ} : Stimulus h → List Inbound
  | .arrive frames => frames
  | _ => []

/-- What a stimulus leads to for a pump and its server. -/
def Pump.meet (h : Host σ) (setNow : Nanos → σ → σ) (x : Pump × σ) : Stimulus h → Pump × σ
  | .arrive frames => x.1.receiveAll h x.2 frames
  | .pass until_ => x.1.pass h setNow until_ x.2
  | .quit =>
    let (p, s) := x.1.abort h x.2
    p.settle h s
  | .wire wire => Pump.settle h { x.1 with wire } x.2
  | .act change _ _ => x.1.settle h (change x.2)

/-- A pump that starts now, and its server, after several stimuli. -/
def Pump.course (h : Host σ) (setNow : Nanos → σ → σ) (t : Timing) (s : σ) (stimuli : List (Stimulus h)) : Pump × σ :=
  stimuli.foldl (Pump.meet h setNow) ((Pump.start t (h.now s)).settle h s)

/-- Waiting is letting time pass from one thing that is due to the next. -/
theorem Pump.wait_passes (h : Host σ) (setNow : Nanos → σ → σ) (span : Nanos) (p : Pump) (s : σ) :
    ∃ passes : List (Stimulus h), (∀ e ∈ passes, ∃ until_, e = .pass until_) ∧
      p.wait h setNow span s = passes.foldl (Pump.meet h setNow) (p, s) := by
  have hadvance (until_ : Nanos) (fuel : Nat) (p : Pump) (s : σ) :
      ∃ passes : List (Stimulus h), (∀ e ∈ passes, ∃ until_, e = .pass until_) ∧
        p.advance h setNow until_ fuel s = passes.foldl (Pump.meet h setNow) (p, s) := by
    induction fuel generalizing p s with
    | zero => exact ⟨[], by simp, rfl⟩
    | succ fuel ih =>
      obtain ⟨passes, hpasses, hrest⟩ := ih (p.pass h setNow until_ s).1 (p.pass h setNow until_ s).2
      rw [advance]
      by_cases hdue : p.isDueBy until_
      · refine ⟨.pass until_ :: passes, List.forall_mem_cons.mpr ⟨⟨until_, rfl⟩, hpasses⟩, ?_⟩
        rw [if_pos hdue]
        exact hrest
      · refine ⟨[.pass until_], List.forall_mem_cons.mpr ⟨⟨until_, rfl⟩, by simp⟩, ?_⟩
        rw [if_neg hdue]
        rfl
  exact hadvance _ _ p s

/-! ## The log -/

/-- What is to be logged if the writer has come to its end since, unless the reader had stopped by then. -/
def exitSeen (p p' : Pump) (moment : Nanos) : Log :=
  if p.writer ≠ .finished ∧ p'.writer = .finished ∧ p'.reader.hasStopped = false then [(moment, .writerExit)] else []

/-- A pump with its server, and the log of what has occurred to it. -/
structure Serving (σ : Type) where
  pump : Pump
  server : Traced σ
  log : Log := []

namespace Serving

/-- Logs the frames that have come in at a moment, and then the end of the writer if that has come. -/
def record (r : Serving σ) (moment : Nanos) (frames : List Inbound) (next : Pump × Traced σ) : Serving σ :=
  { pump := next.1
    server := next.2
    log := r.log ++ frames.map (fun frame => (moment, .frame frame)) ++ exitSeen r.pump next.1 moment }

/-- A pump that starts now. -/
def start (h : Host σ) (t : Timing) (s : σ) : Serving σ :=
  let p := Pump.start t (h.now s)
  ({ pump := p, server := { state := s } } : Serving σ).record (h.now s) [] (p.settle h.traced { state := s })

/-- What a stimulus leads to. -/
def meet (h : Host σ) (setNow : Nanos → σ → σ) (r : Serving σ) : Stimulus h → Serving σ
  | .arrive frames => r.record (h.now r.server.state) frames (r.pump.receiveAll h.traced r.server frames)
  | .pass until_ =>
    r.record (max (r.pump.stopBefore until_) (h.now r.server.state)) []
      (r.pump.pass h.traced (Traced.setNow setNow) until_ r.server)
  | .quit =>
    let (p, s) := r.pump.abort h.traced r.server
    r.record (h.now r.server.state) [] (p.settle h.traced s)
  | .wire wire => r.record (h.now r.server.state) [] (Pump.settle h.traced { r.pump with wire } r.server)
  | .act change _ _ =>
    r.record (h.now r.server.state) [] (r.pump.settle h.traced { r.server with state := change r.server.state })

/-- What several stimuli lead to, one after the other. -/
def run (h : Host σ) (setNow : Nanos → σ → σ) (r : Serving σ) (stimuli : List (Stimulus h)) : Serving σ :=
  stimuli.foldl (meet h setNow) r

/-- The record of a stimulus is a record of what it leads to. -/
theorem meet_eq (h : Host σ) (setNow : Nanos → σ → σ) (r : Serving σ) (e : Stimulus h) :
    ((r.meet h setNow e).pump, (r.meet h setNow e).server.state) =
      Pump.meet h setNow (r.pump, r.server.state) e := by
  cases e with
  | arrive frames => exact Pump.receiveAll_view h.traced_views r.pump r.server frames
  | pass until_ => exact Pump.pass_view h.traced_views (fun _ _ => rfl) until_ r.pump r.server
  | quit =>
    rw [Pump.meet, ← Pump.abort_view h.traced_views]
    let aborted := r.pump.abort h.traced r.server
    exact Pump.settle_view h.traced_views aborted.1 aborted.2
  | wire wire => exact Pump.settle_view h.traced_views _ _
  | act change _ _ => exact Pump.settle_view h.traced_views _ _

/-- The record of a course is a record of where it leads to. -/
theorem run_eq (h : Host σ) (setNow : Nanos → σ → σ) (t : Timing) (s : σ) (stimuli : List (Stimulus h)) :
    (((start h t s).run h setNow stimuli).pump, ((start h t s).run h setNow stimuli).server.state) =
      Pump.course h setNow t s stimuli := by
  have hrun (r : Serving σ) : ((r.run h setNow stimuli).pump, (r.run h setNow stimuli).server.state) =
      stimuli.foldl (Pump.meet h setNow) (r.pump, r.server.state) := by
    induction stimuli generalizing r with
    | nil => rfl
    | cons e rest ih =>
      rw [List.foldl_cons, ← meet_eq]
      exact ih (r.meet h setNow e)
  have hstart : ((start h t s).pump, (start h t s).server.state) = (Pump.start t (h.now s)).settle h s :=
    Pump.settle_view h.traced_views _ _
  rw [hrun, hstart, Pump.course]

/-- The frames of a record come after those that have been logged before. -/
theorem frames_record (r : Serving σ) (moment : Nanos) (frames : List Inbound) (next : Pump × Traced σ) :
    (r.record moment frames next).log.frames = r.log.frames ++ frames := by
  have hframes : (frames.map fun frame => (moment, Occurrence.frame frame)).filterMap (·.2.frame?) = frames := by
    rw [List.filterMap_map]
    exact List.filterMap_some
  have hexit : (exitSeen r.pump next.1 moment).filterMap (·.2.frame?) = [] := by
    unfold exitSeen
    split <;> rfl
  rw [record, Log.frames, List.filterMap_append, List.filterMap_append, hframes, hexit, List.append_nil, Log.frames]

/-- Exactly the frames that come in are logged. -/
theorem frames_run (h : Host σ) (setNow : Nanos → σ → σ) (t : Timing) (s : σ) (stimuli : List (Stimulus h)) :
    ((start h t s).run h setNow stimuli).log.frames = stimuli.flatMap Stimulus.frames := by
  have hrun (r : Serving σ) :
      (r.run h setNow stimuli).log.frames = r.log.frames ++ stimuli.flatMap Stimulus.frames := by
    induction stimuli generalizing r with
    | nil => exact (List.append_nil _).symm
    | cons e rest ih =>
      have hmeet : (r.meet h setNow e).log.frames = r.log.frames ++ e.frames := by
        cases e <;> exact frames_record _ _ _ _
      rw [List.flatMap_cons, ← List.append_assoc, ← hmeet]
      exact ih (r.meet h setNow e)
  rw [hrun, start, frames_record]
  rfl

end Serving

/-! ## The end of the writer -/

/-- A writer that has finished has been seen to. -/
theorem exitSeen_of_finished {p p' : Pump} (h : p.writer = .finished) (moment : Nanos) :
    exitSeen p p' moment = [] := if_neg fun hnew => hnew.1 h

/-- A writer that has not finished cannot be seen to. -/
theorem exitSeen_of_unfinished {p p' : Pump} (h : p'.writer ≠ .finished) (moment : Nanos) :
    exitSeen p p' moment = [] := if_neg fun hnew => h hnew.2.1

/-- A reader that has stopped sees nothing of its writer. -/
theorem exitSeen_of_stopped {p p' : Pump} (h : p'.reader.hasStopped = true) (moment : Nanos) :
    exitSeen p p' moment = [] := if_neg fun hnew => by simp [h] at hnew

/-- A writer that finishes is seen to. -/
theorem exitSeen_of_new {p p' : Pump} (h : p.writer ≠ .finished) (h' : p'.writer = .finished)
    (hstopped : p'.reader.hasStopped = false) (moment : Nanos) : exitSeen p p' moment = [(moment, .writerExit)] :=
  if_pos ⟨h, h', hstopped⟩

/-- Where the writer stays as it is there is nothing to be seen. -/
theorem exitSeen_of_same {p p' : Pump} (h : p'.writer = p.writer) (moment : Nanos) : exitSeen p p' moment = [] :=
  if_neg fun hnew => hnew.1 (h.symm.trans hnew.2.1)

/-- A writer finishes once. -/
theorem exitSeen_trans {p p' p'' : Pump} (h : p.KeepsEnd p') (h' : p'.KeepsEnd p'') (moment : Nanos) :
    exitSeen p p'' moment = exitSeen p p' moment ++ exitSeen p' p'' moment := by
  by_cases hp : p.writer = .finished
  · rw [exitSeen_of_finished hp, exitSeen_of_finished hp, exitSeen_of_finished (h hp).1]
    rfl
  by_cases hp' : p'.writer = .finished
  · obtain ⟨hp'', hstopped⟩ := h' hp'
    rw [exitSeen_of_finished hp', List.append_nil, exitSeen, exitSeen, hstopped]
    simp [hp', hp'']
  · rw [exitSeen_of_unfinished hp', List.nil_append, exitSeen, exitSeen]
    simp [hp, hp']

/-! ## The phases of a reader -/

/-- A reader that reads, by a moment, with the deadline of an uneventful log and all its data handed on. -/
structure Reading (h : Host σ) (t : Timing) (start moment : Nanos) (p : Pump) (s : Traced σ) (log : Log) : Prop where
  timing : p.timing = t
  reader : p.reader = .reading (deadline t start log)
  now : h.now s.state = moment
  past : lastPong start log ≤ moment
  inTime : moment ≤ deadline t start log
  uneventful : Uneventful t start log
  calls : s.calls = handled log
  fresh : h.IsFresh s.state

/-- How far the reader of a pump has come by a moment, and what it has asked of the server so far. -/
inductive Phase (h : Host σ) (t : Timing) (start moment : Nanos) (p : Pump) (s : Traced σ) (log : Log) : Prop
  | reading (reading : Reading h t start moment p s log) (writer : p.writer ≠ .finished)
  /-- The writer has finished, and the reader does not know yet. -/
  | bereft {before : Log} (split : log = before ++ [(moment, .writerExit)])
    (reading : Reading h t start moment p s before) (writer : p.writer = .finished)
  | ended {before rest : Log} {exit : Exit} {last closing : Nanos} {isOpen : Bool} (split : log = before ++ rest)
    (timing : p.timing = t)
    (reader : p.reader = .left exit ∨ p.reader = .leaving exit (Clock.limit closing t.writeWait))
    (past : last ≤ moment) (now : moment ≤ h.now s.state) (later : last ≤ closing)
    (uneventful : Uneventful t start before) (ends : Ends t start before rest exit last)
    (calls : s.calls = handled before ++ parting last isOpen closing)
    (atEnd : p.reader.hasStopped = true ∨ p.writer = .finished)
  /-- The clock does not reach the deadline. -/
  | broken {before rest : Log} (split : log = before ++ rest) (timing : p.timing = t) (reader : p.reader = .broken)
    (uneventful : Uneventful t start before) (late : Clock.bound ≤ deadline t start before)
    (calls : s.calls = handled before)

/-- A pump has got to a phase, is at rest, and is still without a writer if it was. -/
structure Reaches (h : Host σ) (t : Timing) (start moment : Nanos) (p : Pump) (log : Log) (next : Pump × Traced σ) :
    Prop where
  phase : Phase h t start moment next.1 next.2 log
  atRest : Pump.AtRest h next.1 next.2
  keepsEnd : p.KeepsEnd next.1

section Phases

variable {h : Host σ} {setNow : Nanos → σ → σ} {t : Timing} {start moment : Nanos} {p p' : Pump}
  {s s' : Traced σ} {log : Log}

/-- Whatever the writer does, a reader reads on. -/
theorem Reading.onlyWrites (hreading : Reading h t start moment p s log) (hwrites : Pump.OnlyWrites h p s p' s') :
    Reading h t start moment p' s' log where
  timing := hwrites.timing.trans hreading.timing
  reader := hwrites.reader.trans hreading.reader
  now := hwrites.now.trans hreading.now
  past := hreading.past
  inTime := hreading.inTime
  uneventful := hreading.uneventful
  calls := hwrites.calls.trans hreading.calls
  fresh := hwrites.fresh hreading.fresh

/-- Whatever the writer does, the reader does not move. -/
theorem Phase.onlyWrites (hphase : Phase h t start moment p s log) (hwrites : Pump.OnlyWrites h p s p' s') :
    Phase h t start moment p' s' (log ++ exitSeen p p' moment) := by
  cases hphase with
  | reading reading writer =>
    by_cases hwriter : p'.writer = .finished
    · have hstopped : p'.reader.hasStopped = false := by rw [hwrites.reader, reading.reader, Reader.hasStopped]
      rw [exitSeen_of_new writer hwriter hstopped]
      exact .bereft rfl (reading.onlyWrites hwrites) hwriter
    · rw [exitSeen_of_unfinished hwriter, List.append_nil]
      exact .reading (reading.onlyWrites hwrites) hwriter
  | bereft split reading writer =>
    rw [exitSeen_of_finished writer, List.append_nil]
    exact .bereft split (reading.onlyWrites hwrites) (hwrites.finished writer)
  | ended split timing reader past now later uneventful ends calls atEnd =>
    have hquiet : exitSeen p p' moment = [] :=
      atEnd.elim (fun hstopped => exitSeen_of_stopped (hwrites.reader.symm ▸ hstopped) moment)
        fun hwriter => exitSeen_of_finished hwriter moment
    rw [hquiet, List.append_nil]
    exact .ended split (hwrites.timing.trans timing) (hwrites.reader.symm ▸ reader) past (hwrites.now ▸ now) later
      uneventful ends (hwrites.calls.trans calls)
      (atEnd.imp (fun hstopped => hwrites.reader.symm ▸ hstopped) hwrites.finished)
  | broken split timing reader uneventful late calls =>
    rw [split, List.append_assoc]
    exact .broken rfl (hwrites.timing.trans timing) (hwrites.reader.trans reader) uneventful late
      (hwrites.calls.trans calls)

/-- Time passes for a pump at rest, but not beyond the deadline of a reader that reads. -/
theorem Phase.later (hphase : Phase h t start moment p s log) (hrest : Pump.AtRest h p s) {moment' : Nanos}
    (hcalls : s'.calls = s.calls) (hfresh : h.IsFresh s.state → h.IsFresh s'.state)
    (hnow : h.now s'.state = moment') (hpast : h.now s.state ≤ moment')
    (hdue : ∀ due, p.reader = .reading due → moment' ≤ due) : Phase h t start moment' p s' log := by
  cases hphase with
  | reading reading writer =>
    exact .reading
      { timing := reading.timing
        reader := reading.reader
        now := hnow
        past := Nat.le_trans reading.past (reading.now ▸ hpast)
        inTime := hdue _ reading.reader
        uneventful := reading.uneventful
        calls := hcalls.trans reading.calls
        fresh := hfresh reading.fresh } writer
  | bereft _ reading writer => exact absurd writer (hrest.attended _ reading.reader)
  | ended split timing reader past now later uneventful ends calls atEnd =>
    exact .ended split timing reader (Nat.le_trans past (Nat.le_trans now hpast)) (Nat.le_of_eq hnow.symm) later
      uneventful ends (hcalls.trans calls) atEnd
  | broken split timing reader uneventful late calls =>
    exact .broken split timing reader uneventful late (hcalls.trans calls)

/-- A reader goes on after a harmless frame, with the deadline of its log and the data handed on. -/
theorem Reading.goes_on {due : Nanos} {o : Occurrence} (hreading : Reading h t start moment p s log)
    (hwriter : p.writer ≠ .finished) (hearly : moment < deadline t start log) (hharmless : o.exit? t = none)
    (hdue : due = deadline t start (log ++ [(moment, o)])) (hlater : moment < due) (hnow : h.now s'.state = moment)
    (hcalls : s'.calls = handled (log ++ [(moment, o)])) (hfresh : h.IsFresh s'.state) :
    Reaches h t start moment p (log ++ [(moment, o)]) ({ p with reader := .reading due }, s') := by
  have hpong : lastPong start (log ++ [(moment, o)]) ≤ moment := by
    rw [lastPong_concat]
    split
    · exact Nat.le_refl moment
    · exact hreading.past
  have hnext : Reading h t start moment { p with reader := .reading due } s' (log ++ [(moment, o)]) :=
    { timing := hreading.timing
      reader := by rw [hdue]
      now := hnow
      past := hpong
      inTime := hdue ▸ Nat.le_of_lt hlater
      uneventful := .concat hreading.uneventful hharmless hearly
      calls := hcalls
      fresh := hfresh }
  refine ⟨.reading hnext hwriter, ⟨fun other hother => ?_, fun _ _ => hwriter⟩,
    fun hfinished => absurd hfinished hwriter⟩
  rw [← Option.some.inj hother, hnow]
  exact hlater

/-- A pong puts the deadline off, or breaks the reader if that is too late for the clock. -/
theorem Reading.receive_pong (hreading : Reading h t start moment p s log) (hwriter : p.writer ≠ .finished)
    (hearly : moment < deadline t start log) :
    Reaches h t start moment p (log ++ [(moment, .frame .pong)]) (p.receive h.traced s .pong) := by
  have hwait : 0 < t.pongWait :=
    Nat.lt_add_right_iff_pos.mp (Nat.lt_of_lt_of_le hearly (Nat.add_le_add_right hreading.past _))
  have hnow : h.traced.now s = moment := hreading.now
  have hdeadline : moment + t.pongWait = deadline t start (log ++ [(moment, .frame .pong)]) := by
    rw [deadline, lastPong_concat, if_pos rfl]
  have hcalls : s.calls = handled (log ++ [(moment, .frame .pong)]) := by
    rw [handled_append, hreading.calls]
    exact (List.append_nil _).symm
  have hstart : Reader.start p.timing moment = Reader.start t moment := by rw [hreading.timing]
  rw [Pump.receive_pong hreading.reader, hnow, hstart]
  rcases Nat.lt_or_ge (moment + t.pongWait) Clock.bound with hfits | hlate
  · rw [Reader.start_of_lt hfits]
    exact hreading.goes_on hwriter hearly rfl hdeadline (Nat.lt_add_of_pos_right hwait) hreading.now hcalls
      hreading.fresh
  · rw [Reader.start_of_le hlate]
    exact ⟨.broken (List.append_nil _).symm hreading.timing rfl (.concat hreading.uneventful rfl hearly)
      (hdeadline ▸ hlate) hcalls, Pump.atRest_of_broken rfl _, fun hfinished => absurd hfinished hwriter⟩

variable (horderly : h.Orderly setNow)
include horderly

/-- A reader that leaves for a reason that its log gives has ended. -/
theorem Reading.leave {rest : Log} {exit : Exit} (hreading : Reading h t start moment p s log)
    (hends : Ends t start log rest exit moment) (hexit : exit ≠ .writerExited) :
    Phase h t start moment (p.leave h.traced exit s).1 (p.leave h.traced exit s).2 (log ++ rest) := by
  obtain ⟨hkept, hreader⟩ := Pump.leave_reader h exit p s
  obtain ⟨hpast, isOpen, hparting⟩ := Pump.leave_calls horderly exit p hreading.fresh
  rw [hreading.now] at hpast hparting
  rw [hreading.calls] at hparting
  refine .ended rfl (hkept.trans hreading.timing) ?_ (Nat.le_refl moment) hpast hpast hreading.uneventful hends
    hparting (.inl (Pump.leave_hasStopped h hexit p s))
  exact hreader.imp id fun hleaving => hreading.timing ▸ hleaving.2

/-! ## Waking -/

/-- A reader that reads is woken, and ends if it has got to its deadline. -/
theorem Reading.wake (hreading : Reading h t start moment p s log) (hwriter : p.writer ≠ .finished) :
    Phase h t start moment (p.wake h.traced s).1 (p.wake h.traced s).2
      (log ++ exitSeen p (p.wake h.traced s).1 moment) := by
  rw [Pump.wake_reading hreading.reader hwriter]
  by_cases hdue : deadline t start log ≤ h.traced.now s
  · -- time has stopped at the deadline
    have hmoment : deadline t start log = moment := Nat.le_antisymm (hreading.now ▸ hdue) hreading.inTime
    have hends : Ends t start log [] .deadlineExpired (deadline t start log) := .expired (by simp)
    rw [hmoment] at hends
    rw [if_pos hdue, exitSeen_of_stopped (Pump.leave_hasStopped h (by decide) p s)]
    exact hreading.leave horderly hends (by decide)
  · rw [if_neg hdue, exitSeen_of_unfinished hwriter, List.append_nil]
    exact .reading hreading hwriter

/-- A reader that is woken without a writer ends. -/
theorem Reading.wake_bereft (hreading : Reading h t start moment p s log) (hwriter : p.writer = .finished) :
    Phase h t start moment (p.wake h.traced s).1 (p.wake h.traced s).2 (log ++ [(moment, .writerExit)]) := by
  obtain ⟨hpast, isOpen, hparting⟩ := Pump.detach_calls horderly hreading.fresh
  rw [hreading.now] at hpast hparting
  rw [hreading.calls] at hparting
  rw [Pump.wake_bereft hreading.reader hwriter]
  exact .ended rfl hreading.timing (.inl rfl) (Nat.le_refl moment) hpast hpast hreading.uneventful
    (.event rfl rfl hreading.inTime) hparting (.inr hwriter)

/-- A reader that is woken sees what there is to see. -/
theorem Phase.wake (hphase : Phase h t start moment p s log) :
    Phase h t start moment (p.wake h.traced s).1 (p.wake h.traced s).2
      (log ++ exitSeen p (p.wake h.traced s).1 moment) := by
  cases hphase with
  | reading reading writer => exact reading.wake horderly writer
  | bereft split reading writer =>
    rw [exitSeen_of_finished writer, List.append_nil, split]
    exact reading.wake_bereft horderly writer
  | @ended before rest exit last closing isOpen split timing reader past now later uneventful ends calls atEnd =>
    have hstays {p' : Pump} {s' : Traced σ} (htiming : p'.timing = p.timing) (hnow : h.now s'.state = h.now s.state)
        (hcalls : s'.calls = s.calls) (hreader : p'.reader = p.reader ∨ p'.reader = .left exit)
        (hkept : p.KeepsEnd p') : Phase h t start moment p' s' (log ++ exitSeen p p' moment) := by
      have hstopped (hstopped : p.reader.hasStopped = true) : p'.reader.hasStopped = true := by
        rcases hreader with hsame | hleft
        · rwa [hsame]
        · rw [hleft]
          rcases reader with reader | reader <;> (rw [reader] at hstopped; exact hstopped)
      have hquiet : exitSeen p p' moment = [] :=
        atEnd.elim (fun hover => exitSeen_of_stopped (hstopped hover) moment)
          fun hwriter => exitSeen_of_finished hwriter moment
      rw [hquiet, List.append_nil]
      refine .ended split (htiming.trans timing) ?_ past (hnow ▸ now) later uneventful ends (hcalls.trans calls)
        (atEnd.imp hstopped fun hwriter => (hkept hwriter).1)
      exact hreader.elim (fun hsame => hsame ▸ reader) .inl
    have hkept := Pump.wake_keepsEnd (h := h.traced) p s
    rcases reader with reader | reader
    · rw [Pump.wake_left reader] at hkept ⊢
      exact hstays rfl rfl rfl (.inl rfl) hkept
    · have habort := Pump.abort_onlyWrites horderly p s
      rw [Pump.wake_leaving reader] at hkept ⊢
      split at hkept
      case isTrue hwriter =>
        rw [if_pos hwriter]
        exact hstays rfl rfl rfl (.inr rfl) hkept
      case isFalse hwriter =>
        rw [if_neg hwriter]
        split at hkept
        case isTrue hover =>
          rw [if_pos hover]
          exact hstays habort.timing habort.now habort.calls (.inr rfl) hkept
        case isFalse hwaits =>
          rw [if_neg hwaits]
          exact hstays rfl rfl rfl (.inl rfl) hkept
  | broken split timing reader uneventful late calls =>
    rw [Pump.wake_broken reader, split, List.append_assoc]
    exact .broken rfl timing reader uneventful late calls

/-- A writer that may move and a reader that is woken then are seen to by the log. -/
theorem Phase.round (hphase : Phase h t start moment p s log) :
    let next := (p.writeAll h.traced s).1.wake h.traced (p.writeAll h.traced s).2
    Phase h t start moment next.1 next.2 (log ++ exitSeen p next.1 moment) ∧ p.KeepsEnd next.1 := by
  have hwrites := Pump.write_onlyWrites horderly (Pump.moveBound (h.connection s.state)) p s
  have hwoken := (hphase.onlyWrites hwrites).wake horderly
  have hkept := Pump.wake_keepsEnd (h := h.traced) (p.writeAll h.traced s).1 (p.writeAll h.traced s).2
  refine ⟨?_, hwrites.keepsEnd.trans hkept⟩
  rw [exitSeen_trans hwrites.keepsEnd hkept, ← List.append_assoc]
  exact hwoken

/-- A pump that settles comes to rest, and its log sees to the writer. -/
theorem Phase.settle (hphase : Phase h t start moment p s log) :
    Reaches h t start moment p (log ++ exitSeen p (p.settle h.traced s).1 moment) (p.settle h.traced s) := by
  obtain ⟨hfirst, hkept⟩ := hphase.round horderly
  obtain ⟨hsecond, hkept'⟩ := hfirst.round horderly
  refine ⟨?_, Pump.wake_atRest h _ _, hkept.trans hkept'⟩
  rw [List.append_assoc, ← exitSeen_trans hkept hkept'] at hsecond
  exact hsecond

/-! ## Frames -/

/-- A frame that is no pong is handed on, ends the reader, or is nothing to it. -/
theorem Reading.receive (hreading : Reading h t start moment p s log) (hwriter : p.writer ≠ .finished)
    (hearly : moment < deadline t start log) {frame : Inbound} (hpong : frame ≠ .pong) :
    Reaches h t start moment p (log ++ [(moment, .frame frame)]) (p.receive h.traced s frame) := by
  have hdeadline : deadline t start log = deadline t start (log ++ [(moment, .frame frame)]) := by
    rw [deadline, deadline, lastPong_concat, if_neg (by simpa using hpong)]
  have hgoes {s' : Traced σ} (hharmless : (Occurrence.frame frame).exit? t = none)
      (hnow : h.now s'.state = h.now s.state) (hcalls : s'.calls = handled (log ++ [(moment, .frame frame)]))
      (hfresh : h.IsFresh s'.state) :
      Reaches h t start moment p (log ++ [(moment, .frame frame)]) (p, s') := by
    have hsame : { p with reader := .reading (deadline t start log) } = p := by rw [← hreading.reader]
    have hreaches := hreading.goes_on hwriter hearly hharmless hdeadline hearly (hnow.trans hreading.now) hcalls hfresh
    rwa [hsame] at hreaches
  have hleaves {exit : Exit} (hreason : (Occurrence.frame frame).exit? t = some exit) :
      Reaches h t start moment p (log ++ [(moment, .frame frame)]) (p.leave h.traced exit s) :=
    ⟨hreading.leave horderly (.event rfl hreason hreading.inTime) (Occurrence.exit?_frame_ne hreason),
      Pump.leave_atRest h exit p s, fun hfinished => absurd hfinished hwriter⟩
  rw [Pump.receive_reading hreading.reader hpong, hreading.timing]
  cases frame with
  | pong => contradiction
  | close | ended | failure => exact hleaves rfl
  | ping =>
    have hcalls : s.calls = handled (log ++ [(moment, .frame .ping)]) := by
      rw [handled_append, hreading.calls]
      exact (List.append_nil _).symm
    exact hgoes rfl rfl hcalls hreading.fresh
  | data payload =>
    by_cases hlong : t.maxMessageSize < payload.length
    · simp only [Reader.reaction, if_pos hlong]
      exact hleaves (if_pos hlong)
    · simp only [Reader.reaction, if_neg hlong]
      have hcalls : (h.traced.handle payload s).calls = handled (log ++ [(moment, .frame (.data payload))]) := by
        rw [handled_append, ← hreading.calls, ← hreading.now]
        rfl
      exact hgoes (if_neg hlong) (horderly.handle payload s.state) hcalls
        (horderly.fresh_handle payload s.state hreading.fresh)

/-- A frame that comes in on a pump at rest is taken in. -/
theorem Phase.receive (hphase : Phase h t start moment p s log) (hrest : Pump.AtRest h p s) (frame : Inbound) :
    Reaches h t start moment p (log ++ [(moment, .frame frame)]) (p.receive h.traced s frame) := by
  cases hphase with
  | reading reading writer =>
    have hearly : moment < deadline t start log :=
      reading.now ▸ hrest.prompt _ (by rw [reading.reader, Reader.due?])
    by_cases hpong : frame = .pong
    · exact hpong ▸ reading.receive_pong writer hearly
    · exact reading.receive horderly writer hearly hpong
  | bereft _ reading writer => exact absurd writer (hrest.attended _ reading.reader)
  | ended split timing reader past now later uneventful ends calls atEnd =>
    have hreader (due : Nanos) : p.reader ≠ .reading due := by
      rcases reader with reader | reader <;> simp [reader]
    rw [Pump.receive_of_not_reading hreader, split, List.append_assoc]
    refine ⟨.ended rfl timing reader past now later uneventful (ends.append fun o ho => ?_) calls atEnd, hrest,
      .refl p⟩
    rw [List.mem_singleton.mp ho]
    exact past
  | broken split timing reader uneventful late calls =>
    rw [Pump.receive_of_not_reading fun due => by simp [reader], split, List.append_assoc]
    exact ⟨.broken rfl timing reader uneventful late calls, hrest, .refl p⟩

omit horderly in
/-- A frame at which a reader leaves is a reason to end. -/
theorem exit?_of_reaction {frame : Inbound} {exit : Exit} (hleave : Reader.reaction t frame = .leave exit) :
    (Occurrence.frame frame).exit? t = some exit := by
  cases frame with
  | data payload =>
    by_cases hlong : t.maxMessageSize < payload.length <;> simp_all [Reader.reaction, Occurrence.exit?]
  | ping | pong | close | ended | failure => simp_all [Reader.reaction, Occurrence.exit?]

omit horderly in
/-- Nothing is seen of a writer while a frame is taken in: if it is ended then, the reader has stopped before. -/
theorem exitSeen_receive (p : Pump) (s : Traced σ) (frame : Inbound) :
    exitSeen p (p.receive h.traced s frame).1 moment = [] := by
  cases hreader : p.reader with
  | reading due =>
    by_cases hpong : frame = .pong
    · rw [hpong, Pump.receive_pong hreader]
      refine exitSeen_of_same ?_ moment
      rfl
    · rw [Pump.receive_reading hreader hpong]
      split
      case h_1 | h_2 => exact exitSeen_of_same rfl moment
      case h_3 exit hreaction =>
        have hexit := Occurrence.exit?_frame_ne (exit?_of_reaction hreaction)
        exact exitSeen_of_stopped (Pump.leave_hasStopped h hexit p s) moment
  | leaving | left | broken =>
    rw [Pump.receive_of_not_reading fun due => by simp [hreader]]
    exact exitSeen_of_same rfl moment

/-- Frames that come in together on a pump at rest are taken in one after the other. -/
theorem Phase.receiveAll (hphase : Phase h t start moment p s log) (hrest : Pump.AtRest h p s)
    (frames : List Inbound) :
    Reaches h t start moment p
      (log ++ frames.map (fun frame => (moment, .frame frame)) ++
        exitSeen p (p.receiveAll h.traced s frames).1 moment)
      (p.receiveAll h.traced s frames) := by
  induction frames generalizing p s log with
  | nil =>
    rw [List.map_nil, List.append_nil]
    exact hphase.settle horderly
  | cons frame rest ih =>
    have hfirst := hphase.receive horderly hrest frame
    have hrest' := ih hfirst.phase hfirst.atRest
    have hcons : p.receiveAll h.traced s (frame :: rest) =
        (p.receive h.traced s frame).1.receiveAll h.traced (p.receive h.traced s frame).2 rest := rfl
    rw [hcons]
    refine ⟨?_, hrest'.atRest, hfirst.keepsEnd.trans hrest'.keepsEnd⟩
    rw [exitSeen_trans hfirst.keepsEnd hrest'.keepsEnd, exitSeen_receive, List.nil_append, List.map_cons,
      List.append_cons]
    exact hrest'.phase

/-- After something that happened to the writer, a pump settles as well. -/
theorem Phase.settle_after (hphase : Phase h t start moment p s log) (hwrites : Pump.OnlyWrites h p s p' s') :
    Reaches h t start moment p (log ++ exitSeen p (p'.settle h.traced s').1 moment) (p'.settle h.traced s') := by
  have hreaches := (hphase.onlyWrites hwrites).settle horderly
  rw [List.append_assoc, ← exitSeen_trans hwrites.keepsEnd hreaches.keepsEnd] at hreaches
  exact ⟨hreaches.phase, hreaches.atRest, hwrites.keepsEnd.trans hreaches.keepsEnd⟩

/-! ## Time -/

omit horderly in
/-- What is due to the reader is due to the pump, or something else is due before. -/
theorem Pump.due?_le {due : Nanos} (hdue : p.reader.due? = some due) : ∃ first, p.due? = some first ∧ first ≤ due := by
  have hearlier (other : Option Nanos) : ∃ first, Pump.earlier (some due) other = some first ∧ first ≤ due := by
    cases other with
    | none => exact ⟨due, rfl, Nat.le_refl due⟩
    | some other => exact ⟨min due other, rfl, Nat.min_le_left due other⟩
  unfold Pump.due?
  cases hreader : p.reader with
  | left | broken => simp [hreader, Reader.due?] at hdue
  | reading | leaving =>
    rw [hreader] at hdue
    rw [← hdue] at hearlier
    exact hearlier _

omit horderly in
/-- Time stops when something is due to the reader. -/
theorem Pump.stopBefore_le {due : Nanos} (hdue : p.reader.due? = some due) (until_ : Nanos) :
    p.stopBefore until_ ≤ due := by
  obtain ⟨first, hfirst, hle⟩ := Pump.due?_le hdue
  rw [Pump.stopBefore, hfirst]
  exact Nat.le_trans (Nat.min_le_right until_ first) hle

omit horderly in
/-- If nothing happens by a moment, then time stops there, before anything is due to the reader. -/
theorem Pump.stopBefore_lt {due until_ : Nanos} (hquiet : ¬ p.isDueBy until_) (hdue : p.reader.due? = some due) :
    p.stopBefore until_ < due := by
  obtain ⟨first, hfirst, hle⟩ := Pump.due?_le hdue
  have hlate : until_ < first := by simpa [Pump.isDueBy, hfirst] using hquiet
  rw [Pump.stopBefore, hfirst]
  exact Nat.lt_of_le_of_lt (Nat.min_le_left until_ first) (Nat.lt_of_lt_of_le hlate hle)

/-- When time passes for a pump at rest, what is due happens at its moment. -/
theorem Phase.pass (hphase : Phase h t start moment p s log) (hrest : Pump.AtRest h p s) (until_ : Nanos) :
    Reaches h t start (max (p.stopBefore until_) (h.now s.state)) p
      (log ++ exitSeen p (p.pass h.traced (Traced.setNow setNow) until_ s).1
        (max (p.stopBefore until_) (h.now s.state)))
      (p.pass h.traced (Traced.setNow setNow) until_ s) := by
  have hnow : h.now (Traced.setNow setNow (max (p.stopBefore until_) (h.now s.state)) s).state =
      max (p.stopBefore until_) (h.now s.state) := horderly.setNow _ _ (Nat.le_max_right _ _)
  have hlater : Phase h t start (max (p.stopBefore until_) (h.now s.state)) p
      (Traced.setNow setNow (max (p.stopBefore until_) (h.now s.state)) s) log := by
    refine hphase.later hrest rfl (horderly.fresh_setNow _ _) hnow (Nat.le_max_right _ _) fun due hreader => ?_
    have hdue : p.reader.due? = some due := by rw [hreader, Reader.due?]
    exact Nat.max_le.mpr ⟨Pump.stopBefore_le hdue until_, Nat.le_of_lt (hrest.prompt due hdue)⟩
  have hpass : p.pass h.traced (Traced.setNow setNow) until_ s =
      if p.isDueBy until_ then
        p.settle h.traced (Traced.setNow setNow (max (p.stopBefore until_) (h.now s.state)) s)
      else (p, Traced.setNow setNow (max (p.stopBefore until_) (h.now s.state)) s) := rfl
  rw [hpass]
  by_cases hby : p.isDueBy until_
  · rw [if_pos hby]
    exact hlater.settle horderly
  · rw [if_neg hby]
    rw [exitSeen_of_same rfl, List.append_nil]
    refine ⟨hlater, ⟨fun due hdue => ?_, hrest.attended⟩, .refl p⟩
    rw [hnow]
    exact Nat.max_lt.mpr ⟨Pump.stopBefore_lt hby hdue, hrest.prompt due hdue⟩

end Phases

/-! ## The whole course -/

namespace Serving

/-- A pump whose log accounts for it, and which is not behind its time. -/
structure Sound (h : Host σ) (t : Timing) (start : Nanos) (r : Serving σ) : Prop where
  phase : ∃ moment, Phase h t start moment r.pump r.server r.log
  atRest : Pump.AtRest h r.pump r.server

section Course

variable {h : Host σ} {setNow : Nanos → σ → σ} {t : Timing} {begun : Nanos} (horderly : h.Orderly setNow)

/-- What a pump has reached is recorded. -/
theorem Sound.of_reaches {r : Serving σ} {moment : Nanos} {frames : List Inbound} {next : Pump × Traced σ}
    (hreaches : Reaches h t begun moment r.pump
      (r.log ++ frames.map (fun frame => (moment, .frame frame)) ++ exitSeen r.pump next.1 moment) next) :
    (r.record moment frames next).Sound h t begun := ⟨⟨moment, hreaches.phase⟩, hreaches.atRest⟩

/-- What a pump has reached without a frame is recorded. -/
theorem Sound.of_quiet {r : Serving σ} {moment : Nanos} {next : Pump × Traced σ}
    (hreaches : Reaches h t begun moment r.pump (r.log ++ exitSeen r.pump next.1 moment) next) :
    (r.record moment [] next).Sound h t begun := by
  refine .of_reaches ?_
  rw [List.map_nil, List.append_nil]
  exact hreaches

include horderly

/-- A pump that starts is sound. -/
theorem sound_start (t : Timing) {s : σ} (hfresh : h.IsFresh s) : (Serving.start h t s).Sound h t (h.now s) := by
  have hphase : Phase h t (h.now s) (h.now s) (Pump.start t (h.now s)) { state := s } [] := by
    rcases Nat.lt_or_ge (h.now s + t.pongWait) Clock.bound with hfits | hlate
    · have hreading : Reading h t (h.now s) (h.now s) (Pump.start t (h.now s)) { state := s } [] :=
        ⟨rfl, Reader.start_of_lt hfits, rfl, Nat.le_refl _, Nat.le_add_right _ _, .nil, rfl, hfresh⟩
      exact .reading hreading (Writer.start_ne_finished t (h.now s))
    · exact .broken rfl rfl (Reader.start_of_le hlate) .nil hlate rfl
  exact .of_quiet (hphase.settle horderly)

/-- Whatever happens to it from outside, a pump stays sound. -/
theorem Sound.meet {r : Serving σ} (hsound : r.Sound h t begun) (e : Stimulus h) :
    (r.meet h setNow e).Sound h t begun := by
  obtain ⟨⟨moment, hphase⟩, hrest⟩ := hsound
  have hinstant (s' : Traced σ) (hcalls : s'.calls = r.server.calls)
      (hfresh : h.IsFresh r.server.state → h.IsFresh s'.state) (hsame : h.now s'.state = h.now r.server.state) :
      Phase h t begun (h.now r.server.state) r.pump s' r.log := by
    refine hphase.later hrest hcalls hfresh hsame (Nat.le_refl _) fun due hreader => Nat.le_of_lt ?_
    exact hrest.prompt due (by rw [hreader, Reader.due?])
  have hnow := hinstant r.server rfl id rfl
  cases e with
  | arrive frames => exact .of_reaches (hnow.receiveAll horderly hrest frames)
  | pass until_ => exact .of_quiet (hphase.pass horderly hrest until_)
  | quit =>
    have hwrites := Pump.abort_onlyWrites horderly r.pump r.server
    exact .of_quiet (hnow.settle_after horderly hwrites)
  | wire wire => exact .of_quiet (hnow.settle_after horderly ⟨rfl, rfl, rfl, rfl, id, id⟩)
  | act change instant unmarked =>
    have hacted := hinstant { r.server with state := change r.server.state } rfl (unmarked _) (instant _)
    exact .of_quiet (hacted.settle horderly)

/-- In its whole course a pump stays sound. -/
theorem Sound.run {r : Serving σ} (hsound : r.Sound h t begun) (stimuli : List (Stimulus h)) :
    (r.run h setNow stimuli).Sound h t begun := by
  induction stimuli generalizing r with
  | nil => exact hsound
  | cons e rest ih => exact ih (hsound.meet horderly e)

end Course

end Serving

/-- What a log says about a reader and what it has asked of its server. -/
inductive Accounts (t : Timing) (start : Nanos) (r : Reader) (asked : List (Nanos × Call)) (log : Log) : Prop
  /-- Nothing has ended the reader, and all data have been handed on. -/
  | reading (uneventful : Uneventful t start log) (reader : r = .reading (deadline t start log))
    (calls : asked = handled log)
  /-- The first thing to end the reader has done so, after what was handed on before. -/
  | ended {before rest : Log} {exit : Exit} {moment closing : Nanos} {isOpen : Bool} (split : log = before ++ rest)
    (uneventful : Uneventful t start before) (ends : Ends t start before rest exit moment)
    (calls : asked = handled before ++ parting moment isOpen closing) (later : moment ≤ closing)
    (reader : r = .left exit ∨ r = .leaving exit (Clock.limit closing t.writeWait))
  /-- The clock does not reach the deadline, and nothing was asked after what was handed on before. -/
  | broken {before rest : Log} (split : log = before ++ rest) (uneventful : Uneventful t start before)
    (late : Clock.bound ≤ deadline t start before) (calls : asked = handled before) (reader : r = .broken)

/-- A reader has ended in a certain way, and has asked its server for what that takes. -/
def EndsBy (t : Timing) (before : Log) (exit : Exit) (moment : Nanos) (r : Reader) (asked : List (Nanos × Call)) : Prop :=
  ∃ isOpen closing, asked = handled before ++ parting moment isOpen closing ∧ moment ≤ closing ∧
    (r = .left exit ∨ r = .leaving exit (Clock.limit closing t.writeWait))

/-- A reader whose clock reaches every deadline ends as its log says it does, in the one way that there is. -/
theorem Accounts.endsBy {t : Timing} {start now : Nanos} {r : Reader} {asked : List (Nanos × Call)} {log : Log}
    (h : Accounts t start r asked log) (hprompt : ∀ due, r.due? = some due → now < due) (htimely : Timely t start log)
    {before rest : Log} {exit : Exit} {moment : Nanos} (hsplit : log = before ++ rest)
    (huneventful : Uneventful t start before) (hends : Ends t start before rest exit moment) (hpast : moment ≤ now)
    (hoff : ∀ o ∈ rest, o.1 ≠ deadline t start before) : EndsBy t before exit moment r asked := by
  cases h with
  | reading uneventful reader calls =>
    have hquiet : Ends t start log [] .deadlineExpired (deadline t start log) := .expired (by simp)
    obtain ⟨-, -, rfl⟩ := hends.unique huneventful hquiet uneventful (by rw [← hsplit, List.append_nil]) hoff
    have hlater := hprompt _ (by rw [reader, Reader.due?])
    exact absurd hpast (Nat.not_le_of_lt hlater)
  | ended split uneventful ends calls later reader =>
    obtain ⟨rfl, rfl, rfl⟩ := hends.unique huneventful ends uneventful (hsplit.symm.trans split) hoff
    exact ⟨_, _, calls, later, reader⟩
  | broken split uneventful late calls reader =>
    have hreached := htimely.deadline_lt (split ▸ List.prefix_append _ _)
    exact absurd hreached (Nat.not_lt_of_le late)

/--
Whatever comes in on a socket and whatever becomes of its writer, the server is asked exactly for the data
that come in before the first reason to end, in their order and at their moments, and then once to take the
connection out, after which the queue is closed. The reader gives that reason, is never late, and hands on
nothing that is too long. If the clock reaches every deadline, the reader does not break down, and what ends it
is told by the log in one way only, unless something occurs at the very deadline.
-/
theorem reader_keeps_contract (h : Host σ) {setNow : Nanos → σ → σ} (horderly : h.Orderly setNow) (t : Timing)
    {s : σ} (hfresh : h.IsFresh s) (stimuli : List (Stimulus h)) :
    let r := (Serving.start h t s).run h setNow stimuli
    (r.pump, r.server.state) = Pump.course h setNow t s stimuli ∧
      r.log.frames = stimuli.flatMap Stimulus.frames ∧
      Accounts t (h.now s) r.pump.reader r.server.calls r.log ∧
      (∀ due, r.pump.reader.due? = some due → h.now r.server.state < due) ∧
      (∀ moment payload, (moment, .handled payload) ∈ r.server.calls → payload.length ≤ t.maxMessageSize) ∧
      (Timely t (h.now s) r.log →
        r.pump.reader ≠ .broken ∧
          ∀ before rest exit moment, r.log = before ++ rest → Uneventful t (h.now s) before →
            Ends t (h.now s) before rest exit moment → moment ≤ h.now r.server.state →
              (∀ o ∈ rest, o.1 ≠ deadline t (h.now s) before) →
                EndsBy t before exit moment r.pump.reader r.server.calls) := by
  intro r
  obtain ⟨⟨moment, hphase⟩, hrest⟩ := (Serving.sound_start horderly t hfresh).run horderly stimuli
  have haccounts : Accounts t (h.now s) r.pump.reader r.server.calls r.log := by
    cases hphase with
    | reading reading => exact .reading reading.uneventful reading.reader reading.calls
    | bereft _ reading writer => exact absurd writer (hrest.attended _ reading.reader)
    | ended split _ reader _ _ later uneventful ends calls => exact .ended split uneventful ends calls later reader
    | broken split _ reader uneventful late calls => exact .broken split uneventful late calls reader
  refine ⟨Serving.run_eq h setNow t s stimuli, Serving.frames_run h setNow t s stimuli, haccounts, hrest.prompt,
    fun moment payload hcall => ?short, fun htimely => ⟨?whole, ?_⟩⟩
  case short =>
    cases haccounts with
    | reading uneventful _ calls => exact uneventful.handled_fits (calls ▸ hcall)
    | @ended before rest exit last closing isOpen _ uneventful _ calls =>
      have hparting : (moment, .handled payload) ∉ parting last isOpen closing := by
        cases isOpen <;> simp [parting]
      rw [calls] at hcall
      exact uneventful.handled_fits ((List.mem_append.mp hcall).resolve_right hparting)
    | broken _ uneventful _ calls => exact uneventful.handled_fits (calls ▸ hcall)
  case whole =>
    intro hbroken
    cases haccounts with
    | reading _ reader => exact absurd (reader.symm.trans hbroken) (by simp)
    | ended _ _ _ _ _ reader => rcases reader with reader | reader <;> simp [hbroken] at reader
    | broken split _ late =>
      exact Nat.not_lt_of_le late (htimely.deadline_lt (split ▸ List.prefix_append _ _))
  · intro before rest exit moment hsplit huneventful hends hpast hoff
    exact haccounts.endsBy hrest.prompt htimely hsplit huneventful hends hpast hoff

/-- A server that is a clock and a connection, and notes whether the queue was closed when it took that out. -/
def bareHost : Host (Nanos × Connection × List Bool) where
  now s := s.1
  connection s := s.2.1
  setConnection c s := (s.1, c, s.2.2)
  handle _ s := s
  unregister s := (s.1, s.2.1, s.2.2 ++ [s.2.1.isClosed])
  wrote _ s := s

/-- A pong puts the end off, and data do not. -/
theorem silent_peer_reclaimed :
    let t : Timing := { sendBuffer := 8, maxMessageSize := 4, writeWait := 1, pongWait := 60, pingPeriod := 54 }
    let stimuli : List (Stimulus bareHost) :=
      [.pass 50, .arrive [.data [1, 2], .pong], .pass 54, .pass 80, .arrive [.data [3]], .pass 108, .pass 200]
    let r := (Serving.start bareHost t (0, .new 1 8, [])).run bareHost (fun moment s => (moment, s.2)) stimuli
    bareHost.Orderly (fun moment s => (moment, s.2)) ∧ bareHost.IsFresh (0, .new 1 8, []) ∧ Timely t 0 r.log ∧
      r.log = [(50, .frame (.data [1, 2])), (50, .frame .pong), (80, .frame (.data [3]))] ∧
      EndsBy t r.log .deadlineExpired 110 r.pump.reader r.server.calls := by
  intro t stimuli r
  have horderly : bareHost.Orderly (fun moment s => (moment, s.2)) :=
    ⟨fun _ _ => rfl, fun _ _ => rfl, fun _ _ => rfl, fun _ => Nat.le_refl _, fun _ _ h => h, fun _ _ h => h,
      fun _ _ h => h, fun _ _ h => h, fun _ _ _ => rfl⟩
  have hfresh : bareHost.IsFresh (0, .new 1 8, []) := rfl
  have hlog : r.log = [(50, .frame (.data [1, 2])), (50, .frame .pong), (80, .frame (.data [3]))] := by
    decide +kernel
  have htimely : Timely t 0 r.log := by
    refine ⟨by decide +kernel, fun moment hpong => ?_⟩
    have hmoment : moment = 50 := by simpa [hlog] using hpong
    rw [hmoment]
    decide +kernel
  have huneventful : Uneventful t 0 r.log := by
    rw [hlog]
    change Uneventful t 0 (([] ++ [_]) ++ [_] ++ [_])
    exact .concat (.concat (.concat .nil rfl (by decide)) rfl (by decide)) rfl (by decide)
  obtain ⟨-, -, -, -, -, hends⟩ := reader_keeps_contract bareHost horderly t hfresh stimuli
  refine ⟨horderly, hfresh, htimely, hlog, (hends htimely).2 r.log [] _ _ (List.append_nil _).symm huneventful ?_ ?_ ?_⟩
  · have hdeadline : deadline t 0 r.log = 110 := by
      rw [hlog]
      decide
    exact hdeadline ▸ .expired (by simp)
  · decide +kernel
  · simp

/-- A frame is put into the queue of the connection. -/
def offer (frame : String) : Stimulus bareHost :=
  .act (fun s => (s.1, (s.2.1.send frame).1, s.2.2)) (fun _ => rfl) fun s hfresh => by
    change (s.2.1.send frame).1.isUnregistered = false
    unfold Connection.send
    split
    · exact hfresh
    · split <;> exact hfresh

/--
A writer that fails has closed the queue before the connection is taken out. Settings that give a peer more time
than the clock has left for an answer leave the connection where it is, though the peer says goodbye.
-/
theorem closed_first_or_left_behind :
    let tight : Timing := { sendBuffer := 8, maxMessageSize := 4, writeWait := 1, pongWait := 60, pingPeriod := 54 }
    let r := (Serving.start bareHost tight (0, .new 1 8, [])).run bareHost (fun moment s => (moment, s.2))
      [.wire .failing, offer "a"]
    (r.pump.reader = .left .writerExited ∧ r.server.state.2.2 = [true]) ∧
    ∃ t, Timing.ofSettings { pongWaitSeconds := 9223372036854775807, pingPeriodSeconds := some 54 } = some t ∧
      let s := (Serving.start bareHost t (Text.seconds 1, .new 1 8, [])).run bareHost (fun moment s => (moment, s.2))
        [.arrive [.data [1], .close]]
      s.pump.reader = .broken ∧ s.server.calls = [] ∧ s.server.state.2.1.isClosed = false := by
  intro tight r
  refine ⟨by decide +kernel, _, rfl, by decide +kernel⟩

end Parlor.Socket
