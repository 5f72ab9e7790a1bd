import Parlor.Socket.Reader

/-!
# What ends a reader

The reader of a socket as it is seen from outside: frames come in, the writer may come to its end, and time
passes. A reader ends with the first occurrence that is a reason to end, or at its deadline, which only
pongs put off, as long as the clock reaches that far. Nothing here mentions how the reader works.
-/

namespace Parlor.Socket

open Json (Bytes)
open Text (Nanos)

/-! ## Occurrences -/

/-- What a reader has to notice. -/
inductive Occurrence where
  | frame (frame : Inbound)
  /-- The writer has come to its end. -/
  | writerExit
  deriving DecidableEq, Repr

/-- The frame that has come in, if it is that what has occurred. -/
def Occurrence.frame? : Occurrence → Option Inbound
  | .frame inbound => some inbound
  | .writerExit => none

/-- What has occurred in turn, and when. -/
abbrev Log := List (Nanos × Occurrence)

/-- The frames that have come in, in their order. -/
def Log.frames (log : Log) : List Inbound := log.filterMap (·.2.frame?)

/-- The reason that an occurrence gives a reader to end. -/
def Occurrence.exit? (t : Timing) : Occurrence → Option Exit
  | .frame (.data payload) => if t.maxMessageSize < payload.length then some .oversized else none
  | .frame .ping | .frame .pong => none
  | .frame .close | .frame .ended => some .peerClosed
  | .frame .failure => some .readError
  | .writerExit => some .writerExited

/-- No frame is the end of the writer. -/
theorem Occurrence.exit?_frame_ne {t : Timing} {inbound : Inbound} {exit : Exit}
    (h : (Occurrence.frame inbound).exit? t = some exit) : exit ≠ .writerExited := by
  rintro rfl
  cases inbound <;> simp [exit?] at h

/-- The moment of the last pong in a log, or else of the start. -/
def lastPong (start : Nanos) (log : Log) : Nanos :=
  (((log.filter (·.2 = .frame .pong)).getLast?).map (·.1)).getD start

/-- The moment at which a reader ends if nothing more occurs. -/
def deadline (t : Timing) (start : Nanos) (log : Log) : Nanos := lastPong start log + t.pongWait

/-- Only a pong moves the deadline. -/
theorem lastPong_concat (start : Nanos) (log : Log) (o : Nanos × Occurrence) :
    lastPong start (log ++ [o]) = if o.2 = .frame .pong then o.1 else lastPong start log := by
  by_cases hpong : o.2 = .frame .pong <;> simp [lastPong, List.filter_append, hpong]

/-- The start and all pongs are early enough for the clock to reach the deadlines that follow. -/
structure Timely (t : Timing) (start : Nanos) (log : Log) : Prop where
  start : start + t.pongWait < Clock.bound
  pongs : ∀ moment, (moment, .frame .pong) ∈ log → moment + t.pongWait < Clock.bound

/-- In a timely log the clock reaches the deadline at every moment. -/
theorem Timely.deadline_lt {t : Timing} {start : Nanos} {log before : Log} (h : Timely t start log)
    (hbefore : before <+: log) : deadline t start before < Clock.bound := by
  unfold deadline lastPong
  cases hlast : (before.filter (·.2 = .frame .pong)).getLast? with
  | none => exact h.start
  | some o =>
    obtain ⟨moment, occurred⟩ := o
    obtain ⟨hmem, hpong⟩ := List.mem_filter.mp (List.mem_of_getLast? hlast)
    obtain rfl : occurred = .frame .pong := by simpa using hpong
    exact h.pongs moment (hbefore.mem hmem)

/-- Nothing in a log ends a reader: everything is harmless, and occurs before the deadline of its moment. -/
inductive Uneventful (t : Timing) (start : Nanos) : Log → Prop
  | nil : Uneventful t start []
  | concat {log : Log} {o : Nanos × Occurrence} (sofar : Uneventful t start log) (harmless : o.2.exit? t = none)
    (early : o.1 < deadline t start log) : Uneventful t start (log ++ [o])

/-- Every single occurrence in an uneventful log is harmless and early. -/
theorem Uneventful.at_split {t : Timing} {start : Nanos} {log : Log} (h : Uneventful t start log) {before after : Log}
    {o : Nanos × Occurrence} (hsplit : log = before ++ o :: after) :
    o.2.exit? t = none ∧ o.1 < deadline t start before := by
  induction h generalizing after with
  | nil => simp at hsplit
  | @concat log last sofar harmless early ih =>
    rcases List.eq_nil_or_concat after with rfl | ⟨after', last', rfl⟩
    · obtain ⟨rfl, hlast⟩ := List.append_inj' hsplit rfl
      obtain rfl := List.singleton_inj.mp hlast
      exact ⟨harmless, early⟩
    · rw [List.concat_eq_append, ← List.cons_append, ← List.append_assoc] at hsplit
      exact ih (List.append_inj' hsplit rfl).1

/-- How a reader ends after an uneventful log, for what reason and when. -/
inductive Ends (t : Timing) (start : Nanos) (before rest : Log) : Exit → Nanos → Prop
  /-- The next thing that occurs is a reason to end, and occurs in time. -/
  | event {o : Occurrence} {later : Log} {exit : Exit} {moment : Nanos} (next : rest = (moment, o) :: later)
    (reason : o.exit? t = some exit) (inTime : moment ≤ deadline t start before) : Ends t start before rest exit moment
  /-- Nothing more occurs before the deadline. -/
  | expired (late : ∀ o ∈ rest, deadline t start before ≤ o.1) :
    Ends t start before rest .deadlineExpired (deadline t start before)

/-- What occurs after a reader has ended does not matter. -/
theorem Ends.append {t : Timing} {start : Nanos} {before rest : Log} {exit : Exit} {moment : Nanos}
    (h : Ends t start before rest exit moment) {more : Log} (hlate : ∀ o ∈ more, moment ≤ o.1) :
    Ends t start before (rest ++ more) exit moment := by
  cases h with
  | event next reason inTime => exact .event (by rw [next, List.cons_append]) reason inTime
  | expired late => exact .expired fun o ho => (List.mem_append.mp ho).elim (late o) (hlate o)

/-- What ends a reader is not part of an uneventful log. -/
theorem Ends.not_within {t : Timing} {start : Nanos} {before rest before' : Log} {exit : Exit} {moment : Nanos}
    (h : Ends t start before rest exit moment) (hbefore' : Uneventful t start before') {o : Nanos × Occurrence}
    {more after : Log} (hrest : rest = o :: after) : before' ≠ before ++ o :: more := by
  intro hlonger
  obtain ⟨hharmless, hearly⟩ := hbefore'.at_split hlonger
  cases h with
  | event next reason _ =>
    obtain rfl := (List.cons.inj (hrest.symm.trans next)).1
    simp [reason] at hharmless
  | expired late => exact absurd hearly (Nat.not_lt_of_le (late o (hrest ▸ List.mem_cons_self)))

/-- Unless something occurs at the very deadline, it is told how a reader ends after an uneventful log. -/
theorem Ends.determined {t : Timing} {start : Nanos} {before rest : Log} {exit exit' : Exit} {moment moment' : Nanos}
    (h : Ends t start before rest exit moment) (h' : Ends t start before rest exit' moment')
    (hoff : ∀ o ∈ rest, o.1 ≠ deadline t start before) : exit = exit' ∧ moment = moment' := by
  cases h with
  | event next reason inTime =>
    cases h' with
    | event next' reason' _ =>
      obtain ⟨hevent, -⟩ := List.cons.inj (next.symm.trans next')
      obtain ⟨rfl, rfl⟩ := Prod.mk.inj hevent
      exact ⟨Option.some.inj (reason.symm.trans reason'), rfl⟩
    | expired late =>
      have hmem : (moment, _) ∈ rest := next ▸ List.mem_cons_self
      exact absurd (Nat.le_antisymm inTime (late _ hmem)) (hoff _ hmem)
  | expired late =>
    cases h' with
    | event next _ inTime =>
      have hmem : (moment', _) ∈ rest := next ▸ List.mem_cons_self
      exact absurd (Nat.le_antisymm inTime (late _ hmem)) (hoff _ hmem)
    | expired _ => exact ⟨rfl, rfl⟩

/-- Unless something occurs at the very deadline, a log tells how its reader ends, and in one way only. -/
theorem Ends.unique {t : Timing} {start : Nanos} {before rest before' rest' : Log} {exit exit' : Exit}
    {moment moment' : Nanos} (h : Ends t start before rest exit moment) (hbefore : Uneventful t start before)
    (h' : Ends t start before' rest' exit' moment') (hbefore' : Uneventful t start before')
    (hlog : before ++ rest = before' ++ rest') (hoff : ∀ o ∈ rest, o.1 ≠ deadline t start before) :
    before = before' ∧ exit = exit' ∧ moment = moment' := by
  have hsame : before = before' := by
    rcases List.append_eq_append_iff.mp hlog with ⟨more, hmore, hrest⟩ | ⟨more, hmore, hrest⟩
    · cases more with
      | nil => simpa using hmore.symm
      | cons o more => exact absurd hmore (h.not_within hbefore' hrest)
    · cases more with
      | nil => simpa using hmore
      | cons o more => exact absurd hmore (h'.not_within hbefore hrest)
  subst hsame
  obtain rfl := List.append_cancel_left hlog
  exact ⟨rfl, h.determined h' hoff⟩

/-! ## Calls -/

/-- What a pump asks of its server. -/
inductive Call where
  | handled (payload : Bytes)
  /-- The connection is taken out of the server, which may have closed its queue already. -/
  | unregistered (isOpen : Bool)
  /-- The queue of the connection is closed. -/
  | closed
  deriving DecidableEq, Repr

/-- The calls that hand on the data in a log, each at its moment. -/
def handled (log : Log) : List (Nanos × Call) :=
  log.filterMap fun o =>
    match o.2 with
    | .frame (.data payload) => some (o.1, .handled payload)
    | _ => none

/-- What comes later is handed on later. -/
theorem handled_append (log more : Log) : handled (log ++ more) = handled log ++ handled more :=
  List.filterMap_append

/-- Nothing too long is handed on from an uneventful log. -/
theorem Uneventful.handled_fits {t : Timing} {start : Nanos} {log : Log} (h : Uneventful t start log) {moment : Nanos}
    {payload : Bytes} (hcall : (moment, .handled payload) ∈ handled log) : payload.length ≤ t.maxMessageSize := by
  obtain ⟨o, ho, hdata⟩ := List.mem_filterMap.mp hcall
  obtain ⟨before, after, hsplit⟩ := List.append_of_mem ho
  have hharmless := (h.at_split hsplit).1
  split at hdata
  case h_1 data heq =>
    obtain ⟨-, hpayload⟩ := Prod.mk.inj (Option.some.inj hdata)
    obtain rfl := Call.handled.inj hpayload
    rw [heq, Occurrence.exit?] at hharmless
    exact Nat.le_of_not_lt (by simpa using hharmless)
  case h_2 => contradiction

/-- The last calls: the connection is taken out, and then closed unless it has been before. -/
def parting (moment : Nanos) (isOpen : Bool) (closing : Nanos) : List (Nanos × Call) :=
  (moment, .unregistered isOpen) :: if isOpen then [(closing, .closed)] else []

end Parlor.Socket
