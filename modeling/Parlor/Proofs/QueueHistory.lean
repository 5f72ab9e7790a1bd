import Parlor.Connection
import Mathlib.Data.List.Induction

/-!
# Histories of a queue

Whatever is done with a connection, and in whatever order, its queue hands on the frames that it has taken, in
their order and each of them once, and holds no more of them than it may. What becomes of a frame that is sent
follows from the history alone: which frames were taken and handed on, and whether anybody has closed the queue.
-/

namespace Parlor.Connection

/-! ## Uses -/

/-- What is done with a connection, on its sending side or on its reading side. -/
inductive Use where
  | send (frame : String)
  /-- A value is sent by its text, if it has one. -/
  | sendText (text : Option String)
  | close
  /-- At most `limit` frames are read, or all of them. -/
  | receive (limit : Option Nat)
  | closeReceiver
  | dropReceiver
  deriving DecidableEq, Repr

/-- What comes of a use. -/
inductive Answer where
  | sent (outcome : SendOutcome)
  | closed (isFirst : Bool)
  | received (frames : List String) (reason : QueueEnd)
  | done
  deriving DecidableEq, Repr

/-- The frame that a use would put into the queue. -/
def Use.frame? : Use → Option String
  | .send frame => some frame
  | .sendText text => text
  | _ => none

/-- Uses a connection. -/
def use (c : Connection) : Use → Connection × Answer
  | .send frame => ((c.send frame).1, .sent (c.send frame).2)
  | .sendText text => ((c.sendText text).1, .sent (c.sendText text).2)
  | .close => (c.close.1, .closed c.close.2)
  | .receive limit => ((c.receive limit).1, .received (c.receive limit).2.1 (c.receive limit).2.2)
  | .closeReceiver => (c.closeReceiver, .done)
  | .dropReceiver => (c.dropReceiver.1, .done)

/-- A connection after some uses. -/
def after (c : Connection) (uses : List Use) : Connection := uses.foldl (fun c u => (c.use u).1) c

/-- The uses of a connection, each with what came of it. -/
def history (c : Connection) : List Use → List (Use × Answer)
  | [] => []
  | u :: rest => (u, (c.use u).2) :: history (c.use u).1 rest

/-- The frame that was taken into the queue by a use. -/
def taken? : Use × Answer → Option String
  | (u, .sent .queued) => u.frame?
  | _ => none

/-- The frames that were read by a use. -/
def handedOn : Use × Answer → List String
  | (_, .received frames _) => frames
  | _ => []

/-- Tests for a use whose frame found the queue full. -/
def isOverflow (entry : Use × Answer) : Bool := entry.1.frame?.isSome && entry.2 == .sent .dropped

/-- All frames that were taken into the queue. -/
def queued (entries : List (Use × Answer)) : List String := entries.filterMap taken?

/-- All frames that were read. -/
def delivered (entries : List (Use × Answer)) : List String := entries.flatMap handedOn

/-- The number of frames that found the queue full. -/
def overflows (entries : List (Use × Answer)) : Nat := entries.countP isOverflow

/-- Nobody has closed the queue, from either side. -/
def LeaveOpen (uses : List Use) : Prop := .close ∉ uses ∧ .closeReceiver ∉ uses ∧ .dropReceiver ∉ uses

theorem after_append (c : Connection) (uses more : List Use) : c.after (uses ++ more) = (c.after uses).after more :=
  List.foldl_append

theorem history_append (c : Connection) (uses more : List Use) :
    c.history (uses ++ more) = c.history uses ++ (c.after uses).history more := by
  induction uses generalizing c with
  | nil => rfl
  | cons u rest ih => exact congrArg (_ :: ·) (ih (c.use u).1)

/-! ## What one use does -/

/-- A frame is not taken if the queue is closed, is taken if there is a place for it, and else is counted. -/
theorem send_cases (c : Connection) (frame : String) :
    (c.isClosed = true ∧ c.send frame = (c, .closed)) ∨
      (c.isClosed = false ∧ c.waiting.length < c.capacity ∧
        c.send frame = ({ c with waiting := c.waiting ++ [frame] }, .queued)) ∨
      c.isClosed = false ∧ c.capacity ≤ c.waiting.length ∧
        c.send frame = ({ c with dropped := c.dropped + 1 }, .dropped) := by
  unfold send
  by_cases hclosed : c.isClosed = true
  · exact .inl ⟨hclosed, if_pos hclosed⟩
  · have hopen : c.isClosed = false := by simpa using hclosed
    by_cases hplace : c.waiting.length < c.capacity
    · exact .inr (.inl ⟨hopen, hplace, by rw [if_neg hclosed, if_pos hplace]⟩)
    · exact .inr (.inr ⟨hopen, Nat.le_of_not_lt hplace, by rw [if_neg hclosed, if_neg hplace]⟩)

/--
What a use does to a connection: it may close a side of the queue and never opens one, takes a frame in behind
those that wait, or hands on those at the front. A closed queue takes nothing, and one that nobody reads hands
nothing on.
-/
structure Step (c : Connection) (u : Use) (c' : Connection) (a : Answer) : Prop where
  capacity_eq : c'.capacity = c.capacity
  bounded : c.waiting.length ≤ c.capacity → c'.waiting.length ≤ c.capacity
  isOpen : c'.isOpen = true ↔ c.isOpen = true ∧ u ≠ .close
  listens : c'.receiver = .listening ↔ c.receiver = .listening ∧ u ≠ .closeReceiver ∧ u ≠ .dropReceiver
  gone : c'.receiver = .gone ↔ c.receiver = .gone ∨ u = .dropReceiver
  kept : c'.receiver ≠ .gone → c.waiting ++ (taken? (u, a)).toList = handedOn (u, a) ++ c'.waiting
  unread : c'.receiver = .gone → handedOn (u, a) = []
  untaken : c.isClosed = true → taken? (u, a) = none
  counted : c'.dropped = c.dropped + if isOverflow (u, a) then 1 else 0

/-- A use that offers a frame sends it. -/
theorem use_of_frame {u : Use} {frame : String} (h : u.frame? = some frame) (c : Connection) :
    c.use u = ((c.send frame).1, .sent (c.send frame).2) := by
  cases u with
  | send other => exact Option.some.inj h ▸ rfl
  | sendText text =>
    obtain rfl : text = some frame := h
    rfl
  | close | receive | closeReceiver | dropReceiver => contradiction

/-- What sending a frame does. -/
theorem send_step (c : Connection) {u : Use} {frame : String} (hu : u.frame? = some frame) :
    Step c u (c.send frame).1 (.sent (c.send frame).2) := by
  have hclose : u ≠ .close := by rintro rfl; contradiction
  have hcloseReceiver : u ≠ .closeReceiver := by rintro rfl; contradiction
  have hdropReceiver : u ≠ .dropReceiver := by rintro rfl; contradiction
  rcases c.send_cases frame with ⟨hclosed, hsend⟩ | ⟨hopen, hplace, hsend⟩ | ⟨hopen, hfull, hsend⟩ <;> rw [hsend]
  · constructor <;> simp [hclose, hcloseReceiver, hdropReceiver, taken?, handedOn, isOverflow]
  · constructor <;> simp [hclose, hcloseReceiver, hdropReceiver, hopen, hu, taken?, handedOn, isOverflow]
    omega
  · constructor <;> simp [hclose, hcloseReceiver, hdropReceiver, hu, taken?, handedOn, isOverflow]

/-- What reading does. -/
theorem receive_step (c : Connection) (limit : Option Nat) :
    Step c (.receive limit) (c.receive limit).1 (.received (c.receive limit).2.1 (c.receive limit).2.2) := by
  by_cases hgone : c.receiver = .gone
  · rw [receive, if_pos hgone]
    constructor <;> simp [taken?, handedOn, isOverflow, hgone]
  · rw [receive, if_neg hgone]
    constructor <;> simp [taken?, handedOn, isOverflow, hgone]
    omega

/-- What a use does. -/
theorem use_step (c : Connection) (u : Use) : Step c u (c.use u).1 (c.use u).2 := by
  cases u with
  | send frame => exact c.send_step rfl
  | sendText text =>
    cases text with
    | some frame => exact c.send_step rfl
    | none => constructor <;> simp [use, sendText, Use.frame?, taken?, handedOn, isOverflow]
  | close => constructor <;> simp [use, Connection.close, Use.frame?, taken?, handedOn, isOverflow]
  | receive limit => exact c.receive_step limit
  | closeReceiver =>
    by_cases hgone : c.receiver = .gone
    · constructor <;> simp [use, Connection.closeReceiver, hgone, Use.frame?, taken?, handedOn, isOverflow]
    · constructor <;> simp [use, Connection.closeReceiver, hgone, Use.frame?, taken?, handedOn, isOverflow]
  | dropReceiver => constructor <;> simp [use, Connection.dropReceiver, Use.frame?, taken?, handedOn, isOverflow]

/-! ## What a history tells -/

/-- A connection is as its history says. -/
structure Follows (capacity : Nat) (uses : List Use) (entries : List (Use × Answer)) (c : Connection) : Prop where
  capacity_eq : c.capacity = max capacity 1
  bounded : c.waiting.length ≤ c.capacity
  isOpen : c.isOpen = true ↔ .close ∉ uses
  listens : c.receiver = .listening ↔ .closeReceiver ∉ uses ∧ .dropReceiver ∉ uses
  gone : c.receiver = .gone ↔ .dropReceiver ∈ uses
  -- nothing is lost as long as the reading side is there, and what was read stays read
  kept : c.receiver ≠ .gone → queued entries = delivered entries ++ c.waiting
  inOrder : delivered entries <+: queued entries
  counted : c.dropped = overflows entries

/-- A new connection has no history. -/
theorem follows_new (user : UserId) (capacity : Nat) : Follows capacity [] [] (new user capacity) := by
  refine ⟨rfl, Nat.zero_le _, ?_, ?_, ?_, fun _ => rfl, List.prefix_rfl, rfl⟩ <;> simp [new]

/-- A connection is open on both sides if nobody has closed it. -/
theorem Follows.isClosed_iff {capacity : Nat} {uses : List Use} {entries : List (Use × Answer)} {c : Connection}
    (h : Follows capacity uses entries c) : c.isClosed = false ↔ LeaveOpen uses := by
  rw [LeaveOpen, ← h.isOpen, ← h.listens]
  simp [isClosed]

/-- A connection that follows its history does so after one more use. -/
theorem Follows.step {capacity : Nat} {uses : List Use} {entries : List (Use × Answer)} {c c' : Connection} {u : Use}
    {a : Answer} (h : Follows capacity uses entries c) (hu : Step c u c' a) :
    Follows capacity (uses ++ [u]) (entries ++ [(u, a)]) c' := by
  have htaken : queued (entries ++ [(u, a)]) = queued entries ++ (taken? (u, a)).toList := by
    simp only [queued, List.filterMap_append, List.filterMap_cons, List.filterMap_nil]
    cases taken? (u, a) <;> rfl
  have hread : delivered (entries ++ [(u, a)]) = delivered entries ++ handedOn (u, a) := by simp [delivered]
  have hcount : overflows (entries ++ [(u, a)]) = overflows entries + if isOverflow (u, a) then 1 else 0 := by
    simp [overflows]
  have hkept (hthere : c'.receiver ≠ .gone) :
      queued (entries ++ [(u, a)]) = delivered (entries ++ [(u, a)]) ++ c'.waiting := by
    have hbefore : c.receiver ≠ .gone := fun hgone => hthere (hu.gone.mpr (.inl hgone))
    rw [htaken, hread, h.kept hbefore, List.append_assoc, List.append_assoc, hu.kept hthere]
  refine
    { capacity_eq := hu.capacity_eq.trans h.capacity_eq
      bounded := hu.capacity_eq ▸ hu.bounded h.bounded
      isOpen := hu.isOpen.trans ?_
      listens := hu.listens.trans ?_
      gone := hu.gone.trans ?_
      kept := hkept
      inOrder := ?_
      counted := by rw [hu.counted, h.counted, hcount] }
  · rw [h.isOpen]
    simp [eq_comm]
  · rw [h.listens]
    simp only [List.mem_append, List.mem_singleton]
    tauto
  · rw [h.gone]
    simp [eq_comm]
  · by_cases hthere : c'.receiver = .gone
    · rw [htaken, hread, hu.unread hthere, List.append_nil]
      exact h.inOrder.trans (List.prefix_append _ _)
    · exact ⟨c'.waiting, (hkept hthere).symm⟩

/-- A new connection follows its history, whatever is done with it. -/
theorem follows_after (user : UserId) (capacity : Nat) (uses : List Use) :
    Follows capacity uses ((new user capacity).history uses) ((new user capacity).after uses) := by
  induction uses using List.reverseRecOn with
  | nil => exact follows_new user capacity
  | append_singleton uses u ih =>
    rw [after_append, history_append]
    exact ih.step (use_step _ u)

/-- As long as nobody has closed it, a queue is full exactly if so many of the frames taken have not been read. -/
theorem Follows.full_iff {capacity : Nat} {uses : List Use} {entries : List (Use × Answer)} {c : Connection}
    (h : Follows capacity uses entries c) (hopen : LeaveOpen uses) :
    (delivered entries).length + max 1 capacity ≤ (queued entries).length ↔ c.capacity ≤ c.waiting.length := by
  have hpresent : c.receiver ≠ .gone := mt h.gone.mp hopen.2.2
  have hlength := congrArg List.length (h.kept hpresent)
  rw [List.length_append] at hlength
  rw [h.capacity_eq]
  omega

/-- What becomes of a frame follows from the history. -/
theorem Follows.send_iff {capacity : Nat} {uses : List Use} {entries : List (Use × Answer)} {c : Connection}
    (h : Follows capacity uses entries c) (frame : String) :
    let isFull := (delivered entries).length + max 1 capacity ≤ (queued entries).length
    ((c.send frame).2 = .queued ↔ LeaveOpen uses ∧ ¬ isFull) ∧
      ((c.send frame).2 = .dropped ↔ LeaveOpen uses ∧ isFull) ∧ ((c.send frame).2 = .closed ↔ ¬ LeaveOpen uses) := by
  intro isFull
  rcases c.send_cases frame with ⟨hclosed, hsend⟩ | ⟨hopen, hplace, hsend⟩ | ⟨hopen, hover, hsend⟩
  · have hnot : ¬ LeaveOpen uses := by simp [← h.isClosed_iff, hclosed]
    simp [hsend, hnot]
  · have huses := h.isClosed_iff.mp hopen
    have hroom : ¬ isFull := mt (h.full_iff huses).mp (Nat.not_le_of_lt hplace)
    simp [hsend, huses, hroom]
  · have huses := h.isClosed_iff.mp hopen
    have hfull : isFull := (h.full_iff huses).mpr hover
    simp [hsend, huses, hfull]

/-- Reading to the end hands on what still waits. -/
theorem Follows.read_to_end {capacity : Nat} {uses : List Use} {entries : List (Use × Answer)} {c : Connection}
    (h : Follows capacity uses entries c) (hthere : .dropReceiver ∉ uses) :
    delivered (entries ++ c.history [.receive none]) = queued entries := by
  have hpresent : c.receiver ≠ .gone := mt h.gone.mp hthere
  have hread : delivered (c.history [.receive none]) = (c.receive none).2.1 := List.append_nil _
  rw [delivered, List.flatMap_append, ← delivered, ← delivered, hread, h.kept hpresent, receive, if_neg hpresent]
  exact congrArg (delivered entries ++ ·) (List.take_of_length_le (Nat.le_succ _))

/-- A closed queue takes nothing any more. -/
theorem queued_of_closed {c : Connection} (h : c.isClosed = true) (uses : List Use) : queued (c.history uses) = [] := by
  induction uses generalizing c with
  | nil => rfl
  | cons u rest ih =>
    have hu := c.use_step u
    have hstays : (c.use u).1.isClosed = true := by
      by_contra hopen
      have hboth : (c.use u).1.isOpen = true ∧ (c.use u).1.receiver = .listening := by
        simpa [isClosed] using hopen
      simp [isClosed, (hu.isOpen.mp hboth.1).1, (hu.listens.mp hboth.2).1] at h
    rw [history, queued, List.filterMap_cons_none (hu.untaken h)]
    exact ih hstays

/--
Whatever has been done with a connection, its queue holds no more frames than it may. The frames that were read
are the first of those that were taken, and all of them once the queue has been read to its end, unless its
reading side was dropped. A frame that is sent is taken exactly if nobody has closed the queue and there is a
place in it, is dropped if there is none, and these frames are counted and no others. Only the first call to
close tells that it has closed the queue, and nothing is taken after any side was closed.
-/
theorem queue_follows_history (user : UserId) (capacity : Nat) (uses : List Use) :
    let c := (new user capacity).after uses
    let entries := (new user capacity).history uses
    let isFull := (delivered entries).length + max 1 capacity ≤ (queued entries).length
    c.waiting.length ≤ max 1 capacity ∧
      delivered entries <+: queued entries ∧
      (.dropReceiver ∉ uses →
        delivered ((new user capacity).history (uses ++ [.receive none])) = queued entries) ∧
      (∀ u frame, u.frame? = some frame →
        ((c.use u).2 = .sent .queued ↔ LeaveOpen uses ∧ ¬ isFull) ∧
        ((c.use u).2 = .sent .dropped ↔ LeaveOpen uses ∧ isFull) ∧
        ((c.use u).2 = .sent .closed ↔ ¬ LeaveOpen uses)) ∧
      c.use (.sendText none) = (c, .sent .dropped) ∧
      c.dropped = overflows entries ∧
      (c.use .close).2 = .closed (decide (.close ∉ uses)) ∧
      (¬ LeaveOpen uses → ∀ more, queued ((new user capacity).history (uses ++ more)) = queued entries) := by
  intro c entries isFull
  have h : Follows capacity uses entries c := follows_after user capacity uses
  refine ⟨?_, h.inOrder, fun hthere => ?_, fun u frame hu => ?_, rfl, h.counted, ?_, fun hclosed more => ?_⟩
  · rw [Nat.max_comm, ← h.capacity_eq]
    exact h.bounded
  · rw [history_append]
    exact h.read_to_end hthere
  · rw [use_of_frame hu]
    simp only [Answer.sent.injEq]
    exact h.send_iff frame
  · change Answer.closed c.isOpen = _
    congr 1
    rw [Bool.eq_iff_iff, h.isOpen, decide_eq_true_iff]
  · have hover : c.isClosed = true := by simpa [← h.isClosed_iff] using hclosed
    rw [history_append, queued, List.filterMap_append, ← queued, ← queued, queued_of_closed hover, List.append_nil]

/-- Frames are read in their order, the third finds no place, and the fourth finds the queue closed. -/
example :
    (new 1 2).history [.send "a", .sendText (some "b"), .send "c", .receive (some 1), .close, .send "d",
        .receive none] =
      [(.send "a", .sent .queued), (.sendText (some "b"), .sent .queued), (.send "c", .sent .dropped),
       (.receive (some 1), .received ["a"] .limit), (.close, .closed true), (.send "d", .sent .closed),
       (.receive none, .received ["b"] .disconnected)] := by
  decide

end Parlor.Connection
