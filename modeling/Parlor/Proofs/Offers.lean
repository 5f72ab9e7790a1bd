import Parlor.Proofs.Queues

/-!
# Frames that are offered

A frame that is sent to several connections is offered to each of them. What becomes of it at one connection
depends on the queue of that connection only: it is taken, or dropped and counted, or lost if the queue is
closed. Those who have taken it are counted.
-/

namespace Parlor

/-! ## One connection -/

namespace Connection

/-- The queue is open and has a free slot. -/
def HasRoom (c : Connection) : Prop := c.isClosed = false ∧ c.waiting.length < c.capacity

/-- A frame is queued behind those that wait if there is room. -/
theorem HasRoom.send {c : Connection} (h : c.HasRoom) (frame : String) :
    c.send frame = ({ c with waiting := c.waiting ++ [frame] }, .queued) := by
  rw [Connection.send, h.1, if_neg (by simp), if_pos h.2]

/-- A frame is dropped and counted if an open queue is full. -/
theorem send_full {c : Connection} (hopen : c.isClosed = false) (hfull : c.capacity ≤ c.waiting.length)
    (frame : String) : c.send frame = ({ c with dropped := c.dropped + 1 }, .dropped) := by
  rw [Connection.send, hopen, if_neg (by simp), if_neg (Nat.not_lt.mpr hfull)]

/-- A closed queue takes no notice of a frame. -/
theorem send_closed {c : Connection} (h : c.isClosed = true) (frame : String) : c.send frame = (c, .closed) :=
  if_pos h

/-- A frame is queued exactly if there is room. -/
theorem send_queued_iff (c : Connection) (frame : String) : (c.send frame).2 = .queued ↔ c.HasRoom := by
  refine ⟨fun hqueued => ?_, fun h => by rw [h.send]⟩
  unfold Connection.send at hqueued
  split at hqueued
  · contradiction
  · rename_i hopen
    split at hqueued
    · rename_i hroom
      exact ⟨Bool.eq_false_iff.mpr hopen, hroom⟩
    · contradiction

/-- Frames for which there is room are all queued, and nothing else changes. -/
theorem sendAll_of_free {c : Connection} {frames : List String} (h : frames.length ≤ c.free) :
    (c.sendAll frames).1 = { c with waiting := c.waiting ++ frames } := by
  induction frames generalizing c with
  | nil => simp [sendAll]
  | cons frame rest ih =>
    rw [free] at h
    split at h
    case isTrue => simp at h
    case isFalse hopen =>
      rw [List.length_cons] at h
      have hroom : c.HasRoom := ⟨Bool.eq_false_iff.mpr hopen, by omega⟩
      have hrest : rest.length ≤ Connection.free { c with waiting := c.waiting ++ [frame] } := by
        have hfree : Connection.free { c with waiting := c.waiting ++ [frame] } =
            c.capacity - (c.waiting ++ [frame]).length := if_neg hopen
        rw [hfree, List.length_append, List.length_singleton]
        omega
      rw [sendAll, hroom.send]
      simpa using ih hrest

end Connection

/-! ## Several connections -/

namespace Shared

/-- The connection is there, and its queue is open and has a free slot. -/
def Takes (s : Shared) (id : ConnectionId) : Prop := ∃ c, s.connection? id = some c ∧ c.HasRoom

/-- A frame has been offered to the addressed connections, each once, and to no other. -/
structure Offers (s : Shared) (frame : String) (addressed : ConnectionId → Prop) (result : Shared × Nat) : Prop where
  /-- All who are addressed are tried one after the other. -/
  attempts : ∃ ids : List ConnectionId, ids.Nodup ∧ (∀ id, id ∈ ids ↔ addressed id) ∧ result = s.sendAll frame ids
  present : ∀ id, addressed id → ∃ c, s.connection? id = some c
  queued : ∀ id c, addressed id → s.connection? id = some c → c.HasRoom →
    result.1.connection? id = some { c with waiting := c.waiting ++ [frame] }
  full : ∀ id c, addressed id → s.connection? id = some c → c.isClosed = false → c.capacity ≤ c.waiting.length →
    result.1.connection? id = some { c with dropped := c.dropped + 1 }
  closed : ∀ id c, addressed id → s.connection? id = some c → c.isClosed = true → result.1.connection? id = some c
  others : ∀ id, ¬ addressed id → result.1.connection? id = s.connection? id
  /-- Nothing but the connections changes. -/
  rest : result.1 = { s with connections := result.1.connections }
  count : ∃ takers : List ConnectionId, takers.Nodup ∧ (∀ id, id ∈ takers ↔ addressed id ∧ s.Takes id) ∧
    result.2 = takers.length

/-- Posts take no time. -/
theorem postAll_timestamp (s : Shared) (posts : List (ConnectionId × String)) :
    (s.postAll posts).timestamp = s.timestamp := by rw [postAll_eq]

/-- Sending to one connection is nothing to another. -/
theorem send_connection? (s : Shared) (other id : ConnectionId) (frame : String) :
    (s.send other frame).1.connection? id =
      if other = id then (s.connection? id).map fun c => (c.send frame).1 else s.connection? id :=
  s.connection?_post other frame id

/-- A frame is queued exactly if the connection takes it. -/
theorem send_queued_iff (s : Shared) (id : ConnectionId) (frame : String) :
    (s.send id frame).2 = .queued ↔ s.Takes id := by
  unfold send Takes
  cases s.connection? id with
  | none => simp
  | some c => simp [c.send_queued_iff]

/-- Each of several different connections is sent the frame once. -/
theorem sendAll_connection? {ids : List ConnectionId} (h : ids.Nodup) (s : Shared) (frame : String)
    (id : ConnectionId) : (s.sendAll frame ids).1.connection? id =
      if id ∈ ids then (s.connection? id).map fun c => (c.send frame).1 else s.connection? id := by
  induction ids generalizing s with
  | nil => rfl
  | cons first rest ih =>
    obtain ⟨hnew, hrest⟩ := List.nodup_cons.mp h
    have hsent := (ih hrest (s.send first frame).1)
    rw [send_connection?] at hsent
    refine hsent.trans ?_
    by_cases hfirst : first = id
    · subst hfirst
      simp [hnew]
    · simp [hfirst, Ne.symm hfirst]

/-- Of several different connections those that take the frame are counted. -/
theorem sendAll_count {ids : List ConnectionId} (h : ids.Nodup) (s : Shared) (frame : String) :
    ∃ takers : List ConnectionId, takers.Nodup ∧ (∀ id, id ∈ takers ↔ id ∈ ids ∧ s.Takes id) ∧
      (s.sendAll frame ids).2 = takers.length := by
  induction ids generalizing s with
  | nil => exact ⟨[], .nil, by simp, rfl⟩
  | cons first rest ih =>
    obtain ⟨hnew, hrest⟩ := List.nodup_cons.mp h
    obtain ⟨takers, hnodup, htakers, hcount⟩ := ih hrest (s.send first frame).1
    -- the first one makes no difference to the rest
    have hsame : ∀ id, id ∈ takers ↔ id ∈ rest ∧ s.Takes id := by
      intro id
      rw [htakers]
      refine and_congr_right fun hid => ?_
      have hne : first ≠ id := fun heq => hnew (heq ▸ hid)
      rw [Takes, Takes, send_connection?, if_neg hne]
    have hstep : (s.sendAll frame (first :: rest)).2 =
        if (s.send first frame).2 = .queued then takers.length + 1 else takers.length := by
      rw [← hcount]
      rfl
    by_cases hfirst : s.Takes first
    · refine ⟨first :: takers, List.nodup_cons.mpr ⟨fun hmem => hnew ((hsame first).mp hmem).1, hnodup⟩, ?_, ?_⟩
      · intro id
        rw [List.mem_cons, List.mem_cons, hsame]
        grind
      · rw [hstep, if_pos ((s.send_queued_iff first frame).mpr hfirst), List.length_cons]
    · refine ⟨takers, hnodup, ?_, ?_⟩
      · intro id
        rw [hsame, List.mem_cons]
        grind
      · rw [hstep, if_neg (mt (s.send_queued_iff first frame).mp hfirst)]

/-- A frame that is sent to different connections is offered to them. -/
theorem offers_sendAll {s : Shared} {ids : List ConnectionId} {addressed : ConnectionId → Prop} (hnodup : ids.Nodup)
    (haddressed : ∀ id, id ∈ ids ↔ addressed id) (hpresent : ∀ id, addressed id → ∃ c, s.connection? id = some c)
    (frame : String) : s.Offers frame addressed (s.sendAll frame ids) := by
  have hsent {id : ConnectionId} {c : Connection} (hid : addressed id) (hc : s.connection? id = some c) :
      (s.sendAll frame ids).1.connection? id = some (c.send frame).1 := by
    rw [sendAll_connection? hnodup, if_pos ((haddressed id).mpr hid), hc, Option.map_some]
  refine ⟨⟨ids, hnodup, haddressed, rfl⟩, hpresent, ?_, ?_, ?_, ?_, ?_, ?_⟩
  · intro id c hid hc hroom
    rw [hsent hid hc, hroom.send]
  · intro id c hid hc hopen hfull
    rw [hsent hid hc, Connection.send_full hopen hfull]
  · intro id c hid hc hclosed
    rw [hsent hid hc, Connection.send_closed hclosed]
  · intro id hid
    rw [sendAll_connection? hnodup, if_neg (mt (haddressed id).mp hid)]
  · rw [sendAll_eq, postAll_eq]
  · obtain ⟨takers, hdistinct, htakers, hcount⟩ := sendAll_count hnodup s frame
    exact ⟨takers, hdistinct, fun id => (htakers id).trans (and_congr_left' (haddressed id)), hcount⟩

end Shared

end Parlor
