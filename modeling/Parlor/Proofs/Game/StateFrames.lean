import Parlor.Proofs.Game.Operations
import Parlor.Proofs.Game.Seats
import Parlor.Proofs.Queues

/-!
# Frames that tell the state of a room

A frame is judged as a player reads it: it is decoded, and tells the state of a room if every member of the
state is in its payload. Every announcement of a call has exactly one such frame, and no other frame of the hub
can be taken for one.
-/

namespace Parlor.Game

open Json

/-! ## Positions -/

/-- What the players see of a room. -/
def Room.position (r : Room) : Status × Board × Option UserId × Option UserId × Bool :=
  (r.status, r.board, r.nextTurn, r.winner, r.isDraw)

namespace Room

/-- Rooms in the same position tell the same state. -/
theorem stateMembers_of_position {r r' : Room} (h : r.position = r'.position) : r.stateMembers = r'.stateMembers := by
  simp only [position, Prod.mk.injEq] at h
  obtain ⟨hstatus, hboard, hturn, hwinner, hdraw⟩ := h
  simp only [stateMembers, turn?, hstatus, hboard, hturn, hwinner, hdraw]

/-- Rooms that agree up to their times are in the same position. -/
theorem position_of_untimed {r r' : Room} (h : r.untimed = r'.untimed) : r.position = r'.position := by
  rw [eq_of_untimed h]
  rfl

/-- Rooms with another status are in another position. -/
theorem position_ne_of_status {r r' : Room} (h : r.status ≠ r'.status) : r.position ≠ r'.position :=
  fun hsame => h (congrArg Prod.fst hsame)

/-- A call that is stored changes the position of its room. -/
theorem Leads.position_ne {r : Room} {data : String} {call : Call} {w : Write} (h : r.Leads data call w) :
    r.position ≠ w.room.position := by
  cases h with
  | join hstatus => exact position_ne_of_status (by simp [hstatus, Write.room, joinedBy])
  | @move user other move m c hlegal =>
    -- there is one free cell less
    intro hsame
    have hboard : r.board = (r.afterMove user other c m).1.board := congrArg (·.2.1) hsame
    have hfilled := congrArg Board.filled (hboard.trans (r.afterMove_frame user other c m).2.2.2.2.1)
    rw [Board.filled_set_free _ _ _ hlegal.free] at hfilled
    omega
  | forfeit hstatus => exact position_ne_of_status (by simp [hstatus, Write.room, wonBy])
  | cancel hstatus => exact position_ne_of_status (by simp [hstatus, Write.room])

/-- Only what gives a room up makes it a cancelled one, and only a join leaves a room that waited for one. -/
theorem Leads.status {r : Room} {data : String} {call : Call} {w : Write} (h : r.Leads data call w) :
    (w.room.status = .cancelled ↔ call = .cancel) ∧
      (call ≠ .cancel → (r.status = .pending ↔ ∃ user, call = .join user)) := by
  cases h with
  | join hstatus => simp [Write.room, joinedBy, hstatus]
  | @move user other move m c hlegal =>
    rcases (r.afterMove_frame user other c m).2.2.2.2.2 with hsame | hfinished
    · simp [Write.room, hsame, hlegal.active]
    · simp [Write.room, hfinished, hlegal.active]
  | forfeit hstatus => simp [Write.room, wonBy, hstatus]
  | cancel => simp [Write.room]

end Room

/-! ## Reading a frame -/

/-- Tests for a frame that tells the state of a room. -/
def isStateOf (id : RoomId) (frame : String) : Bool :=
  match Action.decode (encodeUtf8 frame) with
  | .ok a => decide (a.kind = .gameState ∧ a.room = some id)
  | .error _ => false

/-- A frame tells every member of the state of a room. -/
def Room.ToldBy (r : Room) (frame : String) : Prop :=
  ∃ a members, Action.decode (encodeUtf8 frame) = .ok a ∧ a.payload = .object members ∧
    ∀ m ∈ r.stateMembers, member? m.1 members = some m.2

/-- The text of a canonical action is read as that action. -/
theorem isStateOf_text {a : Action} (ha : a.IsCanonical) (id : RoomId) :
    isStateOf id a.text = decide (a.kind = .gameState ∧ a.room = some id) := by
  simp only [isStateOf, ha.decode_text]

/-- A chat is not taken for a state, whatever its payload is. -/
theorem isStateOf_chat {a : Action} {p : Number → Prop} (hkind : a.kind = .chat)
    (hpayload : a.payload.Within p Envelope.payloadDepth) (id : RoomId) : isStateOf id a.text = false := by
  unfold isStateOf
  rw [Action.decode_text hpayload, hkind]
  cases a.payload.reread with
  | error f => rfl
  | ok v => exact decide_eq_false (by simp [show ActionKind.ofName ActionKind.chat.name = .chat from rfl])

/-- What comes back of a chat from the bus is not taken for a state. -/
theorem isStateOf_echo {h : Hub} {room : RoomId} {a : Action} {p : Number → Prop} (hkind : a.kind = .chat)
    (hpayload : a.payload.Within p Envelope.payloadDepth) (id : RoomId) :
    ∀ q ∈ ((h.bulletin room a).echo Action.decode Action.text).posts, isStateOf id q.2 = false := by
  intro q hq
  obtain ⟨-, v, -, hdecode, hq⟩ := h.echo_posts room hpayload q hq
  rw [hq]
  exact isStateOf_chat (by rw [hkind]; rfl) (Action.decode_within hdecode).2 id

/-- A notice of the server is not taken for a state. -/
theorem isStateOf_notice {kind : ActionKind} (hkind : kind.IsCanonical) (hother : kind ≠ .gameState) (room : RoomId)
    (message : String) (id : RoomId) :
    isStateOf id (Action.inRoom kind room (Envelope.notice message)).text = false := by
  rw [isStateOf_text ⟨hkind, Envelope.isPlain_notice message⟩]
  exact decide_eq_false fun h => hother h.1

/-! ## What is announced -/

/-- Every member of the state of a room is found under its name. -/
theorem Room.member?_stateMembers (r : Room) : ∀ m ∈ r.stateMembers, member? m.1 r.stateMembers = some m.2 := by
  intro m hm
  simp only [stateMembers, List.mem_cons, List.not_mem_nil, or_false] at hm
  rcases hm with rfl | rfl | rfl | rfl | rfl <;> simp [stateMembers, member?]

/-- The name that tells of a forfeit is none of the state. -/
theorem Room.ne_forfeit (r : Room) : ∀ m ∈ r.stateMembers, m.1 ≠ "forfeit" := by
  intro m hm
  simp only [stateMembers, List.mem_cons, List.not_mem_nil, or_false] at hm
  rcases hm with rfl | rfl | rfl | rfl | rfl <;> simp

/-- A call that is told tells the state of its room in one of its announcements. -/
theorem Call.announcements_state {call : Call} (hcall : call ≠ .cancel) (r : Room) :
    ∃ a, (call.announcements r).filter (fun a => isStateOf r.id a.text) = [a] ∧ r.ToldBy a.text := by
  have hcanonical := Call.canonical_announcements r call
  have hall : (call.announcements r).filter (fun a => isStateOf r.id a.text) =
      (call.announcements r).filter (fun a => decide (a.kind = .gameState ∧ a.room = some r.id)) :=
    List.filter_congr fun a ha => isStateOf_text (hcanonical a ha) r.id
  rw [hall]
  cases call with
  | join user =>
    exact ⟨Hub.stateAction r, by simp [announcements, Hub.startedAction, Hub.stateAction, Action.inRoom], _, _,
      (hcanonical _ (by simp [announcements])).decode_text, rfl, r.member?_stateMembers⟩
  | move user move =>
    exact ⟨{ Hub.stateAction r with user := some user }, by simp [announcements, Hub.stateAction, Action.inRoom], _, _,
      (hcanonical _ (by simp [announcements])).decode_text, rfl, r.member?_stateMembers⟩
  | forfeit absent =>
    refine ⟨Hub.forfeitAction r, by simp [announcements, Hub.forfeitAction, Action.inRoom], _, _,
      (hcanonical _ (by simp [announcements])).decode_text, rfl, fun m hm => ?_⟩
    rw [member?_insertMember_of_ne (r.ne_forfeit m hm)]
    exact r.member?_stateMembers m hm
  | cancel => exact absurd rfl hcall

/-- What is announced of one room is not taken for the state of another one. -/
theorem Call.announcements_other {r : Room} {id : RoomId} (hid : id ≠ r.id) (call : Call) :
    ∀ a ∈ call.announcements r, isStateOf id a.text = false := by
  intro a ha
  have hroom : a.room = some r.id := by
    cases call with
    | join user =>
      simp only [announcements, List.mem_cons, List.not_mem_nil, or_false] at ha
      rcases ha with rfl | rfl <;> rfl
    | move user move | forfeit absent =>
      rw [announcements, List.mem_singleton] at ha
      exact ha ▸ rfl
    | cancel => simp [announcements] at ha
  rw [isStateOf_text (Call.canonical_announcements r call a ha)]
  exact decide_eq_false fun h => hid (Option.some.inj (h.2.symm.trans hroom))

/-! ## What one connection gets -/

/-- The frames that a connection gets of an announcement, one for each of its seats. -/
def Call.frames (call : Call) (next : Room) (seats : Nat) : List String :=
  (call.announcements next).flatMap fun a => List.replicate seats a.text

/-- The start of a game takes two frames for each seat, and everything else that is told takes one. -/
theorem Call.length_frames {r : Room} {data : String} {call : Call} {w : Write} (h : r.Leads data call w)
    (hcall : call ≠ .cancel) (next : Room) (seats : Nat) :
    (call.frames next seats).length = (if r.status = .pending then 2 else 1) * seats := by
  have hjoin := h.status.2 hcall
  cases call with
  | join user =>
    rw [if_pos (hjoin.mpr ⟨user, rfl⟩)]
    simp [frames, announcements, Nat.two_mul]
  | move user move => simp [frames, announcements, hjoin]
  | forfeit absent => simp [frames, announcements, hjoin]
  | cancel => exact absurd rfl hcall

/-- For each of its seats a connection gets one frame that tells the state of the room. -/
theorem Call.filter_frames {call : Call} (hcall : call ≠ .cancel) (next : Room) :
    ∃ frame, next.ToldBy frame ∧
      ∀ seats, (call.frames next seats).filter (isStateOf next.id) = List.replicate seats frame := by
  obtain ⟨a, ha, htold⟩ := announcements_state hcall next
  refine ⟨a.text, htold, fun seats => ?_⟩
  have hfilter (actions : List Action) :
      (actions.flatMap fun a => List.replicate seats a.text).filter (isStateOf next.id) =
        (actions.filter fun a => isStateOf next.id a.text).flatMap fun a => List.replicate seats a.text := by
    induction actions with
    | nil => rfl
    | cons b rest ih =>
      rw [List.flatMap_cons, List.filter_append, ih, List.filter_replicate, List.filter_cons]
      split <;> rfl
  rw [frames, hfilter, ha, List.flatMap_singleton]

end Parlor.Game
