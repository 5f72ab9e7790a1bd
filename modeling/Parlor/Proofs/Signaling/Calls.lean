import Parlor.Proofs.Queues
import Parlor.Proofs.Signaling.Operations

/-!
# Calls on a signaling hub

Whoever is connected asks for one of three things: to join a room, to leave it, or to hand a signal on. At a
hub that is not wired such a call leaves other peers in the rooms, and some posts; so does a connection that
goes away, and nothing else changes the rooms.

No room ever holds more peers than the hub allows, or none at all, and a user is in a room once.
-/

namespace Parlor

open Json

namespace Signaling

/-- What may be asked of a hub. -/
inductive Call where
  | join (room : String) (user : UserId) (name : String) (connection : ConnectionId)
  | leave (room : String) (user : UserId)
  | relay (room : String) (sender target : UserId) (signal : Signal)

/-- What a user asks for with some bytes. -/
def Call.ofFrame? (room name : String) (connection : ConnectionId) (user : UserId) (bytes : Bytes) : Option Call :=
  match Signal.decode bytes with
  | .error _ => none
  | .ok signal =>
    match Command.ofSignal signal with
    | .ok (.join given) => some (.join room user (given.getD name) connection)
    | .ok .leave => some (.leave room user)
    | .ok (.relay target signal) => some (.relay room user target signal)
    | .ok (.unknown _) | .error _ => none

/-- A user joins on a connection of its own, and only signals of peers that were read from bytes are handed on. -/
def Call.Permitted (s : Shared) : Call → Prop
  | .join _ user _ connection => user = s.userOf connection
  | .leave _ _ => True
  | .relay _ _ _ signal => signal.kind.isRelayed = true ∧ ∃ bytes, Signal.decode bytes = .ok signal

/-- What a user asks for with some bytes is permitted. -/
theorem Call.permitted_ofFrame? {s : Shared} {room name : String} {connection : ConnectionId} {bytes : Bytes}
    {call : Call} (h : ofFrame? room name connection (s.userOf connection) bytes = some call) : call.Permitted s := by
  unfold ofFrame? at h
  split at h
  · contradiction
  · rename_i sent hdecode
    split at h
    · exact Option.some.inj h ▸ rfl
    · exact Option.some.inj h ▸ trivial
    · rename_i target signal hcommand
      obtain ⟨hkind, -, rfl⟩ := Command.relay_cases hcommand
      exact Option.some.inj h ▸ ⟨hkind, bytes, hdecode⟩
    · contradiction
    · contradiction

namespace Hub

/-- Does what is asked for. -/
def serve (h : Hub) (s : Shared) : Call → Hub × Shared
  | .join room user name connection =>
    let (h, s, _) := h.join s room user name connection
    (h, s)
  | .leave room user => h.leave s room user
  | .relay room sender target signal => (h, h.relay s room sender target signal)

/-- A frame is served as the call that it asks for, if any. -/
theorem handle_eq (h : Hub) (s : Shared) (room name : String) (connection : ConnectionId) (bytes : Bytes) :
    h.handle s room name connection bytes =
      match Call.ofFrame? room name connection (s.userOf connection) bytes with
      | some call => h.serve s call
      | none => (h, s) := by
  unfold handle Call.ofFrame?
  cases Signal.decode bytes with
  | error fault => rfl
  | ok sent =>
    dsimp only
    rcases Command.ofSignal sent with fault | given | _ | _ | _ <;> rfl

/-! ## What comes of a call -/

/-- A room has no place for a user. -/
def isFullFor (h : Hub) (room : String) (user : UserId) : Bool :=
  !h.rooms.contains room user && h.maxPeers ≤ h.rooms.scopeSize room

/-- A hub after a user has joined a room. -/
def joinedBy (h : Hub) (room : String) (user : UserId) (peer : Peer) : Hub :=
  { h with rooms := h.rooms.register room user peer }

/-- The peers of a room without one of them. -/
def others (h : Hub) (room : String) (user : UserId) : List PeerSummary := (h.peers room).filter (·.user != user)

/-- A signal as it is handed on. -/
def stamped (room : String) (sender target : UserId) (signal : Signal) : Signal :=
  { signal with room := some room, user := some sender, target := some target }

/-- In a full room a joiner is told so, and nothing else happens. -/
theorem join_full {h : Hub} {room : String} {user : UserId} (hfull : h.isFullFor room user = true) (s : Shared)
    (name : String) (connection : ConnectionId) :
    h.join s room user name connection =
      (h, s.post connection (Signal.error room (Failure.peerLimit room h.maxPeers).clientMessage).text,
        .error (.peerLimit room h.maxPeers)) :=
  if_pos hfull

/-- A joiner for whom there is a place is told who is there, and the others are told of the joiner. -/
theorem join_open {h : Hub} {room : String} {user : UserId} (hopen : ¬ h.isFullFor room user = true) (s : Shared)
    (name : String) (connection : ConnectionId) :
    h.join s room user name connection =
      (h.joinedBy room user { name, connection },
        (s.post connection (Signal.roomUsers room (h.others room user)).text).spread h.wiring.isLive
          ((h.joinedBy room user { name, connection }).bulletin room (.userJoined room user name)), .ok ()) := by
  refine (if_neg hopen).trans ?_
  simp only [fanOut_eq]
  rfl

/-- A bulletin that is not published goes to the queues. -/
theorem spread_unwired (s : Shared) (b : Bulletin) : s.spread false b = s.postAll b.posts := rfl

/-- What a call leaves, and what is sent to whom because of it, at a hub that is not wired. -/
def answer (h : Hub) : Call → Hub × List (ConnectionId × String)
  | .join room user name connection =>
    if h.isFullFor room user then
      (h, [(connection, (Signal.error room (Failure.peerLimit room h.maxPeers).clientMessage).text)])
    else
      (h.joinedBy room user { name, connection },
        (connection, (Signal.roomUsers room (h.others room user)).text) ::
          ((h.joinedBy room user { name, connection }).bulletin room (.userJoined room user name)).posts)
  | .leave room user =>
    ((h.removal room user fun _ => true).1, (h.removal room user fun _ => true).2.flatMap (·.posts))
  | .relay room sender target signal =>
    (h, match h.rooms.get? room target with
      | some peer => [(peer.connection, (stamped room sender target signal).text)]
      | none => [])

/-- Removals leave the wiring alone. -/
theorem removals_wiring (h : Hub) (user : UserId) (condition : ConnectionId → Bool) (rooms : List String) :
    (h.removals user condition rooms).1.wiring = h.wiring := by
  induction rooms generalizing h with
  | nil => rfl
  | cons room rest ih =>
    have hone : (h.removal room user condition).1.wiring = h.wiring := by
      unfold removal
      split
      · split <;> rfl
      · rfl
    exact (ih _).trans hone

/-- At a hub that is not wired, removals tell the others at once. -/
theorem foldl_remove_unwired {h : Hub} (hunwired : h.wiring.isLive = false) (s : Shared) (user : UserId)
    (condition : ConnectionId → Bool) (rooms : List String) :
    rooms.foldl (fun (p : Hub × Shared) room => p.1.remove p.2 room user condition) (h, s) =
      ((h.removals user condition rooms).1, s.postAll ((h.removals user condition rooms).2.flatMap (·.posts))) := by
  have hremoved := h.foldl_remove_eq h.wiring s user condition rooms
  rw [hunwired, Shared.carry_unwired] at hremoved
  refine hremoved.trans (congrArg₂ Prod.mk ?_ rfl)
  rw [← h.removals_wiring user condition rooms]

/-- At a hub that is not wired a call has this answer. -/
theorem serve_eq {h : Hub} (hunwired : h.wiring.isLive = false) (s : Shared) (call : Call) :
    h.serve s call = ((h.answer call).1, s.postAll (h.answer call).2) := by
  cases call with
  | join room user name connection =>
    by_cases hfull : h.isFullFor room user = true
    · simp only [serve, join_full hfull, answer, if_pos hfull]
      rfl
    · simp only [serve, join_open hfull, answer, if_neg hfull, hunwired, spread_unwired]
      rfl
  | leave room user =>
    have hremoved := foldl_remove_unwired hunwired s user (fun _ => true) [room]
    simp only [List.foldl_cons, List.foldl_nil, removals, List.append_nil] at hremoved
    exact hremoved
  | relay room sender target signal =>
    simp only [serve, relay, deliver, answer, stamped]
    cases h.rooms.get? room target with
    | some peer => rfl
    | none =>
      simp only [hunwired, Shared.announce]
      rfl

/-! ## How rooms are kept -/

/-- A hub that is not wired keeps rooms with at least one peer and at most some number, each of them once. -/
structure Tidy (h : Hub) (limit : Nat) : Prop where
  unwired : h.wiring.isLive = false
  limited : h.maxPeers = limit
  rooms : h.rooms.Proper limit

/-- A new hub is tidy. -/
theorem tidy_new (maxPeers : Nat) : (Hub.new maxPeers).Tidy (max maxPeers 1) :=
  ⟨rfl, rfl, Registry.proper_empty _⟩

section

variable {h : Hub} {limit : Nat} (hh : h.Tidy limit)

include hh

/-- A hub stays tidy when a user joins who is there, or for whom there is a place. -/
theorem Tidy.joinedBy {room : String} {user : UserId} (hopen : ¬ h.isFullFor room user = true) (peer : Peer) :
    (h.joinedBy room user peer).Tidy limit := by
  refine ⟨hh.unwired, hh.limited, hh.rooms.register (fun habsent => ?_) peer⟩
  rw [isFullFor, habsent, hh.limited] at hopen
  simpa using hopen

/-- A hub stays tidy when a user is taken out of a room. -/
theorem Tidy.removal (room : String) (user : UserId) (condition : ConnectionId → Bool) :
    (h.removal room user condition).1.Tidy limit := by
  unfold Hub.removal
  split
  · split
    · exact ⟨hh.unwired, hh.limited, hh.rooms.setMembers_erase room user⟩
    · exact hh
  · exact hh

/-- A hub stays tidy when a user is taken out of several rooms. -/
theorem Tidy.removals (user : UserId) (condition : ConnectionId → Bool) (rooms : List String) :
    (h.removals user condition rooms).1.Tidy limit := by
  induction rooms generalizing h with
  | nil => exact hh
  | cons room rest ih => exact ih (hh.removal room user condition)

/-- A hub stays tidy whatever is asked for. -/
theorem Tidy.answer (call : Call) : (h.answer call).1.Tidy limit := by
  cases call with
  | join room user name connection =>
    by_cases hfull : h.isFullFor room user = true
    · simpa only [Hub.answer, if_pos hfull] using hh
    · simpa only [Hub.answer, if_neg hfull] using hh.joinedBy hfull _
  | leave room user => exact hh.removal room user _
  | relay => exact hh

end

end Hub

/-! ## What happens to a hub -/

/-- What happens to a hub that is not wired, and to its connections. -/
inductive Happening where
  /-- Any bytes come from a connection in a room. -/
  | frame (room name : String) (connection : ConnectionId) (bytes : Bytes)
  /-- The user of a connection joins a room on it. -/
  | join (room name : String) (connection : ConnectionId)
  | leave (room : String) (user : UserId)
  /-- A signal of a peer, as it was read, is handed on. -/
  | relay (room : String) (sender target : UserId) (signal : Signal) (kind : signal.kind.isRelayed = true)
    (read : ∃ bytes, Signal.decode bytes = .ok signal)
  | disconnect (connection : ConnectionId)
  | connect (user : UserId) (capacity : Nat)
  /-- A connection is read or closed by its socket. -/
  | socket (id : ConnectionId) (change : Connection → Connection) (handling : Connection.Handling change)

namespace Site

/-- The call that something is. -/
def call? (t : Site) : Happening → Option Call
  | .frame room name connection bytes => Call.ofFrame? room name connection (t.shared.userOf connection) bytes
  | .join room name connection => some (.join room (t.shared.userOf connection) name connection)
  | .leave room user => some (.leave room user)
  | .relay room sender target signal _ _ => some (.relay room sender target signal)
  | .disconnect _ | .connect .. | .socket .. => none

/-- Every call is permitted. -/
theorem permitted_call? {t : Site} {e : Happening} {call : Call} (h : t.call? e = some call) :
    call.Permitted t.shared := by
  cases e with
  | frame => exact Call.permitted_ofFrame? h
  | join => exact Option.some.inj h ▸ rfl
  | leave => exact Option.some.inj h ▸ trivial
  | relay _ _ _ _ kind read => exact Option.some.inj h ▸ ⟨kind, read⟩
  | disconnect | connect | socket => contradiction

/-- What a call leads to. -/
def serve (t : Site) (call : Call) : Site :=
  let (hub, shared) := t.hub.serve t.shared call
  { hub, shared }

/-- What a happening leads to. -/
def meet (t : Site) : Happening → Site
  | .frame room name connection bytes => t.apply (.frame room name connection bytes)
  | .join room name connection => t.serve (.join room (t.shared.userOf connection) name connection)
  | .leave room user => t.serve (.leave room user)
  | .relay room sender target signal _ _ => t.serve (.relay room sender target signal)
  | .disconnect connection => t.apply (.disconnect connection)
  | .connect user capacity => t.apply (.connect user capacity)
  | .socket id change _ => t.apply (.connection id change)

/-- What several happenings lead to, one after the other. -/
def run (t : Site) (happenings : List Happening) : Site := happenings.foldl meet t

@[simp] theorem run_nil (t : Site) : t.run [] = t := rfl

@[simp] theorem run_cons (t : Site) (e : Happening) (happenings : List Happening) :
    t.run (e :: happenings) = (t.meet e).run happenings := rfl

/-- What a connection leaves that goes away, and what the others are told. -/
def farewell (t : Site) (connection : ConnectionId) : Hub × List Bulletin :=
  t.hub.removals (t.shared.userOf connection) (· == connection)
    (t.hub.roomsOf (t.shared.userOf connection) connection)

/-- Who is there after a happening, and what is sent to whom because of it. -/
def answer (t : Site) (e : Happening) : Hub × List (ConnectionId × String) :=
  match e with
  | .disconnect connection => ((t.farewell connection).1, (t.farewell connection).2.flatMap (·.posts))
  | e =>
    match t.call? e with
    | some call => t.hub.answer call
    | none => (t.hub, [])

/-- A happening is a call that is permitted, or a connection goes away, or it has no answer. -/
theorem answer_cases (t : Site) (e : Happening) :
    (∃ call, call.Permitted t.shared ∧ t.answer e = t.hub.answer call) ∨
      (∃ connection, t.answer e = ((t.farewell connection).1, (t.farewell connection).2.flatMap (·.posts))) ∨
      t.answer e = (t.hub, []) := by
  unfold answer
  split
  case h_1 connection => exact .inr (.inl ⟨connection, rfl⟩)
  case h_2 =>
    split
    case h_1 call hcall => exact .inl ⟨call, permitted_call? hcall, rfl⟩
    case h_2 => exact .inr (.inr rfl)

/-- A happening has this answer, or it concerns the connections alone. -/
theorem meet_cases {t : Site} (hunwired : t.hub.wiring.isLive = false) (e : Happening) :
    t.meet e = ⟨(t.answer e).1, t.shared.postAll (t.answer e).2⟩ ∨
      t.answer e = (t.hub, []) ∧ ((∃ user capacity, t.meet e = t.apply (.connect user capacity)) ∨
        ∃ id change, Connection.Handling change ∧ t.meet e = t.apply (.connection id change)) := by
  have hserve (call : Call) : t.serve call = ⟨(t.hub.answer call).1, t.shared.postAll (t.hub.answer call).2⟩ := by
    rw [serve, Hub.serve_eq hunwired]
  cases e with
  | frame room name connection bytes =>
    refine .inl ?_
    simp only [meet, apply, Hub.handle_eq, answer, call?]
    cases Call.ofFrame? room name connection (t.shared.userOf connection) bytes with
    | none => rfl
    | some call => exact hserve call
  | join room name connection => exact .inl (hserve (.join room (t.shared.userOf connection) name connection))
  | leave room user => exact .inl (hserve (.leave room user))
  | relay room sender target signal => exact .inl (hserve (.relay room sender target signal))
  | disconnect connection =>
    have hremoved := Hub.foldl_remove_unwired hunwired t.shared (t.shared.userOf connection) (· == connection)
      (t.hub.roomsOf (t.shared.userOf connection) connection)
    exact .inl (congrArg (fun p : Hub × Shared => Site.mk p.1 p.2) hremoved)
  | connect user capacity => exact .inr ⟨rfl, .inl ⟨user, capacity, rfl⟩⟩
  | socket id change handling => exact .inr ⟨rfl, .inr ⟨id, change, handling, rfl⟩⟩

/-- The hub after a happening is the one in its answer. -/
theorem meet_hub {t : Site} (hunwired : t.hub.wiring.isLive = false) (e : Happening) :
    (t.meet e).hub = (t.answer e).1 := by
  rcases meet_cases hunwired e with heq | ⟨hquiet, ⟨user, capacity, heq⟩ | ⟨id, change, -, heq⟩⟩
  · rw [heq]
  · rw [heq, hquiet]
    rfl
  · rw [heq, hquiet]
    rfl

/-- A hub stays tidy whatever happens. -/
theorem tidy_meet {t : Site} {limit : Nat} (h : t.hub.Tidy limit) (e : Happening) : (t.meet e).hub.Tidy limit := by
  rw [meet_hub h.unwired]
  rcases t.answer_cases e with ⟨call, -, heq⟩ | ⟨connection, heq⟩ | heq
  · exact heq ▸ h.answer call
  · exact heq ▸ h.removals _ _ _
  · exact heq ▸ h

/-- A hub that was tidy stays so, whatever happens. -/
theorem tidy_run {t : Site} {limit : Nat} (h : t.hub.Tidy limit) (happenings : List Happening) :
    (t.run happenings).hub.Tidy limit := by
  induction happenings generalizing t with
  | nil => exact h
  | cons e happenings ih => exact ih (tidy_meet h e)

/-- A join that fails leaves everything as it is, but for a frame to the joiner that tells why. -/
theorem meet_join_error {t : Site} {e : Happening} {room name : String} {user : UserId} {connection : ConnectionId}
    (hcall : t.call? e = some (.join room user name connection)) {f : Failure}
    (hfailed : (t.hub.join t.shared room user name connection).2.2 = .error f) :
    t.meet e = { t with shared := t.shared.post connection (Signal.error room f.clientMessage).text } := by
  have hserve : t.serve (.join room user name connection) =
      { t with shared := t.shared.post connection (Signal.error room f.clientMessage).text } := by
    by_cases hfull : t.hub.isFullFor room user = true
    · rw [Hub.join_full hfull] at hfailed
      obtain rfl := Except.error.inj hfailed
      simp only [serve, Hub.serve, Hub.join_full hfull]
    · rw [Hub.join_open hfull] at hfailed
      contradiction
  cases e with
  | frame =>
    rw [call?] at hcall
    rw [← hserve]
    simp only [meet, apply, Hub.handle_eq, hcall, serve]
  | join | leave | relay => exact (congrArg t.serve (Option.some.inj hcall)).trans hserve
  | disconnect | connect | socket => contradiction

end Site

end Signaling

end Parlor
