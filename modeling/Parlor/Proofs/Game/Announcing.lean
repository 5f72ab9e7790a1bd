import Parlor.Game.Hub
import Parlor.Proofs.Delivery
import Parlor.Proofs.Envelopes
import Parlor.Proofs.Game.Lifecycle

/-!
# What the players are told

Every call that changes a room is announced to the seated players, except that a room has been given up.
An announcement comes back from the bus word for word. Of a chat with real numbers the bus gives back what
is left of them, so nothing is assumed here about the payloads of players.
-/

namespace Parlor.Game

open Json

/-! ## Announcements -/

/-- What the players of a room are told when a call has led to it. -/
def Call.announcements (next : Room) : Call → List Action
  | .join _ => [Hub.startedAction next, Hub.stateAction next]
  | .move user _ => [{ Hub.stateAction next with user := some user }]
  | .forfeit _ => [Hub.forfeitAction next]
  | .cancel => []

/-- A user or none is a plain value. -/
theorem isPlain_userJson (user : Option UserId) (depth : Nat) : (Room.userJson user).IsPlain depth := by
  cases user with
  | none => exact .null depth
  | some user => exact isPlain_word user depth

/-- A board is three rows of three texts. -/
theorem Board.isPlain_toJson (b : Board) (depth : Nat) : b.toJson.IsPlain (depth + 2) := by
  refine .array fun row hrow => ?_
  obtain ⟨cells, -, rfl⟩ := List.mem_map.mp hrow
  refine .array fun cell hcell => ?_
  obtain ⟨m, -, rfl⟩ := List.mem_map.mp hcell
  exact .string depth _

namespace Room

/-- The members that tell the state of a room are ordered. -/
theorem ordered_stateMembers (r : Room) : OrderedMembers r.stateMembers := by
  simp only [OrderedMembers, stateMembers, List.pairwise_cons, List.mem_cons, List.not_mem_nil, or_false,
    forall_eq_or_imp, forall_eq, List.Pairwise.nil, and_true, false_imp_iff, implies_true]
  decide

/-- The members that tell the state of a room are plain. -/
theorem isPlain_stateMembers (r : Room) (depth : Nat) : ∀ m ∈ r.stateMembers, m.2.IsPlain (depth + 2) := by
  intro m hm
  simp only [stateMembers, List.mem_cons, List.not_mem_nil, or_false] at hm
  rcases hm with rfl | rfl | rfl | rfl | rfl
  · exact r.board.isPlain_toJson depth
  · exact .bool _ _
  · exact isPlain_userJson _ _
  · exact .string _ _
  · exact isPlain_userJson _ _

/-- The state of a room is plain. -/
theorem isPlain_statePayload (r : Room) : r.statePayload.IsPlain Envelope.payloadDepth :=
  .object r.ordered_stateMembers (r.isPlain_stateMembers 123)

/-- The start of a game is plain. -/
theorem isPlain_startedPayload (r : Room) : r.startedPayload.IsPlain Envelope.payloadDepth := by
  refine .object ?_ fun m hm => ?_
  · simp only [OrderedMembers, List.pairwise_cons, List.mem_cons, List.not_mem_nil, or_false,
      forall_eq_or_imp, forall_eq, List.Pairwise.nil, and_true, false_imp_iff, implies_true]
    decide
  · simp only [List.mem_cons, List.not_mem_nil, or_false] at hm
    rcases hm with rfl | rfl | rfl | rfl
    · exact isPlain_word _ _
    · exact isPlain_userJson _ _
    · exact isPlain_userJson _ _
    · exact .string _ _

end Room

/-- A member that is put in changes no other one. -/
theorem member?_insertMember_of_ne {α : Type} {name other : String} (h : other ≠ name) (value : α)
    (members : List (String × α)) : member? other (insertMember name value members) = member? other members := by
  induction members with
  | nil => simp [insertMember, member?, h]
  | cons m rest ih =>
    obtain ⟨key, old⟩ := m
    rw [insertMember]
    split
    case isTrue hkey =>
      subst hkey
      simp [member?, h]
    case isFalse =>
      split
      · simp [member?, h]
      · simp only [member?, ih]

/-- Every announcement keeps its form on the wire. -/
theorem Call.canonical_announcements (next : Room) (call : Call) : ∀ a ∈ call.announcements next, a.IsCanonical := by
  have hknown {k : ActionKind} (hk : k.isKnown = true) : k.IsCanonical := by
    rintro s rfl
    contradiction
  intro a ha
  cases call with
  | join user =>
    simp only [announcements, List.mem_cons, List.not_mem_nil, or_false] at ha
    rcases ha with rfl | rfl
    · exact ⟨hknown rfl, next.isPlain_startedPayload⟩
    · exact ⟨hknown rfl, next.isPlain_statePayload⟩
  | move user move =>
    rw [announcements, List.mem_singleton] at ha
    exact ha ▸ ⟨hknown rfl, next.isPlain_statePayload⟩
  | forfeit absent =>
    rw [announcements, List.mem_singleton] at ha
    refine ha ▸ ⟨hknown rfl, .object (next.ordered_stateMembers.insert _ _) fun m hm => ?_⟩
    rcases mem_insertMember hm with rfl | hm
    · exact .bool _ true
    · exact next.isPlain_stateMembers 123 m hm
  | cancel => simp [announcements] at ha

/-! ## Bulletins of a room -/

namespace Hub

/-- An action for all who are seated in a room. -/
def bulletin (h : Hub) (room : RoomId) (a : Action) : Bulletin := ⟨Channel.game room, a.text, h.seats.snapshot room⟩

/-- Telling the players of a room is spreading a bulletin. -/
theorem fanOut_eq (h : Hub) (s : Shared) (room : RoomId) (a : Action) :
    h.fanOut s room a = s.spread h.wiring.isLive (h.bulletin room a) := by
  rcases hannounce : s.announce h.wiring.isLive (Channel.game room) a.text with ⟨s, _ | _⟩
  · simp only [fanOut, Shared.spread, bulletin, hannounce]
    exact s.sendAll_eq _ _
  · simp only [fanOut, Shared.spread, bulletin, hannounce]

/-- The channel of a room is one of those that a hub listens to. -/
theorem isMatch_bulletin (h : Hub) (room : RoomId) (a : Action) :
    Channel.isMatch (Channel.allUnder Channel.gameStem) (h.bulletin room a).channel = true := Channel.isMatch_stem _ _

/-- What a hub takes from the bus it tells as an echo. -/
theorem receive_bulletin (h : Hub) (s : Shared) (room : RoomId) (a : Action) :
    h.receive s (h.bulletin room a).message = s.tell ((h.bulletin room a).echo Action.decode Action.text) := by
  simp only [receive, Bulletin.message, bulletin, Channel.game?_game, Bulletin.echo]
  cases Action.decode (encodeUtf8 a.text) with
  | ok a => exact s.sendAll_eq _ _
  | error f => rfl

/-- What comes back of an action goes to the same seats, with what is left of its kind and its payload. -/
theorem echo_posts (h : Hub) (room : RoomId) {a : Action} {p : Number → Prop}
    (hpayload : a.payload.Within p Envelope.payloadDepth) :
    ∀ q ∈ ((h.bulletin room a).echo Action.decode Action.text).posts, q.1 ∈ h.seats.snapshot room ∧
      ∃ v, a.payload.reread = .ok v ∧
        Action.decode (encodeUtf8 a.text) = .ok { a with kind := .ofName a.kind.name, payload := v } ∧
        q.2 = Action.text { a with kind := .ofName a.kind.name, payload := v } := by
  intro q hq
  obtain ⟨hseat, a', ha', hq⟩ := Bulletin.echo_posts q hq
  rw [show (h.bulletin room a).payload = a.text from rfl, Action.decode_text hpayload] at ha'
  cases hreread : a.payload.reread with
  | error f => simp [hreread, Except.map] at ha'
  | ok v =>
    rw [hreread] at ha'
    obtain rfl := Except.ok.inj ha'
    exact ⟨hseat, v, rfl, by rw [Action.decode_text hpayload, hreread]; rfl, hq⟩

/-- A canonical action comes back as it is. -/
theorem echo_bulletin (h : Hub) (room : RoomId) {a : Action} (ha : a.IsCanonical) :
    (h.bulletin room a).echo Action.decode Action.text = h.bulletin room a := Bulletin.echo_eq ha.decode_text rfl

/-- What is announced of a room comes back as it is. -/
theorem map_echo_announcements (h : Hub) (room : RoomId) (next : Room) (call : Call) :
    ((call.announcements next).map (h.bulletin room)).map (·.echo Action.decode Action.text) =
      (call.announcements next).map (h.bulletin room) := by
  rw [List.map_map]
  exact List.map_congr_left fun a ha => h.echo_bulletin room (Call.canonical_announcements next call a ha)

end Hub

end Parlor.Game
