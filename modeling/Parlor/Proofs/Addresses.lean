import Parlor.Proofs.Channels

/-!
# Addresses on the bus

Rooms, calls, conversations and users are addressed by the names of their channels. The name of an
address is read as that address and as no other, and it lies in one namespace, the one whose hub it is
for. Nothing that is chosen as the name of a call leads out of the namespace of calls, since the four
namespaces begin with different letters.
-/

namespace Parlor.Channel

/-! ## Names that begin with a stem -/

/-- What is left of characters after a beginning is what follows it. -/
theorem stripChars_eq_some_iff {stem cs rest : List Char} : stripChars stem cs = some rest ↔ cs = stem ++ rest := by
  induction stem generalizing cs with
  | nil => simp [stripChars]
  | cons c stem ih =>
    cases cs with
    | nil => simp [stripChars]
    | cons d cs =>
      rw [stripChars]
      by_cases h : c = d
      · simp [h, ih]
      · simp [h, Ne.symm h]

/-- What is left of a channel after a stem is what follows it. -/
theorem strip?_eq_some_iff {stem channel rest : String} : strip? stem channel = some rest ↔ channel = stem ++ rest := by
  rw [strip?, Option.map_eq_some_iff]
  constructor
  · rintro ⟨cs, hcs, rfl⟩
    rw [stripChars_eq_some_iff] at hcs
    rw [← String.toList_inj, hcs, String.toList_append, String.toList_ofList]
  · rintro rfl
    exact ⟨rest.toList, by rw [String.toList_append, stripChars_append], String.ofList_toList⟩

/-- The pattern of a stem stands for the channels that begin with it, and for no others. -/
theorem isMatch_allUnder_iff {stem channel : String} :
    isMatch (allUnder stem) channel = true ↔ ∃ rest, channel = stem ++ rest := by
  rw [isMatch_allUnder, Option.isSome_iff_exists]
  constructor
  · rintro ⟨cs, hcs⟩
    exact ⟨String.ofList cs, strip?_eq_some_iff.mp (by rw [strip?, hcs, Option.map_some])⟩
  · rintro ⟨rest, rfl⟩
    exact ⟨rest.toList, by rw [String.toList_append, stripChars_append]⟩

/-! ## Namespaces -/

/-- The namespaces of channels, each with its subscribers. -/
inductive Realm where
  | games
  | calls
  | conversations
  | notices
  deriving DecidableEq, Repr

namespace Realm

/-- The beginning of all channels of a namespace. -/
def stem : Realm → String
  | games => gameStem
  | calls => callStem
  | conversations => conversationStem
  | notices => notificationStem

/-- The pattern that the hub of a namespace subscribes to. -/
def pattern (r : Realm) : String := allUnder r.stem

example : [games, calls, conversations, notices].map pattern =
    ["game:room:*", "videochat:room:*", "chat:conversation:*", "notifications:*"] := by decide

/-- The letter that all channels of a namespace begin with. -/
def initial : Realm → Char
  | games => 'g'
  | calls => 'v'
  | conversations => 'c'
  | notices => 'n'

/-- Different namespaces have different letters. -/
theorem initial_injective : Function.Injective initial := by
  intro r r' h
  cases r <;> cases r' <;> first | rfl | exact absurd h (by decide)

/-- A channel that begins with the stem of a namespace begins with its letter. -/
theorem head?_stem_append (r : Realm) (rest : String) : (r.stem ++ rest).toList.head? = some r.initial := by
  rw [String.toList_append]
  cases r <;> rfl

/-- A channel lies in one namespace. -/
theorem eq_of_stem_append {r r' : Realm} {rest rest' : String} (h : r.stem ++ rest = r'.stem ++ rest') : r = r' := by
  refine initial_injective (Option.some.inj ?_)
  rw [← head?_stem_append r rest, h, head?_stem_append r' rest']

/-- A channel that begins with the stem of a namespace is matched by the pattern of that namespace only. -/
theorem isMatch_pattern_stem_append (r r' : Realm) (rest : String) :
    isMatch r'.pattern (r.stem ++ rest) = decide (r' = r) := by
  rw [Bool.eq_iff_iff, decide_eq_true_eq, pattern, isMatch_allUnder_iff]
  constructor
  · rintro ⟨rest', h⟩
    exact (eq_of_stem_append h).symm
  · rintro rfl
    exact ⟨rest, rfl⟩

end Realm

/-! ## Addresses -/

/-- Whom a channel is about. -/
inductive Address where
  | game (room : RoomId)
  | call (room : String) (named : room ≠ "")
  | conversation (id : ConversationId)
  | user (id : UserId)
  deriving DecidableEq, Repr

namespace Address

/-- The channel of an address. -/
def channel : Address → String
  | game room => Channel.game room
  | call room _ => Channel.call room
  | conversation id => Channel.conversation id
  | user id => Channel.user id

/-- The namespace of an address. -/
def realm : Address → Realm
  | game _ => .games
  | call _ _ => .calls
  | conversation _ => .conversations
  | user _ => .notices

/-- A channel is read as an address by the reader of such addresses. -/
def IsReadFrom (channel : String) : Address → Prop
  | game room => game? channel = some room
  | call room _ => call? channel = some room
  | conversation id => conversation? channel = some id
  | user id => user? channel = some id

/-- The channel of an address is read as that address. -/
theorem isReadFrom_channel (a : Address) : a.IsReadFrom a.channel := by
  cases a with
  | game room => exact game?_game room
  | call room named => exact call?_call named
  | conversation id => exact conversation?_conversation id
  | user id => exact user?_user id

/-- A channel that is read as an address begins with the stem of its namespace. -/
theorem IsReadFrom.stem {a : Address} {channel : String} (h : a.IsReadFrom channel) :
    ∃ rest, channel = a.realm.stem ++ rest := by
  have hstrip {stem : String} {read : String → Option UInt64} {id : UInt64}
      (hread : (strip? stem channel).bind read = some id) : ∃ rest, channel = stem ++ rest := by
    obtain ⟨rest, hrest, -⟩ := Option.bind_eq_some_iff.mp hread
    exact ⟨rest, strip?_eq_some_iff.mp hrest⟩
  cases a with
  | game room => exact hstrip h
  | call room named => exact ⟨room, strip?_eq_some_iff.mp (Option.filter_eq_some_iff.mp h).1⟩
  | conversation id => exact hstrip h
  | user id =>
    -- the stem of users is longer than that of the namespace, which they share with the channel of everyone
    obtain ⟨rest, hrest⟩ := hstrip h
    refine ⟨"user:" ++ rest, ?_⟩
    rw [hrest, ← String.append_assoc]
    rfl

/-- A channel is read as one address at most. -/
theorem IsReadFrom.unique {a b : Address} {channel : String} (ha : a.IsReadFrom channel) (hb : b.IsReadFrom channel) :
    a = b := by
  obtain ⟨rest, hrest⟩ := ha.stem
  obtain ⟨rest', hrest'⟩ := hb.stem
  have hrealm : a.realm = b.realm := Realm.eq_of_stem_append (hrest.symm.trans hrest')
  -- every namespace has one reader
  cases a <;> cases b <;> first | contradiction | skip
  case game.game => exact congrArg game (Option.some.inj (ha.symm.trans hb))
  case call.call =>
    rw [call.injEq]
    exact Option.some.inj (ha.symm.trans hb)
  case conversation.conversation => exact congrArg conversation (Option.some.inj (ha.symm.trans hb))
  case user.user => exact congrArg user (Option.some.inj (ha.symm.trans hb))

end Address

namespace Realm

/-- The reader of the addresses of a namespace accepts a channel. -/
def accepts (channel : String) : Realm → Bool
  | games => (game? channel).isSome
  | calls => (call? channel).isSome
  | conversations => (conversation? channel).isSome
  | notices => (user? channel).isSome

/-- What a reader accepts is read as an address of its namespace. -/
theorem accepts_iff {r : Realm} {channel : String} :
    r.accepts channel = true ↔ ∃ a : Address, a.realm = r ∧ a.IsReadFrom channel := by
  constructor
  · intro h
    cases r with
    | games =>
      obtain ⟨room, hroom⟩ := Option.isSome_iff_exists.mp h
      exact ⟨.game room, rfl, hroom⟩
    | calls =>
      obtain ⟨room, hroom⟩ := Option.isSome_iff_exists.mp h
      exact ⟨.call room (of_decide_eq_true (Option.filter_eq_some_iff.mp hroom).2), rfl, hroom⟩
    | conversations =>
      obtain ⟨id, hid⟩ := Option.isSome_iff_exists.mp h
      exact ⟨.conversation id, rfl, hid⟩
    | notices =>
      obtain ⟨id, hid⟩ := Option.isSome_iff_exists.mp h
      exact ⟨.user id, rfl, hid⟩
  · rintro ⟨a, rfl, ha⟩
    cases a <;> exact Option.isSome_iff_exists.mpr ⟨_, ha⟩

/-- A channel that a reader accepts is matched by the pattern of its namespace only. -/
theorem isMatch_pattern_of_accepts {r : Realm} {channel : String} (h : r.accepts channel = true) (r' : Realm) :
    isMatch r'.pattern channel = decide (r' = r) := by
  obtain ⟨a, rfl, ha⟩ := accepts_iff.mp h
  obtain ⟨rest, rfl⟩ := ha.stem
  exact a.realm.isMatch_pattern_stem_append r' rest

/-- A channel that a reader accepts is accepted by no other reader. -/
theorem accepts_eq_decide {r : Realm} {channel : String} (h : r.accepts channel = true) (r' : Realm) :
    r'.accepts channel = decide (r' = r) := by
  rw [Bool.eq_iff_iff, decide_eq_true_eq]
  constructor
  · intro h'
    obtain ⟨a, rfl, ha⟩ := accepts_iff.mp h
    obtain ⟨b, rfl, hb⟩ := accepts_iff.mp h'
    rw [ha.unique hb]
  · rintro rfl
    exact h

/-- No reader accepts the channel that reaches everyone. -/
theorem accepts_broadcast (r : Realm) : r.accepts broadcast = false := by
  cases r <;> decide

end Realm

/--
The channel of an address is read as that address, and it is matched by the pattern of its own namespace
and by no other. Any text at all that a reader accepts is accepted by no other reader, and it is matched by
the pattern of that reader's namespace and by no other. No reader accepts the channel that reaches everyone.
So different addresses have different channels, in whatever namespaces they are.
-/
theorem channels_unambiguous :
    (∀ a : Address, a.IsReadFrom a.channel ∧ ∀ r : Realm, isMatch r.pattern a.channel = decide (r = a.realm)) ∧
    (∀ (channel : String) (r : Realm), r.accepts channel = true → ∀ r' : Realm,
      r'.accepts channel = decide (r' = r) ∧ isMatch r'.pattern channel = decide (r' = r)) ∧
    (∀ r : Realm, r.accepts broadcast = false) ∧
    Function.Injective Address.channel := by
  have hread := Address.isReadFrom_channel
  refine ⟨fun a => ⟨hread a, ?_⟩, fun channel r h r' => ?_, Realm.accepts_broadcast, fun a b h => ?_⟩
  · exact Realm.isMatch_pattern_of_accepts (Realm.accepts_iff.mpr ⟨a, rfl, hread a⟩)
  · exact ⟨Realm.accepts_eq_decide h r', Realm.isMatch_pattern_of_accepts h r'⟩
  · exact (hread a).unique (h ▸ hread b)

/-- A call may be named like a channel of games: its own channel is still read as a call, and matched as one. -/
theorem forged_call_unambiguous :
    let channel := Channel.call "game:room:7"
    Realm.calls.accepts channel = true ∧ Realm.games.accepts channel = false ∧
      isMatch Realm.games.pattern channel = false ∧ isMatch Realm.calls.pattern channel = true := by
  obtain ⟨-, haccepts, -, -⟩ := channels_unambiguous
  have hcall : Realm.calls.accepts (Channel.call "game:room:7") = true := by decide
  have hother := haccepts _ _ hcall
  exact ⟨hcall, (hother .games).1, (hother .games).2, (hother .calls).2⟩

end Parlor.Channel
