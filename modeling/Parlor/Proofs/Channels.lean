import Parlor.Bus.Channel
import Parlor.Proofs.Json.Numbers

/-!
# Names of channels

The identifier in the name of a channel is read back, and the pattern of a stem stands for the channels
of that stem only. So a message reaches those whom its channel is about.
-/

namespace Parlor

/-! ## Numbers in names -/

namespace Text

/-- The value of a digit is what it counts for. -/
theorem digit?_of_isDigit {c : Char} (h : c.isDigit = true) : digit? c = some (c.toNat - '0'.toNat) := by
  rw [digit?, if_pos h]
  rfl

/-- Digits are appended as long as the number stays below the bound. -/
theorem appendDigits_eq {bound : Nat} {cs : List Char} (h : ∀ c ∈ cs, c.isDigit = true) (acc : Nat)
    (hfit : Nat.ofDigitChars 10 cs acc < bound) : appendDigits bound acc cs = some (Nat.ofDigitChars 10 cs acc) := by
  induction cs generalizing acc with
  | nil => rfl
  | cons c cs ih =>
    rw [Nat.ofDigitChars_cons] at hfit ⊢
    simp only [appendDigits, digit?_of_isDigit (h c List.mem_cons_self), Nat.mul_comm acc 10]
    rw [if_pos (Nat.lt_of_le_of_lt (Json.le_ofDigitChars cs _) hfit)]
    exact ih (fun d hd => h d (List.mem_cons_of_mem c hd)) _ hfit

/-- The text of a word is read as that word. -/
theorem parseWord?_wordText (w : UInt64) : parseWord? (wordText w) = some w := by
  have hdigits := (Json.isDigits_toDigits w.toNat).2
  have happend := appendDigits_eq hdigits 0 (show _ < UInt64.size by
    rw [Nat.ofDigitChars_ten_toDigits]
    exact w.toNat_lt_size)
  rw [Nat.ofDigitChars_ten_toDigits] at happend
  have hparse : parseNat? UInt64.size (Nat.toDigits 10 w.toNat) = some w.toNat := by
    rw [← happend]
    cases hcs : Nat.toDigits 10 w.toNat with
    | nil => exact absurd hcs Nat.toDigits_ne_nil
    | cons c cs =>
      have hplus : c ≠ '+' := by
        rintro rfl
        have hdigit := hdigits '+' (hcs ▸ List.mem_cons_self)
        simp [Char.isDigit] at hdigit
      simp [parseNat?, hplus]
  rw [parseWord?, wordText, String.toList_ofList, hparse, Option.map_some, UInt64.ofNat_toNat]

end Text

/-! ## Channels -/

namespace Channel

/-- What follows a beginning is what was put after it. -/
theorem stripChars_append (stem cs : List Char) : stripChars stem (stem ++ cs) = some cs := by
  induction stem with
  | nil => rfl
  | cons c stem ih =>
    rw [List.cons_append, stripChars, if_pos rfl, ih]

/-- What follows a stem is the name that was put after it. -/
theorem strip?_append (stem name : String) : strip? stem (stem ++ name) = some name := by
  rw [strip?, String.toList_append, stripChars_append, Option.map_some, String.ofList_toList]

/-- The pattern of a stem stands for the channels that begin with it. -/
theorem isMatch_allUnder (stem channel : String) :
    isMatch (allUnder stem) channel = (stripChars stem.toList channel.toList).isSome := by
  have hpattern : (allUnder stem).toList.reverse = '*' :: stem.toList.reverse := by
    rw [allUnder, String.toList_append, List.reverse_append]
    rfl
  rw [isMatch, hpattern]
  simp

/-- The pattern of a stem stands for every channel of that stem. -/
theorem isMatch_stem (stem name : String) : isMatch (allUnder stem) (stem ++ name) = true := by
  rw [isMatch_allUnder, String.toList_append, stripChars_append, Option.isSome_some]

/-- Names that differ in a place of the stem do not begin with it. -/
theorem stripChars_of_ne {stem : List Char} {cs : List Char} {i : Nat} {c d : Char} (hstem : stem[i]? = some c)
    (hcs : cs[i]? = some d) (hne : c ≠ d) : stripChars stem cs = none := by
  induction stem generalizing cs i with
  | nil => simp at hstem
  | cons s stem ih =>
    cases cs with
    | nil => simp at hcs
    | cons e cs =>
      rw [stripChars]
      cases i with
      | zero =>
        obtain rfl : s = c := by simpa using hstem
        obtain rfl : e = d := by simpa using hcs
        rw [if_neg hne]
      | succ i =>
        split
        · exact ih (by simpa using hstem) (by simpa using hcs)
        · rfl

/-- The room of a game channel is the one that it was named for. -/
theorem game?_game (room : RoomId) : game? (game room) = some room := by
  rw [game?, game, strip?_append]
  exact Text.parseWord?_wordText room

/-- The room of a call channel is the one that it was named for, if that is a name at all. -/
theorem call?_call {room : String} (h : room ≠ "") : call? (call room) = some room := by
  rw [call?, call, strip?_append]
  simp [Option.filter, h]

/-- The conversation of a conversation channel is the one that it was named for. -/
theorem conversation?_conversation (id : ConversationId) : conversation? (conversation id) = some id := by
  rw [conversation?, conversation, strip?_append]
  exact Text.parseWord?_wordText id

/-- The user of a user channel is the one that it was named for. -/
theorem user?_user (id : UserId) : user? (user id) = some id := by
  rw [user?, user, strip?_append]
  exact Text.parseWord?_wordText id

/-- The channel of a user begins like the one that reaches everyone. -/
theorem user_eq (id : UserId) : user id = notificationStem ++ ("user:" ++ Text.wordText id) := by
  rw [user, userStem, notificationStem, ← String.append_assoc]
  rfl

/-- The channel of a user is not the one that reaches everyone. -/
theorem user_ne_broadcast (id : UserId) : user id ≠ broadcast := by
  intro h
  have hplace := congrArg (fun channel : String => channel.toList[14]?) h
  simp [user, userStem, broadcast] at hplace

/-- The channel of a conversation is not that of a user, nor the one that reaches everyone. -/
theorem conversation_notice (id : ConversationId) : user? (conversation id) = none ∧ conversation id ≠ broadcast := by
  constructor
  · rw [user?, strip?, conversation, String.toList_append,
      stripChars_of_ne (i := 0) (c := 'n') (d := 'c') rfl rfl (by decide), Option.map_none, Option.bind_none]
  · intro h
    have hplace := congrArg (fun channel : String => channel.toList[0]?) h
    simp [conversation, conversationStem, broadcast] at hplace

/-- A conversation is no notice. -/
theorem isMatch_notification_conversation (id : ConversationId) :
    isMatch (allUnder notificationStem) (conversation id) = false := by
  rw [isMatch_allUnder, conversation, String.toList_append,
    stripChars_of_ne (i := 0) (c := 'n') (d := 'c') rfl rfl (by decide), Option.isSome_none]

/-- A notice to a user is no conversation. -/
theorem isMatch_conversation_user (id : UserId) : isMatch (allUnder conversationStem) (user id) = false := by
  rw [isMatch_allUnder, user, String.toList_append,
    stripChars_of_ne (i := 0) (c := 'c') (d := 'n') rfl rfl (by decide), Option.isSome_none]

/-- A notice to everyone is no conversation. -/
theorem isMatch_conversation_broadcast : isMatch (allUnder conversationStem) broadcast = false := by decide

end Channel

end Parlor
