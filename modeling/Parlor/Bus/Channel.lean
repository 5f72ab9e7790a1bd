import Parlor.Id
import Parlor.Text.Word

/-!
# Channels of the bus

Every room, call, conversation and user has a channel of its own, named by a fixed beginning and its
identifier; one more channel reaches everyone.  A subscription pattern is the name of a channel, or
the beginning of names followed by a star.
-/

namespace Parlor.Channel

/-- The beginning of the channels of game rooms. -/
def gameStem : String := "game:room:"

/-- The beginning of the channels of calls. -/
def callStem : String := "videochat:room:"

/-- The beginning of the channels of conversations. -/
def conversationStem : String := "chat:conversation:"

/-- The beginning of the channels of users. -/
def userStem : String := "notifications:user:"

/-- The beginning of the channels of users and of the channel that reaches everyone. -/
def notificationStem : String := "notifications:"

/-- The channel that reaches everyone. -/
def broadcast : String := "notifications:broadcast"

/-- The channel of a game room. -/
def game (room : RoomId) : String := gameStem ++ Text.wordText room

/-- The channel of a call. -/
def call (room : String) : String := callStem ++ room

/-- The channel of a conversation. -/
def conversation (id : ConversationId) : String := conversationStem ++ Text.wordText id

/-- The channel of a user. -/
def user (id : UserId) : String := userStem ++ Text.wordText id

/-- What follows a fixed beginning in a list of characters. -/
def stripChars : List Char → List Char → Option (List Char)
  | [], cs => some cs
  | _ :: _, [] => none
  | s :: stem, c :: cs => if s = c then stripChars stem cs else none

/-- What follows a fixed beginning. -/
def strip? (stem channel : String) : Option String :=
  (stripChars stem.toList channel.toList).map String.ofList

/-- The room of a game channel. -/
def game? (channel : String) : Option RoomId := (strip? gameStem channel).bind Text.parseWord?

/-- The room of a call channel, which is not empty. -/
def call? (channel : String) : Option String :=
  (strip? callStem channel).filter (· ≠ "")

/-- The conversation of a conversation channel. -/
def conversation? (channel : String) : Option ConversationId :=
  (strip? conversationStem channel).bind Text.parseWord?

/-- The user of a user channel. -/
def user? (channel : String) : Option UserId := (strip? userStem channel).bind Text.parseWord?

/-- The pattern of all channels with a fixed beginning. -/
def allUnder (stem : String) : String := stem ++ "*"

/-- Tests whether a pattern stands for a channel. -/
def isMatch (pattern channel : String) : Bool :=
  match pattern.toList.reverse with
  | '*' :: stem => (stripChars stem.reverse channel.toList).isSome
  | _ => pattern == channel

end Parlor.Channel
