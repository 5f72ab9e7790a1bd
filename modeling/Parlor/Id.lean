/-!
# Identifiers

Users, game rooms and conversations are named by unsigned 64-bit words.
-/

namespace Parlor

/-- Names a user. -/
abbrev UserId := UInt64

/-- Names a game room. -/
abbrev RoomId := UInt64

/-- Names a conversation. -/
abbrev ConversationId := UInt64

end Parlor
