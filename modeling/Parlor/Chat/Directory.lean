import Parlor.Failure

/-!
# Who may join a conversation
-/

namespace Parlor.Chat

/-- A directory of conversations: whether a user may join one, if this can be found out. -/
structure Directory where
  allows : ConversationId → UserId → Except StorageFault Bool

/-- Everyone may join every conversation. -/
def Directory.open : Directory where
  allows _ _ := .ok true

end Parlor.Chat
