import Parlor.Proofs.Chat.Authorship
import Parlor.Proofs.Game.Authorship
import Parlor.Proofs.Signaling.Authorship

/-!
# Nobody speaks for others

On all three hubs the bytes that a connection sends are words of its own user, whatever they say about users,
rooms and conversations, and words of the server come from the server only.
-/

namespace Parlor

open Json

/--
In every state of a hub, whatever bytes a connection sends bring nothing into any queue but words of its user,
in the room of the socket or the conversation that is named, to those who are there and to the sender.
-/
theorem frames_in_own_name :
    (∀ t : Game.Site, t.Reachable → ∀ (room : RoomId) (connection : ConnectionId) (bytes : Bytes),
      t.OwnWords room connection bytes) ∧
    (∀ (t : Signaling.Site) (room name : String) (connection : ConnectionId) (bytes : Bytes),
      t.OwnWords room name connection bytes) ∧
    ∀ (t : Chat.Site) (connection : ConnectionId) (bytes : Bytes), t.OwnWords connection bytes :=
  ⟨fun _ ht room connection bytes => Game.Site.ownWords ht.sound room connection bytes,
    fun t room name connection bytes => t.ownWords room name connection bytes,
    fun t connection bytes => t.ownWords connection bytes⟩

/-- Two users are seated in a room. -/
def seated : Game.Site :=
  (Game.Site.opening 0 3 { timestamp := "", patience := 0, bus := .new 1, storage := { store := { clock := "" } } }
    "").run [.connect 1 8, .connect 2 8, .register 1 1 0, .register 2 1 1]

/-- The second of two users chats in the name of the first one, in another room. -/
def forged : Bytes :=
  encodeUtf8 { kind := .chat, room := some 9, user := some 1, payload := .string "hello" : Game.Action }.text

/-- A chat in the name of somebody else is one in the own name and room. -/
theorem forged_in_own_name :
    seated.Reachable ∧ seated.OwnWords 1 1 forged ∧
      (seated.meet (.frame 1 1 forged)).shared.connections.values.map (·.waiting) =
        [[{ kind := .chat, room := some 1, user := some 2, payload := .string "hello" : Game.Action }.text],
          [{ kind := .chat, room := some 1, user := some 2, payload := .string "hello" : Game.Action }.text]] := by
  have hseated : seated.Reachable := (Game.Site.Reachable.start 0 3 _ "").run _
  exact ⟨hseated, frames_in_own_name.1 seated hseated 1 1 forged, by decide +kernel⟩

end Parlor
