import Parlor.Proofs.Chat.Reachable
import Parlor.Proofs.Offers

/-!
# Exact broadcasts

A frame that is delivered on one server is offered once to every connection that it addresses, and to no
other. What becomes of it at one connection depends on the queue of that connection only: it is taken, or
dropped and counted, or lost if the queue is closed. The answer counts those who have taken it.
-/

namespace Parlor.Chat

namespace Hub

/-- A connection is registered for somebody in an audience. -/
def Addresses (h : Hub) : Audience → ConnectionId → Prop
  | .conversation conversation, id =>
    ∃ user, h.conversations.contains conversation user = true ∧ h.sockets.contains user id = true
  | .user user, id => h.sockets.contains user id = true
  | .everyone, id => ∃ user, h.sockets.contains user id = true

/-- The connections of an audience. -/
def recipients (h : Hub) : Audience → List ConnectionId
  | .conversation conversation => h.audience conversation
  | .user user => h.socketsOf user
  | .everyone => h.everyone

/-- A frame is sent to the connections of an audience. -/
theorem deliver_eq (h : Hub) (s : Shared) (frame : String) (audience : Audience) :
    h.deliver s frame audience = s.sendAll frame (h.recipients audience) := by
  cases audience <;> rfl

end Hub

namespace Site

/-- An orderly hub knows the registered connections, each for its user. -/
theorem Orderly.knows {t : Site} (h : t.Orderly) : t.hub.Knows (t.hub.Addresses .everyone) t.shared.userOf := by
  have howner {user : UserId} {id : ConnectionId} (hid : t.hub.sockets.contains user id = true) :
      t.shared.userOf id = user := by
    obtain ⟨c, hc, huser⟩ := Option.map_eq_some_iff.mp (h.owned user id hid)
    exact (Shared.userOf_of_connection? hc).trans huser
  refine fun user id => ⟨fun hid => ⟨⟨user, hid⟩, howner hid⟩, ?_⟩
  rintro ⟨⟨other, hother⟩, rfl⟩
  rwa [howner hother]

/-- The connections of the members of a conversation are different. -/
theorem Orderly.nodup_audience {t : Site} (h : t.Orderly) (conversation : ConversationId) :
    (t.hub.audience conversation).Nodup := by
  refine List.nodup_flatMap.mpr ⟨fun user _ => h.consistent.sockets.distinct user, ?_⟩
  refine (h.consistent.conversations.distinct conversation).imp fun hne id hfirst hsecond => hne ?_
  have howner {user : UserId} (hid : id ∈ t.hub.socketsOf user) : t.shared.userOf id = user :=
    ((h.knows user id).mp ((Registry.mem_members_iff _ _ _).mp hid)).2
  exact (howner hfirst).symm.trans (howner hsecond)

/-- Every connection of an audience is among the recipients once. -/
theorem Orderly.recipients {t : Site} (h : t.Orderly) (audience : Audience) :
    (t.hub.recipients audience).Nodup ∧ ∀ id, id ∈ t.hub.recipients audience ↔ t.hub.Addresses audience id := by
  have hsocket (user : UserId) (id : ConnectionId) :
      id ∈ t.hub.socketsOf user ↔ t.hub.sockets.contains user id = true := t.hub.sockets.mem_members_iff user id
  cases audience with
  | conversation conversation =>
    refine ⟨h.nodup_audience conversation, fun id => ?_⟩
    simp only [Hub.recipients, Hub.audience, List.mem_flatMap, hsocket, Hub.Addresses, Hub.members,
      Registry.mem_members_iff]
  | user user => exact ⟨h.consistent.sockets.distinct user, hsocket user⟩
  | everyone =>
    have htells := h.consistent.tells h.knows
    exact ⟨htells.distinct, htells.everyone⟩

/-- Every connection of an audience is there. -/
theorem Orderly.present {t : Site} (h : t.Orderly) (audience : Audience) {id : ConnectionId}
    (hid : t.hub.Addresses audience id) : ∃ c, t.shared.connection? id = some c := by
  have hthere {user : UserId} (hregistered : t.hub.sockets.contains user id = true) :
      ∃ c, t.shared.connection? id = some c := by
    obtain ⟨c, hc, -⟩ := Option.map_eq_some_iff.mp (h.owned user id hregistered)
    exact ⟨c, hc⟩
  cases audience with
  | conversation conversation =>
    obtain ⟨user, -, hregistered⟩ := hid
    exact hthere hregistered
  | user user => exact hthere hid
  | everyone =>
    obtain ⟨user, hregistered⟩ := hid
    exact hthere hregistered

/--
In every reachable state, a frame for the members of a conversation, for a user or for everyone is offered
once to each connection that is registered for one of them, and to no other connection.
-/
theorem broadcasts_are_exact {t : Site} (h : t.Reachable) (audience : Audience) (frame : String) :
    t.shared.Offers frame (t.hub.Addresses audience) (t.hub.deliver t.shared frame audience) := by
  obtain ⟨hnodup, haddressed⟩ := h.orderly.recipients audience
  rw [Hub.deliver_eq]
  exact Shared.offers_sendAll hnodup haddressed (fun _ => h.orderly.present audience) frame

/-- Operations that can be asked for one after the other. -/
def AdmitsAll (t : Site) : List Operation → Prop
  | [] => True
  | op :: rest => t.Admits op ∧ (t.apply op).AdmitsAll rest

/-- Such operations lead to reachable states. -/
theorem Reachable.applyAll {t : Site} (h : t.Reachable) {ops : List Operation} (hops : t.AdmitsAll ops) :
    (t.applyAll ops).Reachable := by
  induction ops generalizing t with
  | nil => exact h
  | cons op rest ih => exact ih (h.step (.operated op hops.1)) hops.2

/-- A new hub on a server without connections. -/
def vacant : Site :=
  opening .open {} {} { timestamp := "now", patience := 0, bus := .new 8, storage := { store := { clock := "now" } } }

/-- Nothing has happened to it, and there are no connections that could bear a wrong name. -/
theorem reachable_vacant : vacant.Reachable := .new .open _ fun id c hc => by contradiction

/-- Three users with four connections: two for the first user, of which one is closed, and a full one for the second. -/
def crowdOperations : List Operation :=
  [.connect 1 8, .connect 1 8, .connect 2 1, .connect 3 8, .register 1 0, .register 1 1, .register 2 2, .register 3 3,
   .join 1 10, .join 2 10, .join 3 20, .publish 10 { kind := .message }, .connection 1 fun c => c.close.1]

/-- Of three addressed connections one is closed and one is full, and a fourth is not addressed. -/
theorem broadcasts_are_exact_crowd :
    let t := vacant.applyAll crowdOperations
    let result := t.hub.deliver t.shared "hello" (.conversation 10)
    t.Reachable ∧ t.shared.Offers "hello" (t.hub.Addresses (.conversation 10)) result ∧ result.2 = 1 ∧
      [0, 1, 2, 3].map (result.1.queue ·) = [[Message.text { kind := .message }, "hello"],
        [Message.text { kind := .message }], [Message.text { kind := .message }], []] ∧
      [0, 1, 2, 3].map (fun id => (result.1.connection? id).map (·.dropped)) = [some 0, some 0, some 1, some 0] := by
  intro t result
  have hreachable : t.Reachable := reachable_vacant.applyAll ⟨trivial, trivial, trivial, trivial, ⟨_, rfl, rfl⟩,
    ⟨_, rfl, rfl⟩, ⟨_, rfl, rfl⟩, ⟨_, rfl, rfl⟩, trivial, trivial, trivial, trivial, fun _ => rfl, trivial⟩
  exact ⟨hreachable, broadcasts_are_exact hreachable (.conversation 10) "hello", by decide +kernel, by decide +kernel,
    by decide +kernel⟩

end Site

end Parlor.Chat
