import Parlor.Proofs.Chat.Presence
import Parlor.Proofs.Chat.WiredRuns

/-!
# Reachable chat hubs

A chat hub starts with nobody. Whatever is asked of it then, whatever else is put into the queues of the
connections, and however the hub is wired meanwhile, its registries stay consistent, and every connection that
is registered is there and has the user under whom it is registered.
-/

namespace Parlor.Chat

namespace Hub

/-- Publishing keeps the connections. -/
theorem retains_publish (h : Hub) (s : Shared) :
    (∀ conversation m, s.Retains (h.publishToConversation s conversation m)) ∧
      (∀ user e, s.Retains (h.publishToUser s user e)) ∧ ∀ e, s.Retains (h.publishToAll s e) := by
  refine ⟨fun conversation m => ?_, fun user e => ?_, fun e => ?_⟩
  · rw [publishToConversation_eq]
    exact s.retains_carry _ { bulletins := [h.bulletin conversation m] }
  · rw [publishToUser_eq]
    exact s.retains_carry _ { bulletins := [h.notice user e] }
  · rw [publishToAll_eq]
    exact s.retains_carry _ { bulletins := [h.proclamation e] }

/-- What comes from the bus keeps the connections. -/
theorem retains_receive (h : Hub) (s : Shared) (m : Bus.Message) :
    s.Retains (h.receiveMessage s m) ∧ s.Retains (h.receiveNotice s m) := by
  have hall (frame : String) (ids : List ConnectionId) : s.Retains (s.sendAll frame ids).1 :=
    s.sendAll_eq frame ids ▸ s.retains_postAll _
  constructor
  · unfold receiveMessage
    split
    · exact hall _ _
    · exact .of_eq rfl
  · unfold receiveNotice
    split
    · exact .of_eq rfl
    · split
      · exact hall _ _
      · split
        · exact hall _ _
        · exact .of_eq rfl

end Hub

/-! ## Steps of a hub -/

/-- Those whom a frame addresses on this server. -/
inductive Audience where
  | conversation (id : ConversationId)
  | user (id : UserId)
  | everyone

/-- Delivers a frame to an audience on this server, and counts who has taken it. -/
def Hub.deliver (h : Hub) (s : Shared) (frame : String) : Audience → Shared × Nat
  | .conversation id => h.deliverToConversation s id frame
  | .user id => h.deliverToUser s id frame
  | .everyone => h.deliverToAll s frame

namespace Site

/-- An operation that can be asked for: a connection is there, and it has and keeps its own user. -/
def Admits (t : Site) : Operation → Prop
  | .register user connection | .unregister user connection =>
    ∃ c, t.shared.connection? connection = some c ∧ c.user = user
  | .connection _ change => ∀ c, (change c).user = c.user
  | _ => True

/-- What can happen to a hub, and beside it. -/
inductive Step (t : Site) : Site → Prop
  | operated (op : Operation) (admitted : t.Admits op) : t.Step (t.apply op)
  | delivered (audience : Audience) (frame : String) :
    t.Step { t with shared := (t.hub.deliver t.shared frame audience).1 }
  | mentioned (conversation : ConversationId) (messageId : UInt64) (sender : UserId) (content : String)
    (participants : List Participant) :
    t.Step { t with
      shared := (t.hub.announceMentions t.shared conversation messageId sender content participants).1 }
  | pulled : t.Step t.pull
  | wired : t.Step t.wire
  | unwired : t.Step ⟨(t.hub.unwire t.shared).1, (t.hub.unwire t.shared).2⟩
  | shutDown : t.Step ⟨(t.hub.shutdown t.shared).1, (t.hub.shutdown t.shared).2.1⟩
  /-- Other hubs put frames into the queues. -/
  | posted (posts : List (ConnectionId × String)) : t.Step { t with shared := t.shared.postAll posts }
  /-- The time goes on, and the bus and the storage change. -/
  | around (shared : Shared) (same : shared.connections = t.shared.connections) : t.Step { t with shared }

/-- A hub to which such things have happened since it was new, beside connections that were named in turn. -/
inductive Reachable : Site → Prop
  | new (directory : Directory) (shared : Shared) (numbered : shared.Numbered) :
    Reachable (opening directory {} {} shared)
  | step {t t' : Site} (reachable : Reachable t) (next : t.Step t') : Reachable t'

/-! ## What is so in reachable states -/

/-- The registries are consistent, and every registered connection is there, with its user. -/
structure Orderly (t : Site) : Prop where
  consistent : t.hub.Consistent
  owned : ∀ user id, t.hub.sockets.contains user id = true → (t.shared.connection? id).map (·.user) = some user
  numbered : t.shared.Numbered

/-- A hub that registers only connections with their users stays orderly as long as the connections are there. -/
theorem Orderly.keeps {t t' : Site} (h : t.Orderly) (hconsistent : t'.hub.Consistent)
    (hsockets : ∀ user id, t'.hub.sockets.contains user id = true →
      t.hub.sockets.contains user id = true ∨ (t.shared.connection? id).map (·.user) = some user)
    (hshared : t.shared.Retains t'.shared) : t'.Orderly := by
  refine ⟨hconsistent, fun user id hregistered => ?_, hshared.numbered h.numbered⟩
  rw [hshared.users id]
  exact (hsockets user id hregistered).elim (h.owned user id) (fun howner => howner)

/-- Nothing that only concerns the connections disturbs the order. -/
theorem Orderly.withShared {t : Site} (h : t.Orderly) {shared : Shared} (hshared : t.shared.Retains shared) :
    Orderly { t with shared } := h.keeps h.consistent (fun _ _ => .inl) hshared

/-- Other wirings disturb nothing. -/
theorem Orderly.rewired {t : Site} (h : t.Orderly) (conversationWiring notificationWiring : Wiring)
    (bus : Bus.MemoryBus) : (t.rewired conversationWiring notificationWiring bus).Orderly :=
  ⟨⟨h.consistent.sockets, h.consistent.conversations, h.consistent.memberships, h.consistent.inverse⟩, h.owned,
    h.numbered⟩

/-- What happens to a hub by itself leaves it orderly, if only connections with their users are registered. -/
theorem Orderly.meet {t : Site} (h : t.Orderly) (e : Happening)
    (hregisters : ∀ connection, e = .register connection → (t.shared.connection? connection).isSome) :
    (t.meet e).Orderly := by
  refine h.keeps (consistent_meet h.consistent e) (fun user id hregistered => ?_) ?_
  · obtain ⟨hevent, huser⟩ | ⟨hthere, -⟩ := (t.contains_sockets_meet e user id).mp hregistered
    · obtain ⟨c, hc⟩ := Option.isSome_iff_exists.mp (hregisters id hevent)
      exact .inr (by rw [hc, Option.map_some, ← Shared.userOf_of_connection? hc, huser])
    · exact .inl hthere
  · cases e with
    | register | unregister | join | leave => exact .of_eq rfl
    | frame sender bytes =>
      obtain ⟨hub, o, -, happlied⟩ := t.frame_reacts sender bytes
      have hmeet : (t.meet (.frame sender bytes)).shared = _ :=
        congrArg Site.shared (happlied t.hub.conversationWiring t.hub.notificationWiring t.shared.bus)
      exact hmeet ▸ Shared.retains_carry _ _ o

/-- A new connection disturbs nothing, since its name is new. -/
theorem Orderly.connect {t : Site} (h : t.Orderly) (user : UserId) (capacity : Nat) :
    Orderly { t with shared := (t.shared.connect user capacity).1 } := by
  refine ⟨h.consistent, fun owner id hregistered => ?_, ?_⟩
  · have howner := h.owned owner id hregistered
    obtain ⟨c, hc, -⟩ := Option.map_eq_some_iff.mp howner
    rw [Shared.connection?_connect, if_neg (Nat.ne_of_gt (h.numbered id c hc)), howner]
  · exact (h.numbered.brings_connect (P := fun _ _ => True) user capacity).numbered

/-- Every operation that can be asked for leaves a hub orderly. -/
theorem Orderly.apply {t : Site} (h : t.Orderly) {op : Operation} (hop : t.Admits op) : (t.apply op).Orderly := by
  obtain ⟨hconversation, huser, heveryone⟩ := t.hub.retains_publish t.shared
  cases op with
  | publish conversation m => exact h.withShared (hconversation conversation m)
  | notify user e => exact h.withShared (huser user e)
  | proclaim e => exact h.withShared (heveryone e)
  | frame connection bytes => exact h.meet (.frame connection bytes) (by simp)
  | register user connection =>
    obtain ⟨c, hc, rfl⟩ := hop
    rw [← Shared.userOf_of_connection? hc]
    exact h.meet (.register connection) (by rintro _ ⟨⟩; simp [hc])
  | unregister user connection =>
    obtain ⟨c, hc, rfl⟩ := hop
    rw [← Shared.userOf_of_connection? hc]
    exact h.meet (.unregister connection) (by simp)
  | join user conversation => exact h.meet (.join user conversation) (by simp)
  | leave user conversation => exact h.meet (.leave user conversation) (by simp)
  | connect user capacity => exact h.connect user capacity
  | connection id change => exact h.withShared (t.shared.retains_modify id change hop)

/-- Subscribing gives a hub other wirings to another bus. -/
theorem wire_eq (t : Site) : ∃ conversationWiring notificationWiring bus,
    t.wire = t.rewired conversationWiring notificationWiring bus := by
  obtain ⟨bus, first, hfirst⟩ :=
    t.hub.conversationWiring.connect_eq t.shared (Channel.allUnder Channel.conversationStem)
  obtain ⟨bus', second, hsecond⟩ :=
    t.hub.notificationWiring.connect_eq { t.shared with bus } (Channel.allUnder Channel.notificationStem)
  cases first with
  | error fault =>
    exact ⟨t.hub.conversationWiring, t.hub.notificationWiring, bus, by simp only [wire, Hub.wire, hfirst]; rfl⟩
  | ok cw =>
    cases second with
    | error fault => exact ⟨cw, t.hub.notificationWiring, bus', by simp only [wire, Hub.wire, hfirst, hsecond]; rfl⟩
    | ok nw => exact ⟨cw, nw, bus', by simp only [wire, Hub.wire, hfirst, hsecond]; rfl⟩

/-- Every step leaves a hub orderly. -/
theorem Orderly.step {t t' : Site} (h : t.Orderly) (hstep : t.Step t') : t'.Orderly := by
  cases hstep with
  | operated op hop => exact h.apply hop
  | delivered audience frame =>
    refine h.withShared ?_
    cases audience <;> exact t.shared.sendAll_eq _ _ ▸ t.shared.retains_postAll _
  | mentioned conversation messageId sender content participants =>
    refine h.withShared (Shared.retains_foldl (fun s user => ?_) _ _)
    exact ((t.hub.retains_publish s).2.1 user _).trans ((t.hub.retains_publish _).1 conversation _)
  | pulled =>
    refine h.withShared ?_
    exact (Wiring.retains_pull _ (fun s m => (t.hub.retains_receive s m).1) _).trans
      (Wiring.retains_pull _ (fun s m => (t.hub.retains_receive s m).2) _)
  | wired =>
    obtain ⟨cw, nw, bus, hwire⟩ := t.wire_eq
    exact hwire ▸ h.rewired cw nw bus
  | unwired => exact h.rewired {} {} _
  | shutDown =>
    refine h.keeps ⟨Registry.neat_empty, Registry.neat_empty, Registry.neat_empty, fun _ _ => rfl⟩
      (fun _ _ hregistered => absurd hregistered Bool.false_ne_true) (t.shared.retains_dismiss _)
  | posted posts => exact h.withShared (t.shared.retains_postAll posts)
  | around shared hsame => exact h.withShared (.of_eq hsame)

/-- Every reachable hub is orderly. -/
theorem Reachable.orderly {t : Site} (h : t.Reachable) : t.Orderly := by
  induction h with
  | new directory shared hnumbered =>
    exact ⟨Hub.consistent_new directory {} {}, fun _ _ hregistered => absurd hregistered Bool.false_ne_true, hnumbered⟩
  | step _ hstep ih => exact ih.step hstep

end Site

end Parlor.Chat
