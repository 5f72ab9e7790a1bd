import Parlor.Proofs.Chat.Operations
import Parlor.Proofs.Queues
import Mathlib.Data.List.Induction
import Mathlib.Data.List.Nodup
import Mathlib.Tactic.Tauto

/-!
# Who is present in a chat hub

A hub keeps the connections of each user, the users of each conversation and the conversations of each
user. Whatever is asked of it, the last two are inverse, and the first one holds the connections that have
been registered and not taken out since. With the last connection of a user all memberships of that user
end. So if only users who are online join, then all members are online, and nothing is left when all
connections have gone.
-/

namespace Parlor.Chat

open Json (Bytes)

/-! ## The course of a hub -/

/-- What happens to a hub beside connections that are there from the start. -/
inductive Happening where
  | register (connection : ConnectionId)
  | unregister (connection : ConnectionId)
  | join (user : UserId) (conversation : ConversationId)
  | leave (user : UserId) (conversation : ConversationId)
  /-- Any bytes come from a connection. -/
  | frame (connection : ConnectionId) (bytes : Bytes)
  deriving DecidableEq

namespace Site

/-- What a happening leads to. A connection is registered for its own user. -/
def meet (t : Site) : Happening → Site
  | .register connection => t.apply (.register (t.shared.userOf connection) connection)
  | .unregister connection => t.apply (.unregister (t.shared.userOf connection) connection)
  | .join user conversation => t.apply (.join user conversation)
  | .leave user conversation => t.apply (.leave user conversation)
  | .frame connection bytes => t.apply (.frame connection bytes)

/-- What several happenings lead to, one after the other. -/
def run (t : Site) (happenings : List Happening) : Site := happenings.foldl meet t

/-- The happenings up to the last one come first. -/
theorem run_concat (t : Site) (happenings : List Happening) (e : Happening) :
    t.run (happenings ++ [e]) = (t.run happenings).meet e := by
  simp only [run, List.foldl_append, List.foldl_cons, List.foldl_nil]

/-- A new hub beside some connections. -/
def opening (directory : Directory) (conversationWiring notificationWiring : Wiring) (shared : Shared) : Site :=
  ⟨{ directory, conversationWiring, notificationWiring }, shared⟩

/-- A user joins a conversation: directly, or by a frame if the directory allows it. -/
inductive Joins (t : Site) : Happening → UserId → ConversationId → Prop
  | directly (user : UserId) (conversation : ConversationId) : t.Joins (.join user conversation) user conversation
  | byFrame {connection : ConnectionId} {bytes : Bytes} {sent : Message} {conversation : ConversationId}
    (decoded : Message.decode bytes = .ok sent) (command : Command.ofMessage sent = .ok (.join conversation))
    (allowed : t.hub.directory.allows conversation (t.shared.userOf connection) = .ok true) :
    t.Joins (.frame connection bytes) (t.shared.userOf connection) conversation

/-- What a happening can do to a hub. -/
inductive HubChange (t : Site) (e : Happening) (hub : Hub) : Prop
  | kept (eq : hub = t.hub)
  | registered (connection : ConnectionId) (event : e = .register connection)
    (eq : hub = t.hub.register (t.shared.userOf connection) connection)
  | unregistered (connection : ConnectionId) (event : e = .unregister connection)
    (eq : hub = t.hub.unregister (t.shared.userOf connection) connection)
  | joined (user : UserId) (conversation : ConversationId) (joins : t.Joins e user conversation)
    (eq : hub = t.hub.join user conversation)
  | left (user : UserId) (conversation : ConversationId) (eq : hub = t.hub.leave user conversation)

/-- What each happening can do to the hub. -/
theorem meet_hub (t : Site) (e : Happening) : t.HubChange e (t.meet e).hub := by
  cases e with
  | register connection => exact .registered connection rfl rfl
  | unregister connection => exact .unregistered connection rfl rfl
  | join user conversation => exact .joined user conversation (.directly user conversation) rfl
  | leave user conversation => exact .left user conversation rfl
  | frame connection bytes =>
    cases hdecode : Message.decode bytes with
    | error fault => exact .kept (by simp only [meet, apply, Hub.handle, hdecode])
    | ok sent =>
      cases hcommand : Command.ofMessage sent with
      | error fault => exact .kept (by simp only [meet, apply, Hub.handle, hdecode, hcommand])
      | ok command =>
        have hhandle : (t.meet (.frame connection bytes)).hub =
            (t.hub.execute t.shared connection (t.shared.userOf connection) sent.payload command).1 := by
          simp only [meet, apply, Hub.handle, hdecode, hcommand]
        rw [hhandle]
        cases command with
        | join conversation =>
          rcases hallows : t.hub.directory.allows conversation (t.shared.userOf connection) with fault | _ | _
          · exact .kept (by simp only [Hub.execute, Hub.requestJoin, hallows])
          · exact .kept (by simp only [Hub.execute, Hub.requestJoin, hallows])
          · exact .joined _ conversation (.byFrame hdecode hcommand hallows)
              (by simp only [Hub.execute, Hub.requestJoin, hallows])
        | leave conversation => exact .left _ conversation rfl
        | typing conversation =>
          refine .kept ?_
          rw [Hub.execute]
          split <;> rfl
        | unknown kind => exact .kept rfl

/-- Whatever happens, the connections keep their users. -/
theorem meet_userOf (t : Site) (e : Happening) (connection : ConnectionId) :
    (t.meet e).shared.userOf connection = t.shared.userOf connection := by
  cases e with
  | register | unregister | join | leave => rfl
  | frame sender bytes =>
    obtain ⟨hub, o, -, happlied⟩ := t.frame_reacts sender bytes
    have hmeet : (t.meet (.frame sender bytes)).shared.userOf connection = _ :=
      congrArg (fun t : Site => t.shared.userOf connection)
        (happlied t.hub.conversationWiring t.hub.notificationWiring t.shared.bus)
    exact hmeet.trans (Shared.carry_userOf _ _ o connection)

/-- In the whole course the connections keep their users. -/
theorem run_userOf (t : Site) (happenings : List Happening) (connection : ConnectionId) :
    (t.run happenings).shared.userOf connection = t.shared.userOf connection := by
  induction happenings using List.reverseRecOn with
  | nil => rfl
  | append_singleton happenings e ih => rw [run_concat, meet_userOf, ih]

end Site

/-! ## Which connections are registered -/

/-- A connection has been registered, and not been taken out since. -/
def IsLive (happenings : List Happening) (connection : ConnectionId) : Prop :=
  ∃ before after, happenings = before ++ .register connection :: after ∧ .unregister connection ∉ after

/-- A connection is live after it was registered, and stays so until it is taken out. -/
theorem isLive_concat (happenings : List Happening) (e : Happening) (connection : ConnectionId) :
    IsLive (happenings ++ [e]) connection ↔
      e = .register connection ∨ IsLive happenings connection ∧ e ≠ .unregister connection := by
  constructor
  · rintro ⟨before, after, heq, hout⟩
    induction after using List.reverseRecOn with
    | nil => exact .inl (List.singleton_inj.mp (List.append_inj' heq rfl).2)
    | append_singleton after last =>
      rw [← List.cons_append, ← List.append_assoc] at heq
      obtain ⟨hbefore, hlast⟩ := List.append_inj' heq rfl
      rw [List.mem_append, not_or, List.mem_singleton] at hout
      exact .inr ⟨⟨before, after, hbefore, hout.1⟩, fun he => hout.2 (he.symm.trans (List.singleton_inj.mp hlast))⟩
  · rintro (rfl | ⟨⟨before, after, rfl, hout⟩, hne⟩)
    · exact ⟨happenings, [], rfl, List.not_mem_nil⟩
    · refine ⟨before, after ++ [e], by rw [List.append_assoc, List.cons_append], fun hmem => ?_⟩
      rcases List.mem_append.mp hmem with hmem | hmem
      · exact hout hmem
      · exact hne (List.mem_singleton.mp hmem).symm

namespace Hub

/-- A hub without a connection of a user. -/
def parted (h : Hub) (user : UserId) (connection : ConnectionId) : Hub :=
  { h with sockets := (h.sockets.unregister user connection).1 }

/-- Only a registered connection is taken out, and the user leaves all conversations if it was the last. -/
theorem unregister_cases (h : Hub) (user : UserId) (connection : ConnectionId) :
    h.sockets.contains user connection = false ∧ h.unregister user connection = h ∨
      h.sockets.contains user connection = true ∧
        ((h.parted user connection).isOnline user = true ∧ h.unregister user connection = h.parted user connection ∨
          (h.parted user connection).isOnline user = false ∧
            h.unregister user connection = (h.parted user connection).leaveAll user) := by
  rcases h.sockets.unregisterIf_cases user connection (fun _ => true) with ⟨value, hvalue, -, hout⟩ | ⟨hnone, hout⟩
  · refine .inr ⟨by rw [Registry.contains, hvalue]; rfl, ?_⟩
    have hunregister : h.unregister user connection =
        if (h.parted user connection).isOnline user then h.parted user connection
        else (h.parted user connection).leaveAll user := by
      simp only [unregister, parted, Registry.unregister, hout]
    by_cases honline : (h.parted user connection).isOnline user = true
    · exact .inl ⟨honline, hunregister.trans (if_pos honline)⟩
    · exact .inr ⟨Bool.eq_false_iff.mpr honline, hunregister.trans (if_neg honline)⟩
  · refine .inl ⟨?_, by simp only [unregister, Registry.unregister, hout]⟩
    cases hvalue : h.sockets.get? user connection with
    | none => rw [Registry.contains, hvalue]; rfl
    | some value => exact absurd (hnone value hvalue) (by simp)

/-- What is kept when a user leaves one conversation is kept when the user leaves all. -/
theorem leaveAll_keeps {P : Hub → Prop} {user : UserId}
    (hleave : ∀ h conversation, P h → P (h.leave user conversation)) {h : Hub} (hstart : P h) :
    P (h.leaveAll user) := by
  have hfold (conversations : List ConversationId) {h : Hub} (hstart : P h) :
      P (conversations.foldl (fun h conversation => h.leave user conversation) h) := by
    induction conversations generalizing h with
    | nil => exact hstart
    | cons conversation rest ih => exact ih (hleave h conversation hstart)
  exact hfold _ hstart

/-- Leaving conversations leaves the connections alone. -/
@[simp] theorem leaveAll_sockets (h : Hub) (user : UserId) : (h.leaveAll user).sockets = h.sockets :=
  leaveAll_keeps (P := fun h' => h'.sockets = h.sockets) (fun _ _ hsame => hsame) rfl

/-- Taking a connection out takes out that one, and leaves the others alone. -/
theorem contains_sockets_unregister (h : Hub) (user other : UserId) (connection id : ConnectionId) :
    (h.unregister user connection).sockets.contains other id =
      if other = user ∧ id = connection then false else h.sockets.contains other id := by
  have hparted : (h.parted user connection).sockets.contains other id = _ :=
    h.sockets.contains_unregister user other connection id
  rcases h.unregister_cases user connection with ⟨habsent, hsame⟩ | ⟨-, ⟨-, hsame⟩ | ⟨-, hsame⟩⟩
  · rw [hsame]
    split
    case isTrue hself => rw [hself.1, hself.2, habsent]
    case isFalse => rfl
  · rw [hsame, hparted]
  · rw [hsame, leaveAll_sockets, hparted]

end Hub

namespace Site

/-- Only registering and taking out a connection changes who is registered, and only as far as that connection. -/
theorem contains_sockets_meet (t : Site) (e : Happening) (user : UserId) (connection : ConnectionId) :
    (t.meet e).hub.sockets.contains user connection = true ↔
      e = .register connection ∧ t.shared.userOf connection = user ∨
        t.hub.sockets.contains user connection = true ∧
          ¬ (e = .unregister connection ∧ t.shared.userOf connection = user) := by
  have hself (c : ConnectionId) :
      user = t.shared.userOf c ∧ connection = c ↔ c = connection ∧ t.shared.userOf connection = user := by
    grind
  have hsame (hregister : ∀ c, e ≠ .register c) (hunregister : ∀ c, e ≠ .unregister c) :
      (t.meet e).hub.sockets = t.hub.sockets := by
    cases t.meet_hub e with
    | kept heq => rw [heq]
    | joined _ _ _ heq | left _ _ heq =>
      rw [heq]
      rfl
    | registered c hevent => exact absurd hevent (hregister c)
    | unregistered c hevent => exact absurd hevent (hunregister c)
  cases e with
  | register c =>
    have hmeet : (t.meet (.register c)).hub.sockets.contains user connection = _ :=
      t.hub.sockets.contains_register (t.shared.userOf c) user c connection ()
    rw [hmeet]
    by_cases hevent : c = connection ∧ t.shared.userOf connection = user <;> simp [hself, hevent]
  | unregister c =>
    have hmeet : (t.meet (.unregister c)).hub.sockets.contains user connection = _ :=
      t.hub.contains_sockets_unregister (t.shared.userOf c) user c connection
    rw [hmeet]
    by_cases hevent : c = connection ∧ t.shared.userOf connection = user <;> simp [hself, hevent]
  | join | leave | frame =>
    rw [hsame (by simp) (by simp)]
    simp

/-- If no connection was registered at first, then the live connections are registered, for their users. -/
theorem contains_sockets_run {t : Site} (hnobody : t.hub.sockets = .empty) (happenings : List Happening)
    (user : UserId) (connection : ConnectionId) :
    (t.run happenings).hub.sockets.contains user connection = true ↔
      IsLive happenings connection ∧ t.shared.userOf connection = user := by
  induction happenings using List.reverseRecOn with
  | nil =>
    refine iff_of_false (by simp [run, hnobody, Registry.contains, Registry.get?, Table.get?]) ?_
    rintro ⟨⟨before, after, heq, -⟩, -⟩
    simp at heq
  | append_singleton happenings e ih =>
    rw [run_concat, contains_sockets_meet, ih, run_userOf, isLive_concat]
    tauto

end Site

/-! ## Registries that agree -/

namespace Hub

/-- The registries of a hub are neat, and the two of the conversations are inverse. -/
structure Consistent (h : Hub) : Prop where
  sockets : h.sockets.Neat
  conversations : h.conversations.Neat
  memberships : h.memberships.Neat
  inverse : h.conversations.Inverse h.memberships

/-- A connection that is registered changes no membership. -/
theorem Consistent.register {h : Hub} (hc : h.Consistent) (user : UserId) (connection : ConnectionId) :
    (h.register user connection).Consistent :=
  ⟨hc.sockets.register user connection (), hc.conversations, hc.memberships, hc.inverse⟩

/-- Whoever joins is taken into both registries. -/
theorem Consistent.join {h : Hub} (hc : h.Consistent) (user : UserId) (conversation : ConversationId) :
    (h.join user conversation).Consistent :=
  ⟨hc.sockets, hc.conversations.register conversation user (), hc.memberships.register user conversation (),
    hc.inverse.register conversation user () ()⟩

/-- Whoever leaves is taken out of both registries. -/
theorem Consistent.leave {h : Hub} (hc : h.Consistent) (user : UserId) (conversation : ConversationId) :
    (h.leave user conversation).Consistent :=
  ⟨hc.sockets, hc.conversations.unregister conversation user, hc.memberships.unregister user conversation,
    hc.inverse.unregister conversation user⟩

/-- A hub without a connection is as consistent. -/
theorem Consistent.parted {h : Hub} (hc : h.Consistent) (user : UserId) (connection : ConnectionId) :
    (h.parted user connection).Consistent :=
  ⟨hc.sockets.unregister user connection, hc.conversations, hc.memberships, hc.inverse⟩

/-- A connection that is taken out leaves a hub consistent, whatever its user leaves with it. -/
theorem Consistent.unregister {h : Hub} (hc : h.Consistent) (user : UserId) (connection : ConnectionId) :
    (h.unregister user connection).Consistent := by
  rcases h.unregister_cases user connection with ⟨-, hsame⟩ | ⟨-, ⟨-, hsame⟩ | ⟨-, hsame⟩⟩
  · rwa [hsame]
  · rw [hsame]
    exact hc.parted user connection
  · rw [hsame]
    exact leaveAll_keeps (fun _ conversation hrest => hrest.leave user conversation) (hc.parted user connection)

/-- A new hub is consistent. -/
theorem consistent_new (directory : Directory) (conversationWiring notificationWiring : Wiring) :
    Consistent { directory, conversationWiring, notificationWiring } :=
  ⟨Registry.neat_empty, Registry.neat_empty, Registry.neat_empty, fun _ _ => rfl⟩

/-- Whoever leaves all conversations is a member of none, and the others are where they were. -/
theorem Consistent.contains_leaveAll {h : Hub} (hc : h.Consistent) (user : UserId) (conversation : ConversationId)
    (name : UserId) :
    (h.leaveAll user).conversations.contains conversation name = true ↔
      h.conversations.contains conversation name = true ∧ name ≠ user := by
  have hfold (conversations : List ConversationId) (h : Hub) :
      (conversations.foldl (fun h conversation => h.leave user conversation) h).conversations.contains
          conversation name = true ↔
        h.conversations.contains conversation name = true ∧ ¬ (name = user ∧ conversation ∈ conversations) := by
    induction conversations generalizing h with
    | nil => simp
    | cons first rest ih =>
      rw [List.foldl_cons, ih, Hub.leave, Registry.contains_unregister, List.mem_cons]
      by_cases hfirst : conversation = first ∧ name = user
      · simp [hfirst]
      · rw [if_neg hfirst]
        tauto
  have hmember : h.conversations.contains conversation user = true ↔ conversation ∈ h.memberships.members user := by
    rw [hc.inverse conversation user, Registry.mem_members_iff]
  rw [leaveAll, hfold]
  refine and_congr_right fun hthere => not_congr (and_iff_left_of_imp fun hname => ?_)
  exact hmember.mp (hname ▸ hthere)

/-- A user is online with any connection. -/
theorem Consistent.isOnline_iff {h : Hub} (hc : h.Consistent) (user : UserId) :
    h.isOnline user = true ↔ ∃ connection, h.sockets.contains user connection = true :=
  hc.sockets.containsScope_iff user

/-- A user is still online without a connection if there is another one. -/
theorem Consistent.isOnline_parted {h : Hub} (hc : h.Consistent) (user : UserId) (connection : ConnectionId) :
    (h.parted user connection).isOnline user = true ↔
      ∃ other, other ≠ connection ∧ h.sockets.contains user other = true := by
  rw [(hc.parted user connection).isOnline_iff]
  refine exists_congr fun other => ?_
  rw [Hub.parted, Registry.contains_unregister]
  by_cases hother : other = connection <;> simp [hother]

end Hub

namespace Site

/-- Whatever happens leaves a hub consistent. -/
theorem consistent_meet {t : Site} (hc : t.hub.Consistent) (e : Happening) : (t.meet e).hub.Consistent := by
  cases t.meet_hub e with
  | kept heq => exact heq ▸ hc
  | registered connection _ heq => exact heq ▸ hc.register _ connection
  | unregistered connection _ heq => exact heq ▸ hc.unregister _ connection
  | joined user conversation _ heq => exact heq ▸ hc.join user conversation
  | left user conversation heq => exact heq ▸ hc.leave user conversation

/-- A hub that was consistent stays so in the whole course. -/
theorem consistent_run {t : Site} (hc : t.hub.Consistent) (happenings : List Happening) :
    (t.run happenings).hub.Consistent := by
  induction happenings generalizing t with
  | nil => exact hc
  | cons e rest ih => exact ih (consistent_meet hc e)

end Site

/-! ## Members who are online -/

namespace Hub

/-- All members of conversations are online. -/
def Attended (h : Hub) : Prop :=
  ∀ conversation user, h.conversations.contains conversation user = true → h.isOnline user = true

/-- With a further connection everybody who was online still is. -/
theorem Attended.register {h : Hub} (hc : h.Consistent) (ha : h.Attended) (user : UserId) (connection : ConnectionId) :
    (h.register user connection).Attended := by
  intro conversation member hmember
  obtain ⟨other, hother⟩ := (hc.isOnline_iff member).mp (ha conversation member hmember)
  refine ((hc.register user connection).isOnline_iff member).mpr ⟨other, ?_⟩
  rw [Hub.register, Registry.contains_register, hother, ite_self]

/-- Whoever is online can join. -/
theorem Attended.join {h : Hub} (ha : h.Attended) {user : UserId} (honline : h.isOnline user = true)
    (conversation : ConversationId) : (h.join user conversation).Attended := by
  intro other member hmember
  rw [Hub.join, Registry.contains_register] at hmember
  split at hmember
  case isTrue hself => exact hself.2 ▸ honline
  case isFalse => exact ha other member hmember

/-- Anybody can leave. -/
theorem Attended.leave {h : Hub} (ha : h.Attended) (user : UserId) (conversation : ConversationId) :
    (h.leave user conversation).Attended := by
  intro other member hmember
  rw [Hub.leave, Registry.contains_unregister] at hmember
  split at hmember
  case isTrue => contradiction
  case isFalse => exact ha other member hmember

/-- Somebody else keeps all connections, and whoever loses the last one is no member any more. -/
theorem Attended.unregister {h : Hub} (hc : h.Consistent) (ha : h.Attended) (user : UserId)
    (connection : ConnectionId) : (h.unregister user connection).Attended := by
  have helse {member : UserId} (honline : h.isOnline member = true) (hname : member ≠ user) :
      (h.unregister user connection).isOnline member = true := by
    obtain ⟨other, hother⟩ := (hc.isOnline_iff member).mp honline
    refine ((hc.unregister user connection).isOnline_iff member).mpr ⟨other, ?_⟩
    rw [contains_sockets_unregister, if_neg fun hsame => hname hsame.1, hother]
  intro conversation member hmember
  rcases h.unregister_cases user connection with ⟨-, hsame⟩ | ⟨-, ⟨honline, hsame⟩ | ⟨-, hsame⟩⟩
  · rw [hsame] at hmember ⊢
    exact ha conversation member hmember
  · rw [hsame] at hmember
    by_cases hname : member = user
    · rw [hsame, hname]
      exact honline
    · exact helse (ha conversation member hmember) hname
  · rw [hsame] at hmember
    obtain ⟨hwas, hname⟩ := ((hc.parted user connection).contains_leaveAll user conversation member).mp hmember
    exact helse (ha conversation member hwas) hname

end Hub

namespace Site

/-- Joins are made for users who are online at that moment. -/
def JoinsOnline (t : Site) (happenings : List Happening) : Prop :=
  ∀ before e after, happenings = before ++ e :: after → ∀ user conversation, (t.run before).Joins e user conversation →
    (t.run before).hub.isOnline user = true

theorem joinsOnline_nil (t : Site) : t.JoinsOnline [] := by simp [JoinsOnline]

/-- Joins are made by those online exactly if the first one is and then all others are. -/
theorem joinsOnline_cons (t : Site) (e : Happening) (happenings : List Happening) :
    t.JoinsOnline (e :: happenings) ↔
      (∀ user conversation, t.Joins e user conversation → t.hub.isOnline user = true) ∧
        (t.meet e).JoinsOnline happenings := by
  refine ⟨fun h => ⟨h [] e happenings rfl, fun before f after heq => h (e :: before) f after (by rw [heq]; rfl)⟩,
    fun ⟨hfirst, hrest⟩ before f after heq => ?_⟩
  cases before with
  | nil =>
    obtain ⟨rfl, rfl⟩ := List.cons.inj heq
    exact hfirst
  | cons first before =>
    obtain ⟨rfl, hsame⟩ := List.cons.inj heq
    exact hrest before f after hsame

/-- If whoever joins is online, then all members stay online. -/
theorem attended_meet {t : Site} (hc : t.hub.Consistent) (ht : t.hub.Attended) {e : Happening}
    (hjoins : ∀ user conversation, t.Joins e user conversation → t.hub.isOnline user = true) :
    (t.meet e).hub.Attended := by
  cases t.meet_hub e with
  | kept heq => exact heq ▸ ht
  | registered connection _ heq => exact heq ▸ ht.register hc _ connection
  | unregistered connection _ heq => exact heq ▸ ht.unregister hc _ connection
  | joined user conversation hjoined heq => exact heq ▸ ht.join (hjoins user conversation hjoined) conversation
  | left user conversation heq => exact heq ▸ ht.leave user conversation

/-- If only users who are online join, then all members are online. -/
theorem attended_run {t : Site} (hc : t.hub.Consistent) (ht : t.hub.Attended) {happenings : List Happening}
    (hjoins : t.JoinsOnline happenings) : (t.run happenings).hub.Attended := by
  induction happenings generalizing t with
  | nil => exact ht
  | cons e happenings ih =>
    obtain ⟨hfirst, hrest⟩ := (joinsOnline_cons t e happenings).mp hjoins
    exact ih (consistent_meet hc e) (attended_meet hc ht hfirst) hrest

end Site

/-! ## What the registries tell -/

namespace Hub

/-- A hub knows exactly the live connections, each for its owner. -/
def Knows (h : Hub) (live : ConnectionId → Prop) (owner : ConnectionId → UserId) : Prop :=
  ∀ user connection, h.sockets.contains user connection = true ↔ live connection ∧ owner connection = user

/-- What a hub tells is right: who is a member of what, which connections there are, and who is online. -/
structure Tells (h : Hub) (live : ConnectionId → Prop) (owner : ConnectionId → UserId) : Prop where
  inverse : ∀ conversation user, user ∈ h.members conversation ↔ conversation ∈ h.memberships.members user
  everyone : ∀ connection, connection ∈ h.everyone ↔ live connection
  distinct : h.everyone.Nodup
  count : h.connectionCount = h.everyone.length
  online : ∀ user, h.isOnline user = true ↔ ∃ connection, live connection ∧ owner connection = user

/-- No registry of a hub keeps a scope without members. -/
structure Pruned (h : Hub) : Prop where
  sockets : ∀ user ∈ h.sockets.scopeList, h.sockets.members user ≠ []
  conversations : ∀ conversation ∈ h.conversations.scopeList, h.conversations.members conversation ≠ []
  memberships : ∀ user ∈ h.memberships.scopeList, h.memberships.members user ≠ []

/-- What follows when a connection is taken out depends on which connections are live. -/
structure Parts (h : Hub) (live : ConnectionId → Prop) (owner : ConnectionId → UserId) : Prop where
  /-- A connection that is not live changes nothing. -/
  stale : ∀ connection, ¬ live connection → h.unregister (owner connection) connection = h
  /-- One of several connections of a user takes no membership with it. -/
  shared : ∀ connection other, live connection → live other → other ≠ connection → owner other = owner connection →
    (h.unregister (owner connection) connection).conversations = h.conversations ∧
      (h.unregister (owner connection) connection).memberships = h.memberships
  /-- With the last one the user leaves every conversation, and nobody else does. -/
  last : ∀ connection, live connection → (∀ other, live other → owner other = owner connection → other = connection) →
    ∀ conversation user, user ∈ (h.unregister (owner connection) connection).members conversation ↔
      user ∈ h.members conversation ∧ user ≠ owner connection

section Knowledge

variable {h : Hub} {live : ConnectionId → Prop} {owner : ConnectionId → UserId}

/-- A consistent hub that knows the live connections tells of them. -/
theorem Consistent.tells (hc : h.Consistent) (hknows : h.Knows live owner) : h.Tells live owner := by
  have hsocket (user : UserId) (connection : ConnectionId) :
      connection ∈ h.socketsOf user ↔ live connection ∧ owner connection = user :=
    (h.sockets.mem_members_iff user connection).trans (hknows user connection)
  have honline (user : UserId) : h.isOnline user = true ↔ ∃ connection, live connection ∧ owner connection = user :=
    (hc.isOnline_iff user).trans (exists_congr (hknows user))
  refine ⟨hc.inverse.mem_iff, fun connection => ?_, List.nodup_flatMap.mpr ⟨fun user _ => hc.sockets.distinct user, ?_⟩,
    Registry.memberCount_eq hc.sockets.scopes, honline⟩
  · rw [Hub.everyone, List.mem_flatMap]
    constructor
    · rintro ⟨user, -, hconnection⟩
      exact ((hsocket user connection).mp hconnection).1
    · intro hlive
      have howner := (honline (owner connection)).mpr ⟨connection, hlive, rfl⟩
      exact ⟨owner connection, (Table.mem_keys_iff _ _).mpr howner, (hsocket _ _).mpr ⟨hlive, rfl⟩⟩
  · -- no connection has two owners
    refine hc.sockets.scopes.imp fun hne connection hfirst hsecond => hne ?_
    exact ((hsocket _ _).mp hfirst).2.symm.trans ((hsocket _ _).mp hsecond).2

/-- A consistent hub that knows the live connections takes them out with what belongs to them. -/
theorem Consistent.parts (hc : h.Consistent) (hknows : h.Knows live owner) : h.Parts live owner := by
  refine ⟨fun connection hgone => ?_, fun connection other hlive hother hne howner => ?_,
    fun connection hlive hlast conversation user => ?_⟩
  · rcases h.unregister_cases (owner connection) connection with ⟨-, hsame⟩ | ⟨hthere, -⟩
    · exact hsame
    · exact absurd ((hknows _ connection).mp hthere).1 hgone
  · have hstays := (hc.isOnline_parted (owner connection) connection).mpr
      ⟨other, hne, (hknows _ other).mpr ⟨hother, howner⟩⟩
    rcases h.unregister_cases (owner connection) connection with ⟨-, hout⟩ | ⟨-, ⟨-, hout⟩ | ⟨hgone, -⟩⟩
    · rw [hout]
      exact ⟨rfl, rfl⟩
    · rw [hout]
      exact ⟨rfl, rfl⟩
    · exact absurd hstays (by simp [hgone])
  · have hmember (h : Hub) : user ∈ h.members conversation ↔ h.conversations.contains conversation user = true :=
      h.conversations.mem_members_iff conversation user
    rcases h.unregister_cases (owner connection) connection with ⟨habsent, -⟩ | ⟨-, ⟨hstays, -⟩ | ⟨-, hout⟩⟩
    · exact absurd ((hknows _ connection).mpr ⟨hlive, rfl⟩) (by simp [habsent])
    · obtain ⟨other, hne, hother⟩ := (hc.isOnline_parted _ connection).mp hstays
      obtain ⟨hlive', howner⟩ := (hknows _ other).mp hother
      exact absurd (hlast other hlive' howner) hne
    · rw [hout, hmember, hmember]
      exact (hc.parted _ connection).contains_leaveAll _ conversation user

/-- If all members are online and no connection is live, then a consistent hub has nobody in its registries. -/
theorem Consistent.vacant (hc : h.Consistent) (hknows : h.Knows live owner) (hattended : h.Attended)
    (hnobody : ∀ connection, ¬ live connection) :
    h.sockets.isEmpty = true ∧ h.conversations.isEmpty = true ∧ h.memberships.isEmpty = true := by
  have hvacant (conversation : ConversationId) (user : UserId) :
      h.conversations.contains conversation user = false := by
    refine Bool.eq_false_iff.mpr fun hmember => ?_
    obtain ⟨connection, hlive, -⟩ := ((hc.tells hknows).online user).mp (hattended conversation user hmember)
    exact hnobody connection hlive
  refine ⟨hc.sockets.isEmpty fun user connection => Bool.eq_false_iff.mpr fun hthere => ?_,
    hc.conversations.isEmpty hvacant, hc.memberships.isEmpty fun user conversation => ?_⟩
  · exact hnobody connection ((hknows user connection).mp hthere).1
  · exact (hc.inverse conversation user).symm.trans (hvacant conversation user)

end Knowledge

end Hub

namespace Site

/--
Whatever is asked of a new hub, it tells rightly who is a member of what, which connections have been
registered and not taken out since, and who is online; and a connection that is taken out ends the
memberships of its user exactly if it is the last one. No registry keeps a scope without members. Whoever
joins by a frame of a live connection is online. If only users who are online join, then all members are
online, and all registries are empty as soon as no connection is live.
-/
theorem registries_stay_consistent (directory : Directory) (conversationWiring notificationWiring : Wiring)
    (shared : Shared) (happenings : List Happening) :
    let start := opening directory conversationWiring notificationWiring shared
    let t := start.run happenings
    t.hub.Tells (IsLive happenings) shared.userOf ∧ t.hub.Pruned ∧ t.hub.Parts (IsLive happenings) shared.userOf ∧
      (∀ connection bytes user conversation, IsLive happenings connection →
        t.Joins (.frame connection bytes) user conversation → t.hub.isOnline user = true) ∧
      (start.JoinsOnline happenings → t.hub.Attended ∧ ((∀ connection, ¬ IsLive happenings connection) →
        t.hub.sockets.isEmpty = true ∧ t.hub.conversations.isEmpty = true ∧ t.hub.memberships.isEmpty = true)) := by
  intro start t
  have hfresh : start.hub.Consistent := Hub.consistent_new directory conversationWiring notificationWiring
  have hc : t.hub.Consistent := consistent_run hfresh happenings
  have hknows : t.hub.Knows (IsLive happenings) shared.userOf := contains_sockets_run (t := start) rfl happenings
  refine ⟨hc.tells hknows, ⟨hc.sockets.inhabited, hc.conversations.inhabited, hc.memberships.inhabited⟩,
    hc.parts hknows, fun connection bytes user conversation hlive hjoins => ?_, fun hjoins => ?_⟩
  · cases hjoins with
    | byFrame =>
      exact ((hc.tells hknows).online _).mpr ⟨connection, hlive, (run_userOf start happenings connection).symm⟩
  · have hattended : t.hub.Attended :=
      attended_run hfresh (fun _ _ hmember => absurd hmember Bool.false_ne_true) hjoins
    exact ⟨hattended, hc.vacant hknows hattended⟩

/-- Three connections, two of them of the same user. -/
def threeSockets : Shared :=
  ((((({ timestamp := "", patience := 0, bus := .new 1, storage := { store := { clock := "" } } } :
    Shared).connect 1 8).1.connect 1 8).1.connect 2 8).1)

/-- Two users join a conversation. The one who has two connections loses one of them, twice over. -/
def halfGone : List Happening :=
  [.register 0, .register 1, .register 2, .join 1 10, .join 2 10, .unregister 0, .unregister 0]

/-- A user with two connections is a member until both are taken out; and when everybody has gone, nothing is left. -/
theorem all_gone :
    (opening .open {} {} threeSockets).JoinsOnline (halfGone ++ [.unregister 1, .unregister 2]) ∧
      ((opening .open {} {} threeSockets).run halfGone).hub.members 10 = [1, 2] ∧
      ((opening .open {} {} threeSockets).run (halfGone ++ [.unregister 1, .unregister 2])).hub.Attended ∧
      ((opening .open {} {} threeSockets).run (halfGone ++ [.unregister 1, .unregister 2])).hub.sockets.isEmpty = true ∧
      ((opening .open {} {} threeSockets).run
        (halfGone ++ [.unregister 1, .unregister 2])).hub.conversations.isEmpty = true ∧
      ((opening .open {} {} threeSockets).run
        (halfGone ++ [.unregister 1, .unregister 2])).hub.memberships.isEmpty = true := by
  obtain ⟨htells, -, -, -, hattended⟩ :=
    registries_stay_consistent .open {} {} threeSockets (halfGone ++ [.unregister 1, .unregister 2])
  have hjoins : (opening .open {} {} threeSockets).JoinsOnline (halfGone ++ [.unregister 1, .unregister 2]) := by
    simp only [halfGone, List.cons_append, List.nil_append, joinsOnline_cons, joinsOnline_nil, and_true]
    refine ⟨nofun, nofun, nofun, ?_, ?_, nofun, nofun, nofun, nofun⟩
    · rintro _ _ ⟨⟩
      decide +kernel
    · rintro _ _ ⟨⟩
      decide +kernel
  have hnobody : ∀ connection, ¬ IsLive (halfGone ++ [.unregister 1, .unregister 2]) connection := by
    intro connection hlive
    have hnone : ((opening .open {} {} threeSockets).run
        (halfGone ++ [.unregister 1, .unregister 2])).hub.everyone = [] := by decide +kernel
    exact List.not_mem_nil (hnone ▸ (htells.everyone connection).mpr hlive)
  exact ⟨hjoins, by decide +kernel, (hattended hjoins).1, (hattended hjoins).2 hnobody⟩

end Site

end Parlor.Chat
