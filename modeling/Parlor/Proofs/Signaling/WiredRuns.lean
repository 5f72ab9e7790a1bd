import Parlor.Proofs.Registry
import Parlor.Proofs.Signaling.Operations

/-!
# A signaling hub on the bus

A hub that is wired takes in what waits on the bus after each operation. A socket is in one room, which has a
name. As long as no real number is sent, every connection then gets what it would get without a bus.
-/

namespace Parlor.Signaling

open Json

/-! ## What an operation has to say -/

/-- A kind that has a meaning is canonical. -/
theorem Kind.isCanonical_of_isKnown {k : Kind} (h : k.isKnown = true) : k.IsCanonical := by
  rintro s rfl
  contradiction

namespace Hub

/-- Every peer is in the room of its socket. -/
def KeepsTo (h : Hub) (home : ConnectionId → String) : Prop :=
  ∀ room user peer, (room, user, peer) ∈ h.rooms.entries → room = home peer.connection

theorem KeepsTo.without {h : Hub} {home : ConnectionId → String} (hkeeps : h.KeepsTo home) (room : String)
    (user : UserId) : (h.without room user).KeepsTo home :=
  fun other name peer hentry => hkeeps other name peer (Registry.mem_entries_of_setMembers_erase hentry)

theorem KeepsTo.register {h : Hub} {home : ConnectionId → String} (hkeeps : h.KeepsTo home) (user : UserId)
    (name : String) (connection : ConnectionId) {hub : Hub}
    (hrooms : hub.rooms = h.rooms.register (home connection) user { name, connection }) : hub.KeepsTo home := by
  intro other user' peer hentry
  rw [hrooms] at hentry
  rcases Registry.mem_entries_of_register hentry with heq | hentry
  · obtain ⟨rfl, rfl, rfl⟩ : other = home connection ∧ user' = user ∧ peer = { name, connection } := by simpa using heq
    rfl
  · exact hkeeps other user' peer hentry

theorem KeepsTo.removals {h : Hub} {home : ConnectionId → String} (hkeeps : h.KeepsTo home) (user : UserId)
    (condition : ConnectionId → Bool) (rooms : List String) : (h.removals user condition rooms).1.KeepsTo home := by
  induction rooms generalizing h with
  | nil => exact hkeeps
  | cons room rest ih =>
    have hone : (h.removal room user condition).1.KeepsTo home := by
      unfold Hub.removal
      split
      · split
        · exact hkeeps.without room user
        · exact hkeeps
      · exact hkeeps
    exact ih hone

/-- The rooms of a socket are its one room. -/
theorem KeepsTo.roomsOf {h : Hub} {home : ConnectionId → String} (hkeeps : h.KeepsTo home) (user : UserId)
    (connection : ConnectionId) :
    h.roomsOf user connection = List.replicate (h.roomsOf user connection).length (home connection) := by
  refine List.eq_replicate_of_mem fun room hroom => ?_
  obtain ⟨⟨_, name, peer⟩, hentry, rfl⟩ := List.mem_map.mp hroom
  obtain ⟨hpresent, hmine⟩ := List.mem_filter.mp hentry
  obtain ⟨-, rfl⟩ : name = user ∧ peer.connection = connection := by simpa using hmine
  exact hkeeps _ _ _ hpresent

/-- Whoever has been taken out of a room is not taken out again. -/
theorem removal_again (h : Hub) (room : String) (user : UserId) (condition : ConnectionId → Bool) :
    (h.removal room user condition).1.removal room user condition = ((h.removal room user condition).1, []) := by
  cases hpeer : h.rooms.get? room user with
  | none => simp [removal, hpeer]
  | some peer =>
    by_cases hcondition : condition peer.connection = true
    · have hgone : (h.without room user).rooms.get? room user = none := by
        rw [Hub.without, Registry.get?_setMembers_erase, if_pos ⟨rfl, rfl⟩]
      simp [removal, hpeer, hcondition, hgone]
    · simp [removal, hpeer, hcondition]

/-- Whoever leaves one room, however often, is told of once at most. -/
theorem length_removals_replicate (h : Hub) (room : String) (user : UserId) (condition : ConnectionId → Bool)
    (n : Nat) : (h.removals user condition (List.replicate n room)).2.length ≤ 1 := by
  have hquiet {h : Hub} (hsame : h.removal room user condition = (h, [])) (n : Nat) :
      h.removals user condition (List.replicate n room) = (h, []) := by
    induction n with
    | zero => rfl
    | succ n ih => simp [List.replicate_succ, Hub.removals, hsame, ih]
  cases n with
  | zero => exact Nat.zero_le 1
  | succ n =>
    have hone : (h.removal room user condition).2.length ≤ 1 := by
      unfold removal
      split
      · split <;> simp
      · simp
    simpa [List.replicate_succ, Hub.removals, hquiet (h.removal_again room user condition) n] using hone

end Hub

namespace Operation

/-- A socket is opened for one room, and every frame of it comes from there. -/
def IsAtHome (home : ConnectionId → String) : Operation → Prop
  | .frame room _ id _ => room = home id
  | _ => True

/-- An operation by which no real number is sent. -/
def IsWhole : Operation → Prop
  | .frame _ _ _ bytes => ∀ sent, Signal.decode bytes = .ok sent → ∀ v ∈ sent.payload, v.isWhole = true
  | _ => True

end Operation

namespace Site

/-- What an operation has to say can be heard by the hub afterwards, and may come back as it is. -/
structure Speaks (t : Site) (home : ConnectionId → String) (op : Operation) (next : Site) (o : Outbox) : Prop where
  applied : ∀ wiring bus, (t.rewired wiring bus).apply op = (next.rewired wiring bus).carry o
  keeps : next.hub.KeepsTo home
  few : o.bulletins.length ≤ 1
  heard : ∀ b ∈ o.bulletins,
    Channel.isMatch (Channel.allUnder Channel.callStem) b.channel = true ∧ next.hub.Hears b
  whole : op.IsWhole → ∀ b ∈ o.bulletins, b.echo Signal.decode Signal.text = b

/-- What is told of a user who has left is heard, and comes back as it is. -/
theorem heard_userLeft (h : Hub) {room : String} (hroom : room ≠ "") (user : UserId) :
    h.Hears (h.bulletin room (.userLeft room user)) ∧
      (h.bulletin room (.userLeft room user)).echo Signal.decode Signal.text =
        h.bulletin room (.userLeft room user) := by
  have hcanonical : (Signal.userLeft room user).IsCanonical :=
    ⟨Kind.isCanonical_of_isKnown rfl, by simp [Signal.userLeft, Signal.inRoom, Signal.PayloadWithin]⟩
  exact ⟨h.hears_bulletin hroom rfl hcanonical.payload, Bulletin.echo_eq hcanonical.decode_text rfl⟩

/-- What a frame has to say in the room of its socket. -/
theorem FrameReaction.speaks {t : Site} {home : ConnectionId → String} {name : String} {connection : ConnectionId}
    {bytes : Bytes} {hub : Hub} {o : Outbox} (h : t.FrameReaction (home connection) name connection bytes hub o)
    (hroom : home connection ≠ "") (hkeeps : t.hub.KeepsTo home) :
    hub.KeepsTo home ∧ o.bulletins.length ≤ 1 ∧
      (∀ b ∈ o.bulletins, Channel.isMatch (Channel.allUnder Channel.callStem) b.channel = true ∧ hub.Hears b) ∧
      (Operation.IsWhole (.frame (home connection) name connection bytes) →
        ∀ b ∈ o.bulletins, b.echo Signal.decode Signal.text = b) := by
  have hmatch : Channel.isMatch (Channel.allUnder Channel.callStem) (Channel.call (home connection)) = true :=
    Channel.isMatch_stem _ _
  cases h with
  | ignored | refused | relayed => exact ⟨hkeeps, Nat.zero_le 1, by simp, by simp⟩
  | joined given others hrooms =>
    have hcanonical : (Signal.userJoined (home connection) (t.shared.userOf connection) given).IsCanonical :=
      ⟨Kind.isCanonical_of_isKnown rfl, by simp [Signal.userJoined, Signal.inRoom, Signal.PayloadWithin]⟩
    refine ⟨hkeeps.register _ _ _ hrooms, Nat.le_refl 1, fun b hb => ?_, fun _ b hb => ?_⟩
    · rw [List.mem_singleton.mp hb]
      exact ⟨hmatch, hub.hears_bulletin hroom rfl hcanonical.payload⟩
    · rw [List.mem_singleton.mp hb]
      exact Bulletin.echo_eq hcanonical.decode_text rfl
  | left =>
    refine ⟨hkeeps.without _ _, Nat.le_refl 1, fun b hb => ?_, fun _ b hb => ?_⟩
    · rw [List.mem_singleton.mp hb]
      exact ⟨hmatch, (heard_userLeft _ hroom _).1⟩
    · rw [List.mem_singleton.mp hb]
      exact (heard_userLeft _ hroom _).2
  | searched hdecode hkind htarget habsent =>
    refine ⟨hkeeps, Nat.le_refl 1, fun b hb => ?_, fun hwhole b hb => ?_⟩
    · rw [List.mem_singleton.mp hb]
      exact ⟨hmatch, Hub.hears_search _ hroom rfl habsent (Signal.decode_within hdecode).2⟩
    · have hcanonical := Signal.isCanonical_of_decode hdecode (hwhole _ hdecode)
      rw [List.mem_singleton.mp hb]
      exact Bulletin.echo_eq (Signal.IsCanonical.decode_text ⟨hcanonical.kind, hcanonical.payload⟩) rfl

/-- Every operation of a socket that keeps to its room speaks. -/
theorem apply_speaks {t : Site} {home : ConnectionId → String} (hhome : ∀ connection, home connection ≠ "")
    (hkeeps : t.hub.KeepsTo home) {op : Operation} (hop : op.IsAtHome home) : ∃ next o, t.Speaks home op next o := by
  cases op with
  | frame room name connection bytes =>
    obtain rfl : room = home connection := hop
    obtain ⟨hub, o, hreaction, happlied⟩ := t.frame_reacts (home connection) name connection bytes
    obtain ⟨hkeeps', hfew, hheard, hwhole⟩ := hreaction.speaks (hhome connection) hkeeps
    refine ⟨⟨hub, t.shared⟩, o, fun wiring bus => ?_, hkeeps', hfew, hheard, hwhole⟩
    simp only [apply, rewired, happlied]
    rfl
  | disconnect connection =>
    have hrooms := hkeeps.roomsOf (t.shared.userOf connection) connection
    generalize hsaid : t.hub.removals (t.shared.userOf connection) (· == connection)
      (t.hub.roomsOf (t.shared.userOf connection) connection) = removed
    obtain ⟨hlast, hcases⟩ := t.hub.removals_cases (t.shared.userOf connection) (· == connection)
      (t.hub.roomsOf (t.shared.userOf connection) connection)
    have hfew := t.hub.length_removals_replicate (home connection) (t.shared.userOf connection) (· == connection)
      (t.hub.roomsOf (t.shared.userOf connection) connection).length
    rw [← hrooms] at hfew
    have hnamed : ∀ room ∈ t.hub.roomsOf (t.shared.userOf connection) connection, room ≠ "" := by
      intro room hroom
      rw [hrooms] at hroom
      exact List.eq_of_mem_replicate hroom ▸ hhome connection
    rw [hsaid] at hlast hfew hcases
    refine ⟨⟨removed.1, t.shared⟩, { bulletins := removed.2 }, fun wiring bus => ?_,
      hsaid ▸ hkeeps.removals _ _ _, hfew, fun b hb => ?_, fun _ b hb => ?_⟩
    · have hfold := t.hub.foldl_remove_eq wiring { t.shared with bus } (t.shared.userOf connection) (· == connection)
        (t.hub.roomsOf (t.shared.userOf connection) connection)
      rw [hsaid] at hfold
      exact congrArg (fun p : Hub × Shared => Site.mk p.1 p.2) hfold
    · obtain ⟨room, hroom, rfl⟩ := hcases b hb
      rw [← hlast room]
      exact ⟨Channel.isMatch_stem _ _, (heard_userLeft _ (hnamed room hroom) _).1⟩
    · obtain ⟨room, hroom, rfl⟩ := hcases b hb
      exact (heard_userLeft _ (hnamed room hroom) _).2
  | connect user capacity =>
    exact ⟨t.apply (.connect user capacity), {}, fun _ _ => rfl, hkeeps, Nat.zero_le 1, by simp, by simp⟩
  | connection id change =>
    exact ⟨t.apply (.connection id change), {}, fun _ _ => rfl, hkeeps, Nat.zero_le 1, by simp, by simp⟩

/-! ## Runs -/

/-- Turns the bus on or off. -/
def switchBus (t : Site) (isUp : Bool) : Site :=
  { t with shared := { t.shared with bus := { t.shared.bus with mode := if isUp then .up else .down } } }

/-- Takes in what waits on the bus. -/
def pull (t : Site) : Site := { t with shared := t.hub.pull t.shared }

/-- What an operation leads to with the bus up or down, once everything that waits there was taken in. -/
def settle (t : Site) (isUp : Bool) (op : Operation) : Site := ((t.switchBus isUp).apply op).pull

/-- What several operations lead to, each with the bus up or down. -/
def settleAll (t : Site) (course : List (Bool × Operation)) : Site := course.foldl (fun t e => t.settle e.1 e.2) t

/-- What several operations lead to without a bus. -/
def applyAll (t : Site) (ops : List Operation) : Site := ops.foldl apply t

/-- A hub that is not wired, or that has read everything on a bus with room for a message. -/
def Drained (t : Site) : Prop := t.hub.wiring.Drained t.shared.bus (Channel.allUnder Channel.callStem) 1

/-- A connection leaves some rooms one after the other. -/
def withdrawn (t : Site) (connection : ConnectionId) (rooms : List String) : Site :=
  let (hub, shared) := rooms.foldl
    (fun (h, s) room => h.remove s room (t.shared.userOf connection) (· == connection)) (t.hub, t.shared)
  { hub, shared }

/-- What an operation may lead to: whoever disconnects leaves the rooms in any order. -/
inductive MayLead (t : Site) : Operation → Site → Prop
  | inOrder (op : Operation) : t.MayLead op (t.apply op)
  | anyOrder {connection : ConnectionId} {rooms : List String}
    (perm : rooms.Perm (t.hub.roomsOf (t.shared.userOf connection) connection)) :
    t.MayLead (.disconnect connection) (t.withdrawn connection rooms)

/-- What an operation may lead to with the bus up or down, once everything that waits there was taken in. -/
def MaySettle (t : Site) (e : Bool × Operation) (t' : Site) : Prop :=
  ∃ m, (t.switchBus e.1).MayLead e.2 m ∧ t' = m.pull

/-- If every socket keeps to its room, the order makes no difference. -/
theorem MayLead.eq_apply {t t' : Site} {home : ConnectionId → String} (hkeeps : t.hub.KeepsTo home) {op : Operation}
    (h : t.MayLead op t') : t' = t.apply op := by
  cases h with
  | inOrder => rfl
  | @anyOrder connection rooms hperm =>
    have hrooms := hkeeps.roomsOf (t.shared.userOf connection) connection
    rw [hrooms] at hperm
    rw [List.perm_replicate.mp hperm, ← hrooms]
    rfl

/-- Without real numbers an operation with the bus between leads to what it leads to without a bus. -/
theorem settle_rewired {t : Site} {home : ConnectionId → String} (hhome : ∀ connection, home connection ≠ "")
    (hunwired : t.hub.wiring = {}) (hkeeps : t.hub.KeepsTo home) {wiring : Wiring} {bus : Bus.MemoryBus}
    (h : (t.rewired wiring bus).Drained) (isUp : Bool) {op : Operation} (hop : op.IsAtHome home)
    (hwhole : op.IsWhole) :
    (t.apply op).hub.wiring = {} ∧ (t.apply op).hub.KeepsTo home ∧
      ∃ bus', (t.rewired wiring bus).settle isUp op = (t.apply op).rewired wiring bus' ∧
        ((t.apply op).rewired wiring bus').Drained := by
  obtain ⟨next, o, hspeaks⟩ := apply_speaks hhome hkeeps hop
  have happly : t.apply op = (next.rewired {} t.shared.bus).carry o := by
    rw [← hspeaks.applied {} t.shared.bus, ← hunwired]
    rfl
  have hecho : ∀ b ∈ o.bulletins, ∀ s : Shared, Hub.receive { next.hub with wiring } s b.message =
      s.tell (b.echo Signal.decode Signal.text) := fun b hb => (hspeaks.heard b hb).2
  obtain ⟨bus', told, htold, hdrained, hpull⟩ := Wiring.Drained.pull_carry
    (s := { next.shared with bus := ((t.rewired wiring bus).switchBus isUp).shared.bus })
    (Wiring.Drained.withMode h (by cases isUp <;> simp)) hspeaks.few
    (fun b hb => (hspeaks.heard b hb).1) hecho
  have hsame : told = o.bulletins := by
    rcases htold with htold | htold
    · exact htold
    · exact htold.trans ((List.map_congr_left (hspeaks.whole hwhole)).trans (List.map_id _))
  have hlocal : t.apply op = Site.mk { next.hub with wiring := {} }
      { next.shared.postAll o.frames with bus := t.shared.bus } := by
    rw [happly, carry, show (next.rewired {} t.shared.bus).hub.wiring.isLive = false from rfl, Shared.carry_unwired]
    exact congrArg (Site.mk _) (next.shared.postAll_bus t.shared.bus o.frames)
  have hsettle : (t.rewired wiring bus).settle isUp op = (t.apply op).rewired wiring bus' := by
    have hwired : ((t.rewired wiring bus).switchBus isUp).apply op =
        (next.rewired wiring ((t.rewired wiring bus).switchBus isUp).shared.bus).carry o := hspeaks.applied wiring _
    rw [settle, hwired, hlocal]
    exact congrArg (Site.mk { next.hub with wiring }) (hpull.trans (by rw [hsame, Shared.postAll_bus]))
  refine ⟨by rw [happly]; rfl, ?_, bus', hsettle, hdrained⟩
  rw [happly]
  exact hspeaks.keeps

/-- A run without a bus leads to what it leads to in order. -/
theorem runs_in_order {t t' : Site} {home : ConnectionId → String} (hhome : ∀ connection, home connection ≠ "")
    (hkeeps : t.hub.KeepsTo home) {ops : List Operation} (hops : ∀ op ∈ ops, op.IsAtHome home)
    (h : Runs MayLead t ops t') : t' = t.applyAll ops := by
  induction h with
  | nil => rfl
  | @cons t m t' op ops hfirst _ ih =>
    obtain ⟨hop, hrest⟩ := List.forall_mem_cons.mp hops
    obtain rfl := hfirst.eq_apply hkeeps
    obtain ⟨next, o, hspeaks⟩ := apply_speaks hhome hkeeps hop
    have happly : t.apply op = (next.rewired t.hub.wiring t.shared.bus).carry o :=
      hspeaks.applied t.hub.wiring t.shared.bus
    refine ih ?_ hrest
    rw [happly]
    exact hspeaks.keeps

/-- Without real numbers a run with the bus between leads to what it leads to without a bus. -/
theorem runs_rewired {t t' : Site} {home : ConnectionId → String} (hhome : ∀ connection, home connection ≠ "")
    (hunwired : t.hub.wiring = {}) (hkeeps : t.hub.KeepsTo home) {wiring : Wiring} {bus : Bus.MemoryBus}
    (h : (t.rewired wiring bus).Drained) {course : List (Bool × Operation)}
    (hcourse : ∀ e ∈ course, e.2.IsAtHome home ∧ e.2.IsWhole)
    (hruns : Runs MaySettle (t.rewired wiring bus) course t') :
    ∃ bus', t' = (t.applyAll (course.map (·.2))).rewired wiring bus' := by
  induction course generalizing t bus with
  | nil =>
    cases hruns
    exact ⟨bus, rfl⟩
  | cons e course ih =>
    obtain ⟨hop, hwhole⟩ := hcourse e List.mem_cons_self
    cases hruns with
    | cons hfirst hrest =>
      obtain ⟨m, hlead, rfl⟩ := hfirst
      obtain rfl := hlead.eq_apply (t := (t.rewired wiring bus).switchBus e.1) hkeeps
      obtain ⟨hunwired', hkeeps', bus', hsame, hdrained⟩ := settle_rewired hhome hunwired hkeeps h e.1 hop hwhole
      rw [settle] at hsame
      rw [hsame] at hrest
      exact ih hunwired' hkeeps' hdrained (fun e' he' => hcourse e' (List.mem_cons_of_mem e he')) hrest

/-- Subscribes to the rooms. -/
def wire (t : Site) : Site :=
  let (hub, shared, _) := t.hub.wire t.shared
  { hub, shared }

/-- A hub that is wired on a prompt bus is drained. -/
theorem wire_drained {t : Site} (hunwired : t.hub.wiring = {}) (hprompt : t.shared.bus.IsPrompt)
    (hroom : 1 ≤ t.shared.bus.capacity) :
    ∃ wiring bus, t.wire = t.rewired wiring bus ∧ (t.rewired wiring bus).Drained := by
  obtain ⟨wiring, hconnect, hattends⟩ := Wiring.connect_attends t.shared hprompt (Channel.allUnder Channel.callStem)
  refine ⟨wiring, _, ?_, .inr ⟨_, hattends, hprompt, hroom⟩⟩
  simp only [wire, Hub.wire, hunwired, hconnect]
  rfl

end Site

end Parlor.Signaling
