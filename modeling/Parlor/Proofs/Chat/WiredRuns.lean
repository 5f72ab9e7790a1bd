import Parlor.Proofs.Chat.Operations

/-!
# A chat hub on the bus

A hub that is wired takes in what waits for its two subscriptions after each operation. A bulletin waits for
both of them, and is told by one. As long as no real number is sent, every connection then gets what it would
get without a bus.
-/

namespace Parlor.Chat

open Json

/-! ## Two subscriptions -/

/-- Two wirings listen to their lines by two subscriptions, in which nothing waits. -/
structure Line.Attend (wiring : Line → Wiring) (bus : Bus.MemoryBus) (id : Line → Bus.SubscriptionId) : Prop where
  listens : ∀ line, (wiring line).Attends bus line.pattern (id line)
  distinct : id .conversations ≠ id .notices

/-- Two wirings that are not there, or that have read everything on a bus with room for a message. -/
def Line.Drained (wiring : Line → Wiring) (bus : Bus.MemoryBus) : Prop :=
  (∀ line, wiring line = {}) ∨ ∃ id, Line.Attend wiring bus id ∧ bus.IsPrompt ∧ 1 ≤ bus.capacity

/-- The bus may be turned on or off. -/
theorem Line.Drained.withMode {wiring : Line → Wiring} {bus : Bus.MemoryBus} (h : Line.Drained wiring bus)
    {mode : Bus.Mode} (hmode : mode = .up ∨ mode = .down) : Line.Drained wiring { bus with mode } := by
  rcases h with hunwired | ⟨id, hattend, -, hroom⟩
  · exact .inl hunwired
  · refine .inr ⟨id, ⟨fun line => ?_, hattend.distinct⟩, hmode, hroom⟩
    exact ⟨(hattend.listens line).live, (hattend.listens line).single, (hattend.listens line).drained⟩

namespace Hub

/-- Bulletins of one line that wait for both subscriptions are told once. -/
theorem pull_bulletins {h : Hub} {id : Line → Bus.SubscriptionId}
    (hsingle : ∀ line, (h.wiring line).subscriptions = [id line]) (hdistinct : id .conversations ≠ id .notices)
    {s : Shared} {line : Line} {bulletins : List Bulletin} (hheard : ∀ b ∈ bulletins, h.Hears line b)
    (hwaits : ∀ line : Line, s.bus.Waits (id line) line.pattern (bulletins.map (·.message))) :
    ∃ bus, (∀ line : Line, bus.Waits (id line) line.pattern []) ∧ bus.mode = s.bus.mode ∧
      bus.capacity = s.bus.capacity ∧ h.pull s = { bulletins.foldl Shared.tell s with bus } := by
  have hpull (other : Line) {s : Shared} (hwaits : s.bus.Waits (id other) other.pattern (bulletins.map (·.message))) :
      (h.wiring other).pull (h.receive other) s =
        { (if other = line then bulletins else []).foldl Shared.tell s with
          bus := s.bus.emptied (id other) other.pattern } := by
    by_cases hline : other = line
    · subst hline
      rw [if_pos rfl, Wiring.pull_heard (hsingle other) hwaits
        (fun b hb => ((hheard b hb).isMatch other).trans (decide_eq_true rfl)) fun b hb => (hheard b hb).told,
        List.map_id']
    · rw [if_neg hline, List.foldl_nil]
      refine Wiring.pull_foreign (hsingle other) hwaits (fun m hm => ?_) _
      obtain ⟨b, hb, rfl⟩ := List.mem_map.mp hm
      exact ((hheard b hb).isMatch other).trans (decide_eq_false hline)
  -- the conversations are pulled first, and that is nothing to the notices
  refine ⟨(s.bus.emptied (id .conversations) Line.conversations.pattern).emptied (id .notices) Line.notices.pattern,
    fun other => ?_, rfl, rfl, ?_⟩
  · cases other with
    | conversations => exact (Bus.MemoryBus.waits_emptied _ _ _).emptied_other hdistinct.symm _
    | notices => exact Bus.MemoryBus.waits_emptied _ _ _
  · change (h.wiring .notices).pull (h.receive .notices)
      ((h.wiring .conversations).pull (h.receive .conversations) s) = _
    rw [hpull .conversations (hwaits .conversations), hpull .notices ((hwaits .notices).emptied_other hdistinct _),
      Shared.foldl_tell_with_bus]
    cases line <;> rfl

/-- Once both subscriptions were read, everything in an outbox has been told. -/
theorem pull_carry {h : Hub} {s : Shared} (hdrained : Line.Drained h.wiring s.bus) {line : Line} {o : Outbox}
    (hfew : o.bulletins.length ≤ 1) (hheard : ∀ b ∈ o.bulletins, h.Hears line b) :
    ∃ bus, Line.Drained h.wiring bus ∧ h.pull (s.carry (h.wiring line).isLive o) = { s.postAll o.frames with bus } := by
  rcases hdrained with hunwired | ⟨id, hattend, hprompt, hroom⟩
  · refine ⟨s.bus, .inl hunwired, ?_⟩
    have hpull (s : Shared) : h.pull s = s := by
      have hconversations : h.conversationWiring = {} := hunwired .conversations
      have hnotices : h.notificationWiring = {} := hunwired .notices
      rw [pull, hconversations, hnotices]
      rfl
    rw [hpull, hunwired line, show Wiring.isLive {} = false from rfl, Shared.carry_unwired, Shared.postAll_eq]
  · have hsingle (line : Line) := (hattend.listens line).single
    have hbus : (s.postAll o.posts).bus = s.bus := by rw [Shared.postAll_eq]
    have htold : o.bulletins.foldl Shared.tell (s.postAll o.posts) = s.postAll o.frames := by
      rw [Shared.foldl_tell, Outbox.frames, Shared.postAll_append]
    have hafter {bus : Bus.MemoryBus} (hwaits : ∀ line : Line, bus.Waits (id line) line.pattern [])
        (hmode : bus.mode = s.bus.mode) (hcapacity : bus.capacity = s.bus.capacity) : Line.Drained h.wiring bus := by
      refine .inr ⟨id, ⟨fun line => ⟨(hattend.listens line).live, hsingle line, hwaits line⟩, hattend.distinct⟩, ?_,
        hcapacity ▸ hroom⟩
      rw [Bus.MemoryBus.IsPrompt, hmode]
      exact hprompt
    rw [Shared.carry, (hattend.listens line).live]
    rcases hprompt with hup | hdown
    · -- everything goes over the bus
      rw [Shared.foldl_spread_up (hbus ▸ hup)]
      obtain ⟨hcapacity, hmode⟩ := s.bus.foldl_deliver_frame (o.bulletins.map (·.message))
      obtain ⟨bus, hwaits, hmode', hcapacity', hpull⟩ := pull_bulletins hsingle hattend.distinct
        (s := { s.postAll o.posts with
          bus := (o.bulletins.map (·.message)).foldl (·.deliver ·) (s.postAll o.posts).bus }) hheard fun line => by
        have hfits : 0 + (o.bulletins.map (·.message)).length ≤ s.bus.capacity := by
          simpa using Nat.le_trans hfew hroom
        have hwaits := (hattend.listens line).drained.foldl_deliver hfits
        rw [List.nil_append] at hwaits
        exact hbus ▸ hwaits
      refine ⟨bus, hafter hwaits (hmode'.trans ?_) (hcapacity'.trans ?_), hpull.trans ?_⟩
      · rw [hbus]
        exact hmode
      · rw [hbus]
        exact hcapacity
      · rw [Shared.foldl_tell_with_bus, htold]
    · -- everything is told directly, and nothing waits on the bus
      rw [Shared.foldl_spread_down (hbus ▸ hdown), htold]
      have hbus' : (s.postAll o.frames).bus = s.bus := by rw [Shared.postAll_eq]
      obtain ⟨bus, hwaits, hmode, hcapacity, hpull⟩ := pull_bulletins hsingle hattend.distinct
        (s := s.postAll o.frames) (show ∀ b ∈ [], h.Hears line b by simp) fun line =>
          hbus'.symm ▸ (hattend.listens line).drained
      exact ⟨bus, hafter hwaits (hbus' ▸ hmode) (hbus' ▸ hcapacity), hpull⟩

/-- Leaving all conversations has nothing to do with the wirings. -/
theorem leaveAll_rewired (h : Hub) (cw nw : Wiring) (user : UserId) :
    leaveAll { h with conversationWiring := cw, notificationWiring := nw } user =
      { h.leaveAll user with conversationWiring := cw, notificationWiring := nw } := by
  have hleave (conversations : List ConversationId) (h : Hub) :
      conversations.foldl (fun h conversation => h.leave user conversation)
          { h with conversationWiring := cw, notificationWiring := nw } =
        { conversations.foldl (fun h conversation => h.leave user conversation) h with
          conversationWiring := cw, notificationWiring := nw } := by
    induction conversations generalizing h with
    | nil => rfl
    | cons conversation rest ih => exact ih (h.leave user conversation)
  exact hleave (h.memberships.members user) h

/-- Taking a connection out has nothing to do with the wirings. -/
theorem unregister_rewired (h : Hub) (cw nw : Wiring) (user : UserId) (connection : ConnectionId) :
    unregister { h with conversationWiring := cw, notificationWiring := nw } user connection =
      { h.unregister user connection with conversationWiring := cw, notificationWiring := nw } := by
  unfold unregister
  dsimp only
  split
  · rfl
  · rename_i sockets _
    have hleave := leaveAll_rewired { h with sockets } cw nw user
    have honline : isOnline { h with sockets, conversationWiring := cw, notificationWiring := nw } user =
        isOnline { h with sockets } user := rfl
    rw [honline]
    split
    · rfl
    · exact hleave

end Hub

/-! ## What an operation has to say -/

namespace Operation

/-- An operation by which no real number is sent, and nothing that is nested deeper than a frame may be. -/
def IsPlain : Operation → Prop
  | .publish _ message => message.payload.IsPlain Envelope.payloadDepth
  | .notify _ event | .proclaim event => event.IsCanonical
  | .frame _ bytes => ∀ sent, Message.decode bytes = .ok sent → sent.payload.isWhole = true
  | _ => True

end Operation

namespace Site

/-- What an operation has to say on a line can be heard by the hub afterwards. -/
structure Speaks (t : Site) (op : Operation) (next : Site) (line : Line) (o : Outbox) : Prop where
  applied : ∀ conversationWiring notificationWiring bus,
    (t.rewired conversationWiring notificationWiring bus).apply op =
      (next.rewired conversationWiring notificationWiring bus).carry line o
  few : o.bulletins.length ≤ 1
  heard : ∀ b ∈ o.bulletins, next.hub.Hears line b

/-- Every operation with a plain payload speaks. -/
theorem apply_speaks (t : Site) {op : Operation} (hop : op.IsPlain) : ∃ next line o, t.Speaks op next line o := by
  have hsilent (h : ∀ cw nw bus, (t.rewired cw nw bus).apply op = (t.apply op).rewired cw nw bus) :
      ∃ next line o, t.Speaks op next line o :=
    ⟨t.apply op, .conversations, {}, h, Nat.zero_le 1, by simp⟩
  cases op with
  | publish conversation m =>
    refine ⟨t, .conversations, { bulletins := [t.hub.bulletin conversation m] }, fun cw nw bus => ?_, Nat.le_refl 1,
      fun b hb => List.mem_singleton.mp hb ▸ t.hub.hears_bulletin conversation hop⟩
    simp only [apply, Hub.publishToConversation_eq]
    rfl
  | notify user e =>
    refine ⟨t, .notices, { bulletins := [t.hub.notice user e] }, fun cw nw bus => ?_, Nat.le_refl 1,
      fun b hb => List.mem_singleton.mp hb ▸ t.hub.hears_notice user hop⟩
    simp only [apply, Hub.publishToUser_eq]
    rfl
  | proclaim e =>
    refine ⟨t, .notices, { bulletins := [t.hub.proclamation e] }, fun cw nw bus => ?_, Nat.le_refl 1,
      fun b hb => List.mem_singleton.mp hb ▸ t.hub.hears_proclamation hop⟩
    simp only [apply, Hub.publishToAll_eq]
    rfl
  | frame connection bytes =>
    obtain ⟨hub, o, hreaction, happlied⟩ := t.frame_reacts connection bytes
    refine ⟨{ t with hub }, .conversations, o, happlied, ?_, fun b hb => ?_⟩
    · cases hreaction <;> simp
    · cases hreaction with
      | ignored | joined | left | refused => exact absurd hb (by simp)
      | typed hdecode =>
        rw [List.mem_singleton.mp hb]
        exact t.hub.hears_bulletin _ ((Message.decode_within hdecode).2.isPlain (hop _ hdecode))
  | register user connection => exact hsilent fun _ _ _ => rfl
  | unregister user connection =>
    exact hsilent fun cw nw bus => congrArg (Site.mk · _) (t.hub.unregister_rewired cw nw _ _)
  | join user conversation => exact hsilent fun _ _ _ => rfl
  | leave user conversation => exact hsilent fun _ _ _ => rfl
  | connect user capacity => exact hsilent fun _ _ _ => rfl
  | connection id change => exact hsilent fun _ _ _ => rfl

/-! ## Runs -/

/-- Turns the bus on or off. -/
def switchBus (t : Site) (isUp : Bool) : Site :=
  { t with shared := { t.shared with bus := { t.shared.bus with mode := if isUp then .up else .down } } }

/-- Takes in what waits on the bus. -/
def pull (t : Site) : Site := { t with shared := t.hub.pull t.shared }

/-- What an operation leads to with the bus up or down, once everything that waits there was taken in. -/
def settle (t : Site) (isUp : Bool) (op : Operation) : Site := ((t.switchBus isUp).apply op).pull

/-- What several operations lead to, each with the bus up or down. -/
def settleAll (t : Site) (course : List (Bool × Operation)) : Site := course.foldl (fun t e => t.settle e.1 e.2) t

/-- What several operations lead to without a bus. -/
def applyAll (t : Site) (ops : List Operation) : Site := ops.foldl apply t

/-- An operation with a plain payload and the bus between leads to what it leads to without a bus. -/
theorem settle_rewired {t : Site} (hunwired : ∀ line, t.hub.wiring line = {}) {cw nw : Wiring} {bus : Bus.MemoryBus}
    (h : Line.Drained (t.rewired cw nw bus).hub.wiring bus) (isUp : Bool) {op : Operation} (hop : op.IsPlain) :
    (∀ line, (t.apply op).hub.wiring line = {}) ∧
      ∃ bus', (t.rewired cw nw bus).settle isUp op = (t.apply op).rewired cw nw bus' ∧
        Line.Drained ((t.apply op).rewired cw nw bus').hub.wiring bus' := by
  obtain ⟨next, line, o, hspeaks⟩ := t.apply_speaks hop
  have hself : t.rewired {} {} t.shared.bus = t := by
    have hwirings : t.rewired t.hub.conversationWiring t.hub.notificationWiring t.shared.bus = t := rfl
    rwa [show t.hub.conversationWiring = {} from hunwired .conversations,
      show t.hub.notificationWiring = {} from hunwired .notices] at hwirings
  have hlocal : t.apply op = Site.mk { next.hub with conversationWiring := {}, notificationWiring := {} }
      { next.shared.postAll o.frames with bus := t.shared.bus } := by
    refine (congrArg (fun t : Site => t.apply op) hself).symm.trans ((hspeaks.applied {} {} t.shared.bus).trans ?_)
    have hquiet : ((next.rewired {} {} t.shared.bus).hub.wiring line).isLive = false := by cases line <;> rfl
    rw [carry, hquiet, Shared.carry_unwired]
    exact congrArg (Site.mk _) (next.shared.postAll_bus t.shared.bus o.frames)
  obtain ⟨bus', hdrained, hpull⟩ := Hub.pull_carry
    (h := { next.hub with conversationWiring := cw, notificationWiring := nw })
    (s := { next.shared with bus := ((t.rewired cw nw bus).switchBus isUp).shared.bus })
    (h.withMode (by cases isUp <;> simp)) hspeaks.few
    fun b hb => ⟨(hspeaks.heard b hb).isMatch, (hspeaks.heard b hb).told⟩
  have hsettle : (t.rewired cw nw bus).settle isUp op = (t.apply op).rewired cw nw bus' := by
    have hwired : ((t.rewired cw nw bus).switchBus isUp).apply op =
        (next.rewired cw nw ((t.rewired cw nw bus).switchBus isUp).shared.bus).carry line o := hspeaks.applied cw nw _
    rw [settle, hwired, hlocal]
    exact congrArg (Site.mk { next.hub with conversationWiring := cw, notificationWiring := nw })
      (hpull.trans (by rw [Shared.postAll_bus]))
  refine ⟨fun line => ?_, bus', hsettle, ?_⟩
  · rw [hlocal]
    cases line <;> rfl
  · rw [hlocal]
    exact hdrained

/-- A run with plain payloads and the bus between leads to what it leads to without a bus. -/
theorem settleAll_rewired {t : Site} (hunwired : ∀ line, t.hub.wiring line = {}) {cw nw : Wiring}
    {bus : Bus.MemoryBus} (h : Line.Drained (t.rewired cw nw bus).hub.wiring bus) {course : List (Bool × Operation)}
    (hcourse : ∀ e ∈ course, e.2.IsPlain) :
    ∃ bus', (t.rewired cw nw bus).settleAll course = (t.applyAll (course.map (·.2))).rewired cw nw bus' := by
  induction course generalizing t bus with
  | nil => exact ⟨bus, rfl⟩
  | cons e course ih =>
    obtain ⟨hunwired', bus', hsame, hdrained⟩ := settle_rewired hunwired h e.1 (hcourse e List.mem_cons_self)
    rw [settleAll, List.foldl_cons, hsame]
    exact ih hunwired' hdrained fun e' he' => hcourse e' (List.mem_cons_of_mem e he')

/-- Subscribes to the conversations and to the notices. -/
def wire (t : Site) : Site :=
  let (hub, shared, _) := t.hub.wire t.shared
  { hub, shared }

/-- A hub that is wired on a prompt bus is drained. -/
theorem wire_drained {t : Site} (hunwired : ∀ line, t.hub.wiring line = {}) (hprompt : t.shared.bus.IsPrompt)
    (hroom : 1 ≤ t.shared.bus.capacity) :
    ∃ cw nw bus, t.wire = t.rewired cw nw bus ∧ Line.Drained (t.rewired cw nw bus).hub.wiring bus := by
  obtain ⟨cw, hfirst, hconversations⟩ := Wiring.connect_attends t.shared hprompt Line.conversations.pattern
  obtain ⟨nw, hsecond, hnotices⟩ := Wiring.connect_attends
    { t.shared with bus := t.shared.bus.subscribed Line.conversations.pattern } hprompt Line.notices.pattern
  have hdistinct : t.shared.bus.nextId + 1 ≠ t.shared.bus.nextId := Nat.succ_ne_self _
  refine ⟨cw, nw, (t.shared.bus.subscribed Line.conversations.pattern).subscribed Line.notices.pattern, ?_,
    .inr ⟨fun line => line.casesOn t.shared.bus.nextId (t.shared.bus.nextId + 1), ⟨fun line => ?_, hdistinct.symm⟩,
      hprompt, hroom⟩⟩
  · have hfirst' : Wiring.connect t.hub.conversationWiring t.shared (Channel.allUnder Channel.conversationStem) = _ :=
      (congrArg (Wiring.connect · _ _) (hunwired .conversations)).trans hfirst
    have hsecond' : Wiring.connect t.hub.notificationWiring
        { t.shared with bus := t.shared.bus.subscribed Line.conversations.pattern }
        (Channel.allUnder Channel.notificationStem) = _ :=
      (congrArg (Wiring.connect · _ _) (hunwired .notices)).trans hsecond
    simp only [wire, Hub.wire, hfirst', hsecond']
    rfl
  · cases line with
    | conversations =>
      exact ⟨hconversations.live, hconversations.single, hconversations.drained.emptied_other hdistinct _⟩
    | notices => exact hnotices

end Site

end Parlor.Chat
