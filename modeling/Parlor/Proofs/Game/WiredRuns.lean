import Parlor.Proofs.Game.Operations

/-!
# A hub on the bus

A hub that is wired takes in what waits on the bus after each operation. Then everything that the operation
had to say has been told to the seated players, or its echo, whether the bus was up or down. Where no real
number was sent the echo is the word itself, and so the bus makes no difference at all.
-/

namespace Parlor.Game

/-! ## Operations with a bus between them and the players -/

namespace Site

/-- Turns the bus on or off. -/
def switchBus (t : Site) (isUp : Bool) : Site :=
  { t with shared := { t.shared with bus := { t.shared.bus with mode := if isUp then .up else .down } } }

/-- What an operation leads to with the bus up or down, once everything that waits there was taken in. -/
def settle (t : Site) (isUp : Bool) (op : Operation) : Site := ((t.switchBus isUp).apply op).meet .pull

/-- What several operations lead to, each with the bus up or down. -/
def settleAll (t : Site) (course : List (Bool × Operation)) : Site := course.foldl (fun t e => t.settle e.1 e.2) t

/-- What several operations lead to without a bus. -/
def applyAll (t : Site) (ops : List Operation) : Site := ops.foldl apply t

/-- A hub that is not wired, or that has read everything on a bus with room for two messages. -/
def Drained (t : Site) : Prop := t.hub.wiring.Drained t.shared.bus (Channel.allUnder Channel.gameStem) 2

/-- The bus of a drained hub may be turned on or off. -/
theorem Drained.switchBus {t : Site} (h : t.Drained) (isUp : Bool) : (t.switchBus isUp).Drained :=
  h.withMode (by cases isUp <;> simp)

/-- At most two bulletins are spread, and they are meant for the seats as they are afterwards. -/
theorem Reaction.bulletins {t next : Site} {op : Operation} {o : Outbox} (h : t.Reaction op next o) :
    o.bulletins.length ≤ 2 ∧ ∀ b ∈ o.bulletins, ∃ room a, b = next.hub.bulletin room a := by
  cases h with
  | quiet | elsewhere | refused | broadcast => exact ⟨Nat.zero_le 2, by simp⟩
  | chatted => exact ⟨by simp, by simp⟩
  | @called _ _ id call _ _ w _ _ _ _ hseats =>
    refine ⟨?_, fun b hb => ?_⟩
    · cases call with
      | join | move | forfeit | cancel => simp [Call.announcements]
    · obtain ⟨a, ha, rfl⟩ := List.mem_map.mp hb
      have hsame : next.hub.seats = t.hub.seats := hseats fun hcancel => by simp [hcancel, Call.announcements] at ha
      exact ⟨id, a, by rw [Hub.bulletin, Hub.bulletin, hsame]⟩

/-- What comes of an operation once the bus was drained. -/
structure Settles (t : Site) (op : Operation) (next : Site) (o : Outbox) (told : List Bulletin) (t' : Site) : Prop where
  reaction : t.Reaction op next o
  queues : op.LeavesQueues → next.shared.connections = t.shared.connections
  applied : ∀ wiring bus, (t.rewired wiring bus).apply op = (next.rewired wiring bus).carry o
  echoes : told = o.bulletins ∨ told = o.bulletins.map (·.echo Action.decode Action.text)
  eq : ∃ bus, t' = { next with shared := next.shared.postAll (Outbox.frames { o with bulletins := told }) }.rewired
    t.hub.wiring bus
  drained : t'.Drained

/-- An operation at a drained hub settles. -/
theorem Drained.settles {t : Site} (h : t.Drained) (isUp : Bool) {op : Operation} (hop : op.KeepsWiring) :
    ∃ next o told, t.Settles op next o told (t.settle isUp op) := by
  obtain ⟨next, o, hreaction, hqueues, happlied⟩ := t.apply_reacts hop
  obtain ⟨hfew, hbulletins⟩ := hreaction.bulletins
  have hmatch : ∀ b ∈ o.bulletins, Channel.isMatch (Channel.allUnder Channel.gameStem) b.channel = true := by
    intro b hb
    obtain ⟨room, a, rfl⟩ := hbulletins b hb
    exact next.hub.isMatch_bulletin room a
  have hecho : ∀ b ∈ o.bulletins, ∀ s : Shared, Hub.receive { next.hub with wiring := t.hub.wiring } s b.message =
      s.tell (b.echo Action.decode Action.text) := by
    intro b hb s
    obtain ⟨room, a, rfl⟩ := hbulletins b hb
    exact Hub.receive_bulletin { next.hub with wiring := t.hub.wiring } s room a
  obtain ⟨bus, told, htold, hdrained, hpull⟩ := Wiring.Drained.pull_carry
    (s := { next.shared with bus := (t.switchBus isUp).shared.bus }) (h.switchBus isUp) hfew hmatch hecho
  have happly : (t.switchBus isUp).apply op = (next.rewired t.hub.wiring (t.switchBus isUp).shared.bus).carry o :=
    happlied t.hub.wiring (t.switchBus isUp).shared.bus
  have hsettle : t.settle isUp op =
      { next with shared := next.shared.postAll (Outbox.frames { o with bulletins := told }) }.rewired
        t.hub.wiring bus := by
    rw [settle, happly]
    exact congrArg (Site.mk { next.hub with wiring := t.hub.wiring }) (hpull.trans (by rw [Shared.postAll_bus]))
  exact ⟨next, o, told, hreaction, hqueues, happlied, htold, ⟨bus, hsettle⟩, hsettle ▸ hdrained⟩

end Site

/-! ## Without real numbers -/

/-- An operation by which no real number is sent. -/
def Operation.IsWhole : Operation → Prop
  | .happening (.frame _ _ bytes) => ∀ sent, Action.decode bytes = .ok sent → sent.payload.isWhole = true
  | _ => True

namespace Site

/-- Without real numbers every bulletin comes back as it is. -/
theorem Reaction.echo_eq {t next : Site} {op : Operation} {o : Outbox} (h : t.Reaction op next o)
    (hwhole : op.IsWhole) : o.bulletins.map (·.echo Action.decode Action.text) = o.bulletins := by
  cases h with
  | quiet | elsewhere | refused | broadcast => rfl
  | chatted hdecode =>
    have hcanonical := Action.isCanonical_of_decode hdecode (hwhole _ hdecode)
    exact congrArg ([·]) (t.hub.echo_bulletin _ ⟨hcanonical.kind, hcanonical.payload⟩)
  | @called _ _ id call _ _ w => exact t.hub.map_echo_announcements id w.room call

/-- Without real numbers an operation with the bus between leads to what it leads to without a bus. -/
theorem settle_rewired {t : Site} (hunwired : t.hub.wiring = {}) {wiring : Wiring} {bus : Bus.MemoryBus}
    (h : (t.rewired wiring bus).Drained) (isUp : Bool) {op : Operation} (hop : op.KeepsWiring) (hwhole : op.IsWhole) :
    (t.apply op).hub.wiring = {} ∧
      ∃ bus', (t.rewired wiring bus).settle isUp op = (t.apply op).rewired wiring bus' ∧
        ((t.apply op).rewired wiring bus').Drained := by
  obtain ⟨next, o, told, hsettles⟩ := h.settles isUp hop
  have htold : told = o.bulletins := by
    rcases hsettles.echoes with htold | htold
    · exact htold
    · exact htold.trans (hsettles.reaction.echo_eq hwhole)
  have hself : (t.rewired wiring bus).rewired {} t.shared.bus = t := by
    rw [← hunwired]
    rfl
  have happly : t.apply op = (next.rewired {} t.shared.bus).carry o :=
    (congrArg (fun t : Site => t.apply op) hself).symm.trans (hsettles.applied {} t.shared.bus)
  obtain ⟨bus', heq⟩ := hsettles.eq
  have hsame : (t.rewired wiring bus).settle isUp op = (t.apply op).rewired wiring bus' := by
    rw [heq, happly, htold, carry, show (next.rewired {} t.shared.bus).hub.wiring.isLive = false from rfl,
      Shared.carry_unwired]
    have hposts := congrArg (fun s : Shared => Site.mk { next.hub with wiring } { s with bus := bus' })
      (next.shared.postAll_bus t.shared.bus o.frames)
    exact hposts.symm
  exact ⟨by rw [happly]; rfl, bus', hsame, hsame ▸ hsettles.drained⟩

end Site

/-! ## Shutdowns in any order -/

/-- Every connection has seats in one room at most. -/
def Hub.OneRoomEach (h : Hub) : Prop :=
  ∀ seat ∈ h.seats.entries, ∀ other ∈ h.seats.entries, seat.2.2 = other.2.2 → seat.1 = other.1

instance (h : Hub) : Decidable h.OneRoomEach :=
  inferInstanceAs (Decidable (∀ seat ∈ h.seats.entries, ∀ other ∈ h.seats.entries,
    seat.2.2 = other.2.2 → seat.1 = other.1))

namespace Site

/-- What an operation may lead to: a shutdown takes leave of the seats in any order. -/
inductive MayLead (t : Site) : Operation → Site → Prop
  | inOrder (op : Operation) : t.MayLead op (t.apply op)
  | anyOrder {drained : List (RoomId × UserId × ConnectionId)} (perm : drained.Perm t.hub.seats.entries) :
    t.MayLead (.happening .shutdown)
      { hub := (t.meet .shutdown).hub
        shared := t.shared.dismiss
          (drained.map fun (room, _, connection) => (connection, (Action.shutdown room).text)) }

/-- What an operation may lead to with the bus up or down, once everything that waits there was taken in. -/
def MaySettle (t : Site) (e : Bool × Operation) (t' : Site) : Prop :=
  ∃ m, (t.switchBus e.1).MayLead e.2 m ∧ t' = m.meet .pull

/--
At a shutdown it is clear which farewell each connection gets. A connection with seats in several rooms would get
that of the room that comes first, and the rooms come in any order.
-/
def ClearFarewells (t : Site) : List Operation → Prop
  | [] => True
  | op :: ops => (op = .happening .shutdown → t.hub.OneRoomEach) ∧ (t.apply op).ClearFarewells ops

/-- If every connection has seats in one room at most, the order makes no difference. -/
theorem MayLead.eq_apply {t t' : Site} {op : Operation} (h : t.MayLead op t')
    (hclear : op = .happening .shutdown → t.hub.OneRoomEach) : t' = t.apply op := by
  cases h with
  | inOrder => rfl
  | anyOrder hperm =>
    refine congrArg (Site.mk (t.meet .shutdown).hub) (Shared.dismiss_perm (hperm.map _) (fun f hf g hg hsame => ?_) _)
    obtain ⟨seat, hseat, rfl⟩ := List.mem_map.mp hf
    obtain ⟨other, hother, rfl⟩ := List.mem_map.mp hg
    have hroom := hclear rfl seat (hperm.subset hseat) other (hperm.subset hother) hsame
    exact Prod.ext hsame (congrArg (fun room => (Action.shutdown room).text) hroom)

/-- A run without a bus leads to what it leads to in order. -/
theorem runs_in_order {t t' : Site} {ops : List Operation} (h : Runs MayLead t ops t') (hclear : t.ClearFarewells ops) :
    t' = t.applyAll ops := by
  induction h with
  | nil => rfl
  | cons hfirst _ ih =>
    obtain rfl := hfirst.eq_apply hclear.1
    exact ih hclear.2

/-- Without real numbers a run with the bus between leads to what it leads to without a bus. -/
theorem runs_rewired {t t' : Site} (hunwired : t.hub.wiring = {}) {wiring : Wiring} {bus : Bus.MemoryBus}
    (h : (t.rewired wiring bus).Drained) {course : List (Bool × Operation)}
    (hcourse : ∀ e ∈ course, e.2.KeepsWiring ∧ e.2.IsWhole) (hclear : t.ClearFarewells (course.map (·.2)))
    (hruns : Runs MaySettle (t.rewired wiring bus) course t') :
    ∃ bus', t' = (t.applyAll (course.map (·.2))).rewired wiring bus' := by
  induction course generalizing t bus with
  | nil =>
    cases hruns
    exact ⟨bus, rfl⟩
  | cons e course ih =>
    obtain ⟨hop, hwhole⟩ := hcourse e List.mem_cons_self
    cases hruns with
    | cons hfirst hrest =>
      obtain ⟨m, hlead, rfl⟩ := hfirst
      obtain rfl := hlead.eq_apply hclear.1
      obtain ⟨hunwired', bus', hsame, hdrained⟩ := settle_rewired hunwired h e.1 hop hwhole
      rw [settle] at hsame
      rw [hsame] at hrest
      exact ih hunwired' hdrained (fun e' he' => hcourse e' (List.mem_cons_of_mem e he')) hclear.2 hrest

/-- A hub that is wired on a prompt bus is drained. -/
theorem wire_drained {t : Site} (hunwired : t.hub.wiring = {}) (hprompt : t.shared.bus.IsPrompt)
    (hroom : 2 ≤ t.shared.bus.capacity) :
    ∃ wiring bus, t.meet .wire = t.rewired wiring bus ∧ (t.rewired wiring bus).Drained := by
  obtain ⟨wiring, hconnect, hattends⟩ := Wiring.connect_attends t.shared hprompt (Channel.allUnder Channel.gameStem)
  refine ⟨wiring, _, ?_, .inr ⟨_, hattends, hprompt, hroom⟩⟩
  simp only [meet, Hub.wire, hunwired, hconnect]
  rfl

end Site

end Parlor.Game
