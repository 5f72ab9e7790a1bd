import Parlor.Proofs.Channels
import Parlor.Proofs.Registry
import Parlor.Shared
import Mathlib.Data.List.Basic

/-!
# Delivery

What sending does to the queues of connections, and how a bulletin reaches them: directly, or over the
bus and back. A hub that attends to the bus and takes in what waits there has, in the end, put the same
frames into the same queues in the same order as one that is not wired.
-/

namespace Parlor

/-! ## Queues -/

namespace Connection

/-- The number of frames that a connection takes before it is full or closed. -/
def free (c : Connection) : Nat := if c.isClosed then 0 else c.capacity - c.waiting.length

/-- Of several frames a connection takes those for which it is free. -/
theorem sendAll_waiting (c : Connection) (frames : List String) :
    (c.sendAll frames).1.waiting = c.waiting ++ frames.take c.free := by
  induction frames generalizing c with
  | nil => simp [sendAll]
  | cons frame rest ih =>
    rw [sendAll]
    dsimp only
    rw [ih]
    by_cases hclosed : c.isClosed
    · simp [send, free, hclosed]
    · by_cases hroom : c.waiting.length < c.capacity
      · have hopen : Connection.isClosed { c with waiting := c.waiting ++ [frame] } = c.isClosed := rfl
        have hfree : c.free = Connection.free { c with waiting := c.waiting ++ [frame] } + 1 := by
          simp only [free, hopen, hclosed, Bool.false_eq_true, if_false, List.length_append, List.length_singleton]
          omega
        simp [send, hclosed, hroom, hfree]
      · have hfull : c.capacity - c.waiting.length = 0 := by omega
        have hopen : Connection.isClosed { c with dropped := c.dropped + 1 } = c.isClosed := rfl
        simp [send, hclosed, hroom, free, hopen, hfull]

/-- Sending neither opens nor closes a connection, and counts the frames that found the queue full. -/
theorem sendAll_dropped (c : Connection) (frames : List String) :
    (c.sendAll frames).1.isClosed = c.isClosed ∧
      (c.sendAll frames).1.dropped = c.dropped + if c.isClosed then 0 else frames.length - c.free := by
  induction frames generalizing c with
  | nil => simp [sendAll]
  | cons frame rest ih =>
    rw [sendAll]
    dsimp only
    obtain ⟨hsame, hdropped⟩ := ih (c.send frame).1
    rw [hsame, hdropped]
    by_cases hclosed : c.isClosed
    · simp [send, hclosed]
    by_cases hroom : c.waiting.length < c.capacity
    · have hsend : c.send frame = ({ c with waiting := c.waiting ++ [frame] }, .queued) := by
        simp [send, hclosed, hroom]
      have hopen : Connection.isClosed { c with waiting := c.waiting ++ [frame] } = c.isClosed := rfl
      simp only [hsend, hopen, free, hclosed, Bool.false_eq_true, if_false, List.length_append, List.length_cons,
        List.length_nil, true_and]
      omega
    · have hsend : c.send frame = ({ c with dropped := c.dropped + 1 }, .dropped) := by simp [send, hclosed, hroom]
      have hopen : Connection.isClosed { c with dropped := c.dropped + 1 } = c.isClosed := rfl
      simp only [hsend, hopen, free, hclosed, Bool.false_eq_true, if_false, List.length_cons, true_and]
      omega

end Connection

namespace Shared

/-! ## Posts -/

/-- The connections after a frame was put into the queue of one of them. -/
def posted (connections : Table ConnectionId Connection) (id : ConnectionId) (frame : String) :
    Table ConnectionId Connection :=
  match connections.get? id with
  | none => connections
  | some c => connections.insert id (c.send frame).1

/-- Posting changes the connections and nothing else. -/
theorem post_eq (s : Shared) (id : ConnectionId) (frame : String) :
    s.post id frame = { s with connections := posted s.connections id frame } := by
  cases hget : s.connections.get? id <;> simp [post, send, posted, connection?, hget]

/-- Puts frames into queues one after the other. -/
def postAll (s : Shared) (posts : List (ConnectionId × String)) : Shared :=
  posts.foldl (fun s p => s.post p.1 p.2) s

@[simp] theorem postAll_nil (s : Shared) : s.postAll [] = s := rfl

/-- Posts are made in their order. -/
theorem postAll_append (s : Shared) (posts more : List (ConnectionId × String)) :
    s.postAll (posts ++ more) = (s.postAll posts).postAll more := List.foldl_append

/-- Posts change the connections and nothing else. -/
theorem postAll_eq (s : Shared) (posts : List (ConnectionId × String)) :
    s.postAll posts = { s with connections := posts.foldl (fun cs p => posted cs p.1 p.2) s.connections } := by
  induction posts generalizing s with
  | nil => rfl
  | cons p rest ih => exact (ih (s.post p.1 p.2)).trans (by rw [post_eq]; rfl)

/-- Posts are made whatever is on the bus. -/
theorem postAll_bus (s : Shared) (bus : Bus.MemoryBus) (posts : List (ConnectionId × String)) :
    { s with bus }.postAll posts = { s.postAll posts with bus } := by rw [postAll_eq, postAll_eq]

/-- Connections are dismissed whatever is on the bus. -/
theorem dismiss_bus (s : Shared) (bus : Bus.MemoryBus) (farewells : List (ConnectionId × String)) :
    { s with bus }.dismiss farewells = { s.dismiss farewells with bus } := by
  induction farewells generalizing s with
  | nil => rfl
  | cons farewell rest ih =>
    have hpost : { s with bus }.post farewell.1 farewell.2 = { s.post farewell.1 farewell.2 with bus } := by
      rw [post_eq, post_eq]
    have hone : ({ s with bus }.post farewell.1 farewell.2).close farewell.1 =
        { (s.post farewell.1 farewell.2).close farewell.1 with bus } := by
      rw [hpost]
      rfl
    change Shared.dismiss (({ s with bus }.post farewell.1 farewell.2).close farewell.1) rest = _
    rw [hone]
    exact ih _

/-- A post comes to the first entry of its connection. -/
theorem posted_cons (k : ConnectionId) (c : Connection) (rest : Table ConnectionId Connection) (id : ConnectionId)
    (frame : String) :
    posted ((k, c) :: rest) id frame =
      if k = id then (k, (c.send frame).1) :: rest else (k, c) :: posted rest id frame := by
  by_cases hk : k = id
  · simp [posted, Table.get?, Table.insert, hk]
  · cases hrest : rest.get? id <;> simp [posted, Table.get?, Table.insert, hk, hrest]

/-- What is done to one connection has nothing to do with what another one is sent. -/
theorem modify_posted {id other : ConnectionId} (h : id ≠ other) (change : Connection → Connection)
    (connections : Table ConnectionId Connection) (frame : String) :
    (posted connections other frame).modify id change = posted (connections.modify id change) other frame := by
  induction connections with
  | nil => rfl
  | cons entry rest ih =>
    obtain ⟨k, c⟩ := entry
    by_cases hother : k = other
    · simp [posted_cons, Table.modify, hother, h.symm]
    · by_cases hid : k = id <;> simp [posted_cons, Table.modify, hother, hid, h, ih]

/-- Posts to two connections change places. -/
theorem posted_comm {id other : ConnectionId} (h : id ≠ other) (connections : Table ConnectionId Connection)
    (frame again : String) :
    posted (posted connections id frame) other again = posted (posted connections other again) id frame := by
  induction connections with
  | nil => rfl
  | cons entry rest ih =>
    obtain ⟨k, c⟩ := entry
    by_cases hother : k = other
    · simp [posted_cons, hother, h.symm]
    · by_cases hid : k = id <;> simp [posted_cons, hother, hid, h, ih]

/-- Two connections are dismissed in any order. -/
theorem dismissal_comm {id other : ConnectionId} (h : id ≠ other) (s : Shared) (frame again : String) :
    (((s.post id frame).close id).post other again).close other =
      (((s.post other again).close other).post id frame).close id := by
  simp only [post_eq, close, modifyConnection]
  rw [← modify_posted h, ← modify_posted h.symm, posted_comm h, Table.modify_comm h]

/-- If there is one farewell for each connection, they are said in any order. -/
theorem dismiss_perm {farewells farewells' : List (ConnectionId × String)} (h : farewells.Perm farewells')
    (hone : ∀ f ∈ farewells, ∀ g ∈ farewells, f.1 = g.1 → f = g) (s : Shared) :
    s.dismiss farewells = s.dismiss farewells' := by
  refine h.foldl_eq' (fun f hf g hg s => ?_) s
  by_cases hsame : f.1 = g.1
  · rw [hone f hf g hg hsame]
  · exact dismissal_comm hsame s f.2 g.2

/-- A frame for several connections is posted to each of them. -/
theorem sendAll_eq (s : Shared) (frame : String) (ids : List ConnectionId) :
    (s.sendAll frame ids).1 = s.postAll (ids.map (·, frame)) := by
  induction ids generalizing s with
  | nil => rfl
  | cons id rest ih => exact ih (s.send id frame).1

/-- The frames of some posts that are meant for a connection. -/
def framesFor (id : ConnectionId) (posts : List (ConnectionId × String)) : List String :=
  (posts.filter (·.1 == id)).map (·.2)

/-- A post reaches one connection. -/
theorem connection?_post (s : Shared) (other : ConnectionId) (frame : String) (id : ConnectionId) :
    (s.post other frame).connection? id =
      if other = id then (s.connection? id).map fun c => (c.send frame).1 else s.connection? id := by
  rw [post_eq, connection?, posted]
  by_cases hid : other = id
  · subst hid
    rw [if_pos rfl, connection?]
    cases hget : s.connections.get? other with
    | none => exact hget
    | some c => exact (Table.get?_insert _ _ _ _).trans (if_pos rfl)
  · rw [if_neg hid, connection?]
    cases s.connections.get? other with
    | none => rfl
    | some c => exact (Table.get?_insert _ _ _ _).trans (if_neg hid)

/-- A connection gets the frames that are meant for it. -/
theorem connection?_postAll (s : Shared) (posts : List (ConnectionId × String)) (id : ConnectionId) :
    (s.postAll posts).connection? id = (s.connection? id).map fun c => (c.sendAll (framesFor id posts)).1 := by
  induction posts generalizing s with
  | nil => exact Option.map_id'.symm
  | cons p rest ih =>
    obtain ⟨other, frame⟩ := p
    change ((s.post other frame).postAll rest).connection? id = _
    rw [ih, connection?_post]
    by_cases hid : other = id
    · rw [if_pos hid, Option.map_map]
      congr 1
      funext c
      simp [framesFor, hid, Connection.sendAll]
    · rw [if_neg hid]
      simp [framesFor, hid]

/-- What has come into the queues since satisfies a condition. -/
def OnlyQueues (P : ConnectionId → String → Prop) (s s' : Shared) : Prop :=
  ∀ id c', s'.connection? id = some c' → ∃ c new, s.connection? id = some c ∧
    c'.waiting = c.waiting ++ new ∧ ∀ frame ∈ new, P id frame

/-- Nothing has come into the queues. -/
theorem OnlyQueues.of_eq {P : ConnectionId → String → Prop} {s s' : Shared} (h : s'.connections = s.connections) :
    OnlyQueues P s s' := by
  intro id c' hc'
  rw [connection?, h] at hc'
  exact ⟨c', [], hc', (List.append_nil _).symm, by simp⟩

/-- What has come into the queues since does not depend on anything but the queues. -/
theorem OnlyQueues.of_start {P : ConnectionId → String → Prop} {s₀ s s' : Shared} (h : OnlyQueues P s₀ s')
    (hstart : s₀.connections = s.connections) : OnlyQueues P s s' := by
  intro id c' hc'
  obtain ⟨c, new, hc, hnew⟩ := h id c' hc'
  exact ⟨c, new, (congrArg (Table.get? id) hstart).symm.trans hc, hnew⟩

/-- Posts of allowed frames bring nothing else into the queues. -/
theorem OnlyQueues.of_postAll {P : ConnectionId → String → Prop} {s s' : Shared}
    {posts : List (ConnectionId × String)} (hposts : ∀ p ∈ posts, P p.1 p.2)
    (h : s'.connections = (s.postAll posts).connections) : OnlyQueues P s s' := by
  intro id c' hc'
  have hpost : (s.postAll posts).connection? id = some c' := by rwa [connection?, ← h]
  rw [connection?_postAll] at hpost
  obtain ⟨c, hc, rfl⟩ := Option.map_eq_some_iff.mp hpost
  refine ⟨c, (framesFor id posts).take c.free, hc, c.sendAll_waiting _, fun frame hframe => ?_⟩
  obtain ⟨p, hp, rfl⟩ := List.mem_map.mp (List.mem_of_mem_take hframe)
  obtain ⟨hmem, hid⟩ := List.mem_filter.mp hp
  exact (beq_iff_eq.mp hid) ▸ hposts p hmem

end Shared

/-! ## Bulletins -/

/-- Something to be told on a channel, or directly to those who would hear it there. -/
structure Bulletin where
  channel : String
  payload : String
  recipients : List ConnectionId

namespace Bulletin

/-- A bulletin as it goes over the bus. -/
def message (b : Bulletin) : Bus.Message := ⟨b.channel, b.payload⟩

/-- The posts by which a bulletin is told directly. -/
def posts (b : Bulletin) : List (ConnectionId × String) := b.recipients.map (·, b.payload)

/-- A bulletin that has been decoded on its way, and is told in the words of the decoder if at all. -/
def echo {α : Type} (decode : Json.Bytes → Except Json.Fault α) (text : α → String) (b : Bulletin) : Bulletin :=
  match decode (Json.encodeUtf8 b.payload) with
  | .ok a => { b with payload := text a }
  | .error _ => { b with recipients := [] }

/-- A bulletin in the words of the decoder comes back as it is. -/
theorem echo_eq {α : Type} {decode : Json.Bytes → Except Json.Fault α} {text : α → String} {b : Bulletin} {a : α}
    (hdecode : decode (Json.encodeUtf8 b.payload) = .ok a) (htext : text a = b.payload) :
    b.echo decode text = b := by
  simp only [echo, hdecode, htext]

/-- What a bulletin comes back as goes to the same connections, in the words of the decoder. -/
theorem echo_posts {α : Type} {decode : Json.Bytes → Except Json.Fault α} {text : α → String} {b : Bulletin} :
    ∀ p ∈ (b.echo decode text).posts,
      p.1 ∈ b.recipients ∧ ∃ a, decode (Json.encodeUtf8 b.payload) = .ok a ∧ p.2 = text a := by
  intro p hp
  cases hdecode : decode (Json.encodeUtf8 b.payload) with
  | ok a =>
    simp only [echo, hdecode] at hp
    obtain ⟨id, hid, rfl⟩ := List.mem_map.mp hp
    exact ⟨hid, a, rfl, rfl⟩
  | error f => simp [echo, hdecode, posts] at hp

end Bulletin

namespace Shared

/-- Publishes a bulletin, or tells it directly if nobody would take it from the bus or the bus fails. -/
def spread (wired : Bool) (s : Shared) (b : Bulletin) : Shared :=
  match s.announce wired b.channel b.payload with
  | (s, true) => s
  | (s, false) => s.postAll b.posts

/-- Tells a bulletin directly. -/
def tell (s : Shared) (b : Bulletin) : Shared := s.postAll b.posts

/-- A bulletin goes on the bus, or is told directly after some time perhaps. -/
theorem spread_cases (wired : Bool) (s : Shared) (b : Bulletin) :
    s.spread wired b = { s with bus := s.bus.deliver b.message } ∨ ∃ now, s.spread wired b = { s with now }.tell b := by
  cases wired with
  | false => exact .inr ⟨s.now, rfl⟩
  | true =>
    cases hmode : s.bus.mode with
    | down => exact .inr ⟨s.now, by simp [spread, announce, publish, Bus.MemoryBus.publish, hmode, tell]⟩
    | stalled =>
      exact .inr ⟨s.now + s.patience, by simp [spread, announce, publish, Bus.MemoryBus.publish, hmode, tell]⟩
    | up | refusing | ending =>
      exact .inl (by simp [spread, announce, publish, Bus.MemoryBus.publish, hmode, Bulletin.message])

/-- On a bus that is up a bulletin is published. -/
theorem spread_up {s : Shared} (h : s.bus.mode = .up) (b : Bulletin) :
    s.spread true b = { s with bus := s.bus.deliver b.message } := by
  simp [spread, announce, publish, Bus.MemoryBus.publish, h, Bulletin.message]

/-- On a bus that is down a bulletin is told directly. -/
theorem spread_down {s : Shared} (h : s.bus.mode = .down) (b : Bulletin) : s.spread true b = s.tell b := by
  simp [spread, announce, publish, Bus.MemoryBus.publish, h, tell]

/-- Bulletins that are told directly leave the bus as it is. -/
theorem foldl_tell_bus (s : Shared) (bulletins : List Bulletin) : (bulletins.foldl tell s).bus = s.bus := by
  induction bulletins generalizing s with
  | nil => rfl
  | cons b rest ih => exact (ih (s.tell b)).trans (by rw [tell, postAll_eq])

/-- Bulletins are told directly whatever is on the bus. -/
theorem foldl_tell_with_bus (s : Shared) (bus : Bus.MemoryBus) (bulletins : List Bulletin) :
    bulletins.foldl tell { s with bus } = { bulletins.foldl tell s with bus } := by
  induction bulletins generalizing s with
  | nil => rfl
  | cons b rest ih =>
    rw [List.foldl_cons, List.foldl_cons, ← ih (s.tell b), tell, tell, postAll_bus]

/-- On a bus that is down bulletins are told directly. -/
theorem foldl_spread_down {s : Shared} (h : s.bus.mode = .down) (bulletins : List Bulletin) :
    bulletins.foldl (spread true) s = bulletins.foldl tell s := by
  induction bulletins generalizing s with
  | nil => rfl
  | cons b rest ih =>
    have hbus : (s.tell b).bus = s.bus := s.foldl_tell_bus [b]
    rw [List.foldl_cons, List.foldl_cons, spread_down h, ih (hbus ▸ h)]

/-- On a bus that is up bulletins are published one after the other. -/
theorem foldl_spread_up {s : Shared} (h : s.bus.mode = .up) (bulletins : List Bulletin) :
    bulletins.foldl (spread true) s = { s with bus := (bulletins.map (·.message)).foldl (·.deliver ·) s.bus } := by
  induction bulletins generalizing s with
  | nil => rfl
  | cons b rest ih =>
    rw [List.foldl_cons, spread_up h, ih (s := { s with bus := s.bus.deliver b.message }) h]
    rfl

end Shared

/-! ## Outboxes -/

/-- What an operation of a hub has to say: frames for some connections, and then bulletins. -/
structure Outbox where
  posts : List (ConnectionId × String) := []
  bulletins : List Bulletin := []

/-- The frames of an outbox when everything is told directly. -/
def Outbox.frames (o : Outbox) : List (ConnectionId × String) := o.posts ++ o.bulletins.flatMap (·.posts)

namespace Shared

/-- Makes the posts of an outbox and spreads its bulletins. -/
def carry (wired : Bool) (s : Shared) (o : Outbox) : Shared := o.bulletins.foldl (spread wired) (s.postAll o.posts)

@[simp] theorem carry_empty (wired : Bool) (s : Shared) : s.carry wired {} = s := rfl

/-- Bulletins are told by their posts. -/
theorem foldl_tell (s : Shared) (bulletins : List Bulletin) :
    bulletins.foldl tell s = s.postAll (bulletins.flatMap (·.posts)) := by
  induction bulletins generalizing s with
  | nil => rfl
  | cons b rest ih => rw [List.foldl_cons, ih, tell, List.flatMap_cons, postAll_append]

/-- Without a wiring an outbox is carried out by its frames. -/
theorem carry_unwired (s : Shared) (o : Outbox) : s.carry false o = s.postAll o.frames := by
  rw [Outbox.frames, postAll_append, ← foldl_tell]
  rfl

/-- Some bulletins of an outbox are told and others sent, and nothing else comes of it. -/
theorem carry_cases (wired : Bool) (s : Shared) (o : Outbox) :
    ∃ told sent : List Bulletin, told.Sublist o.bulletins ∧ sent.Sublist o.bulletins ∧
      (s.carry wired o).connections = (s.postAll (Outbox.frames { o with bulletins := told })).connections ∧
      (s.carry wired o).bus = (sent.map (·.message)).foldl (·.deliver ·) s.bus := by
  obtain ⟨posts, bulletins⟩ := o
  have hspread (s : Shared) : ∃ told sent : List Bulletin, told.Sublist bulletins ∧ sent.Sublist bulletins ∧
      (bulletins.foldl (spread wired) s).connections = (s.postAll (told.flatMap (·.posts))).connections ∧
      (bulletins.foldl (spread wired) s).bus = (sent.map (·.message)).foldl (·.deliver ·) s.bus := by
    induction bulletins generalizing s with
    | nil => exact ⟨[], [], .slnil, .slnil, rfl, rfl⟩
    | cons b rest ih =>
      obtain ⟨told, sent, htold, hsent, hconnections, hbus⟩ := ih (s.spread wired b)
      rw [List.foldl_cons, hconnections, hbus]
      rcases s.spread_cases wired b with hone | ⟨now, hone⟩
      · rw [hone]
        exact ⟨told, b :: sent, htold.cons b, hsent.cons_cons b, by rw [postAll_eq, postAll_eq], rfl⟩
      · rw [hone, tell]
        refine ⟨b :: told, sent, htold.cons_cons b, hsent.cons b, ?_, by rw [postAll_eq]⟩
        rw [List.flatMap_cons, postAll_append, postAll_eq, postAll_eq, postAll_eq, postAll_eq]
  obtain ⟨told, sent, htold, hsent, hconnections, hbus⟩ := hspread (s.postAll posts)
  refine ⟨told, sent, htold, hsent, ?_, ?_⟩
  · rw [Outbox.frames, postAll_append]
    exact hconnections
  · exact hbus.trans (by rw [postAll_eq])

/-- Carrying out an outbox leaves the storage alone. -/
theorem carry_storage (wired : Bool) (s : Shared) (o : Outbox) : (s.carry wired o).storage = s.storage := by
  have hspread (bulletins : List Bulletin) (s : Shared) : (bulletins.foldl (spread wired) s).storage = s.storage := by
    induction bulletins generalizing s with
    | nil => rfl
    | cons b rest ih =>
      rw [List.foldl_cons, ih]
      rcases s.spread_cases wired b with hone | ⟨now, hone⟩
      · rw [hone]
      · rw [hone, tell, postAll_eq]
  rw [carry, hspread, postAll_eq]

/-- What comes of an outbox is what its posts and bulletins bring, and bulletins that wait on the bus. -/
theorem carry_only {P : ConnectionId → String → Prop} (wired : Bool) (s : Shared) {o : Outbox}
    (hposts : ∀ p ∈ o.posts, P p.1 p.2) (hbulletins : ∀ b ∈ o.bulletins, ∀ p ∈ b.posts, P p.1 p.2) :
    OnlyQueues P s (s.carry wired o) ∧ ∃ sent : List Bulletin, sent.Sublist o.bulletins ∧
      (s.carry wired o).bus = (sent.map (·.message)).foldl (·.deliver ·) s.bus := by
  obtain ⟨told, sent, htold, hsent, hconnections, hbus⟩ := s.carry_cases wired o
  refine ⟨.of_postAll (fun p hp => ?_) hconnections, sent, hsent, hbus⟩
  rcases List.mem_append.mp hp with hp | hp
  · exact hposts p hp
  · obtain ⟨b, hb, hpost⟩ := List.mem_flatMap.mp hp
    exact hbulletins b (htold.subset hb) p hpost

end Shared

/-! ## What waits on the bus -/

namespace Bus.MemoryBus

/-- Messages wait in a subscription. -/
def Waits (bus : MemoryBus) (id : SubscriptionId) (pattern : String) (unread : List Message) : Prop :=
  bus.subscriptions.get? id = some { pattern, unread }

/-- A table whose values are changed holds the changed values. -/
theorem get?_map_values {ν : Type} (t : Table SubscriptionId ν) (f : ν → ν) (id : SubscriptionId) :
    Table.get? id (t.map fun (k, v) => (k, f v)) = (t.get? id).map f := by
  induction t with
  | nil => rfl
  | cons entry rest ih =>
    obtain ⟨k, v⟩ := entry
    rw [List.map_cons, Table.get?, Table.get?]
    split
    · rfl
    · exact ih

/-- A message that is delivered waits behind the others, as long as they are few. -/
theorem Waits.deliver {bus : MemoryBus} {id : SubscriptionId} {pattern : String} {unread : List Message}
    (h : bus.Waits id pattern unread) {m : Message} (hfew : unread.length < bus.capacity) :
    (bus.deliver m).Waits id pattern (unread ++ [m]) := by
  have hnone : unread.length + 1 - bus.capacity = 0 := by omega
  rw [Waits, MemoryBus.deliver, get?_map_values, show bus.subscriptions.get? id = _ from h]
  simp [offer, hnone]

/-- Messages that are delivered wait behind the others, as long as they are few. -/
theorem Waits.foldl_deliver {bus : MemoryBus} {id : SubscriptionId} {pattern : String} {unread : List Message}
    (h : bus.Waits id pattern unread) {messages : List Message}
    (hfew : unread.length + messages.length ≤ bus.capacity) :
    (messages.foldl (·.deliver ·) bus).Waits id pattern (unread ++ messages) := by
  induction messages generalizing bus unread with
  | nil => rwa [List.append_nil]
  | cons m rest ih =>
    rw [List.length_cons] at hfew
    have hnext := ih (h.deliver (m := m) (by omega)) (by
      rw [List.length_append, List.length_singleton, show (bus.deliver m).capacity = bus.capacity from rfl]
      omega)
    rwa [List.append_assoc, List.singleton_append] at hnext

/-- Delivering changes neither the capacity of a bus nor how it behaves. -/
theorem foldl_deliver_frame (bus : MemoryBus) (messages : List Message) :
    (messages.foldl (·.deliver ·) bus).capacity = bus.capacity ∧
      (messages.foldl (·.deliver ·) bus).mode = bus.mode := by
  induction messages generalizing bus with
  | nil => exact ⟨rfl, rfl⟩
  | cons m rest ih => exact ih (bus.deliver m)

/-- The bus after everything in a subscription was read. -/
def emptied (bus : MemoryBus) (id : SubscriptionId) (pattern : String) : MemoryBus :=
  { bus with subscriptions := bus.subscriptions.insert id { pattern } }

/-- Reading a subscription gives those of the waiting messages that its pattern stands for. -/
theorem Waits.read {bus : MemoryBus} {id : SubscriptionId} {pattern : String} {unread : List Message}
    (h : bus.Waits id pattern unread) :
    bus.read id = (bus.emptied id pattern, unread.filter fun m => Channel.isMatch pattern m.channel) := by
  rw [MemoryBus.read, show bus.subscriptions.get? id = _ from h]
  rfl

/-- A subscription that was read waits for the next message. -/
theorem waits_emptied (bus : MemoryBus) (id : SubscriptionId) (pattern : String) :
    (bus.emptied id pattern).Waits id pattern [] := by
  rw [Waits, emptied, Table.get?_insert, if_pos rfl]

/-- A subscription is not concerned by the reading of another one. -/
theorem Waits.emptied_other {bus : MemoryBus} {id other : SubscriptionId} {pattern : String} {unread : List Message}
    (h : bus.Waits id pattern unread) (hne : other ≠ id) (foreign : String) :
    (bus.emptied other foreign).Waits id pattern unread := by
  rw [Waits, emptied, Table.get?_insert, if_neg hne]
  exact h

/-- The bus with one more subscription. -/
def subscribed (bus : MemoryBus) (pattern : String) : MemoryBus :=
  { bus.emptied bus.nextId pattern with nextId := bus.nextId + 1 }

/-- A bus that answers, or whose publishing fails at once. -/
def IsPrompt (bus : MemoryBus) : Prop := bus.mode = .up ∨ bus.mode = .down

end Bus.MemoryBus

namespace Wiring

/-- A wiring listens to a pattern by one subscription, in which nothing waits. -/
structure Attends (w : Wiring) (bus : Bus.MemoryBus) (pattern : String) (id : Bus.SubscriptionId) : Prop where
  live : w.isLive = true
  single : w.subscriptions = [id]
  drained : bus.Waits id pattern []

/-- Pulling hands on those of the waiting messages that the pattern stands for. -/
theorem pull_waits {w : Wiring} {id : Bus.SubscriptionId} (hsingle : w.subscriptions = [id]) {s : Shared}
    {pattern : String} {unread : List Bus.Message} (hwaits : s.bus.Waits id pattern unread)
    (receive : Shared → Bus.Message → Shared) :
    w.pull receive s = (unread.filter fun m => Channel.isMatch pattern m.channel).foldl receive
      { s with bus := s.bus.emptied id pattern } := by
  simp only [pull, hsingle, collect, hwaits.read, List.append_nil]

/-- Bulletins that wait on channels of the pattern are told as they are heard. -/
theorem pull_heard {w : Wiring} {id : Bus.SubscriptionId} (hsingle : w.subscriptions = [id]) {s : Shared}
    {pattern : String} {bulletins : List Bulletin} (hwaits : s.bus.Waits id pattern (bulletins.map (·.message)))
    (hmatch : ∀ b ∈ bulletins, Channel.isMatch pattern b.channel = true)
    {receive : Shared → Bus.Message → Shared} {echo : Bulletin → Bulletin}
    (hecho : ∀ b ∈ bulletins, ∀ s : Shared, receive s b.message = s.tell (echo b)) :
    w.pull receive s = { (bulletins.map echo).foldl Shared.tell s with bus := s.bus.emptied id pattern } := by
  have hall : (bulletins.map (·.message)).filter (fun m => Channel.isMatch pattern m.channel) =
      bulletins.map (·.message) := by
    refine List.filter_eq_self.mpr fun m hm => ?_
    obtain ⟨b, hb, rfl⟩ := List.mem_map.mp hm
    exact hmatch b hb
  rw [pull_waits hsingle hwaits, hall, List.foldl_map, ← Shared.foldl_tell_with_bus, List.foldl_map]
  exact List.foldl_ext _ _ _ fun s b hb => hecho b hb s

/-- Messages that wait on other channels are dropped. -/
theorem pull_foreign {w : Wiring} {id : Bus.SubscriptionId} (hsingle : w.subscriptions = [id]) {s : Shared}
    {pattern : String} {unread : List Bus.Message} (hwaits : s.bus.Waits id pattern unread)
    (hforeign : ∀ m ∈ unread, Channel.isMatch pattern m.channel = false) (receive : Shared → Bus.Message → Shared) :
    w.pull receive s = { s with bus := s.bus.emptied id pattern } := by
  have hnone : unread.filter (fun m => Channel.isMatch pattern m.channel) = [] :=
    List.filter_eq_nil_iff.mpr fun m hm => by simp [hforeign m hm]
  rw [pull_waits hsingle hwaits, hnone, List.foldl_nil]

/-- What comes back from the bus is told as its echo, unless it was told directly. -/
theorem Attends.pull_spreads {w : Wiring} {s : Shared} {pattern : String} {id : Bus.SubscriptionId}
    (h : w.Attends s.bus pattern id) (hprompt : s.bus.IsPrompt) {bulletins : List Bulletin}
    (hfew : bulletins.length ≤ s.bus.capacity)
    (hmatch : ∀ b ∈ bulletins, Channel.isMatch pattern b.channel = true)
    {receive : Shared → Bus.Message → Shared} {echo : Bulletin → Bulletin}
    (hecho : ∀ b ∈ bulletins, ∀ s : Shared, receive s b.message = s.tell (echo b)) :
    ∃ bus told, (told = bulletins ∨ told = bulletins.map echo) ∧ w.Attends bus pattern id ∧
      bus.mode = s.bus.mode ∧ bus.capacity = s.bus.capacity ∧
      w.pull receive (bulletins.foldl (Shared.spread true) s) = { told.foldl Shared.tell s with bus } := by
  rcases hprompt with hup | hdown
  · -- everything goes over the bus
    have hwaits := h.drained.foldl_deliver
      (show [].length + (bulletins.map (·.message)).length ≤ s.bus.capacity by simpa using hfew)
    obtain ⟨hcapacity, hmode⟩ := s.bus.foldl_deliver_frame (bulletins.map (·.message))
    rw [Shared.foldl_spread_up hup, List.nil_append] at *
    refine ⟨_, _, .inr rfl, ⟨h.live, h.single, Bus.MemoryBus.waits_emptied _ id pattern⟩, hmode, hcapacity, ?_⟩
    rw [pull_heard h.single hwaits hmatch hecho, Shared.foldl_tell_with_bus]
  · -- everything is told directly, and nothing waits on the bus
    have hbus := s.foldl_tell_bus bulletins
    refine ⟨_, _, .inl rfl, ⟨h.live, h.single, s.bus.waits_emptied id pattern⟩, rfl, rfl, ?_⟩
    rw [Shared.foldl_spread_down hdown, pull_foreign h.single (hbus ▸ h.drained) (by simp), hbus]

/-- A wiring that is made on a bus which takes subscriptions attends to it. -/
theorem connect_attends (s : Shared) (hprompt : s.bus.IsPrompt) (pattern : String) :
    ∃ w, Wiring.connect {} s pattern = ({ s with bus := s.bus.subscribed pattern }, .ok w) ∧
      w.Attends (s.bus.subscribed pattern) pattern s.bus.nextId := by
  have hsubscribe : s.bus.subscribe pattern = (s.bus.subscribed pattern, .ok (some s.bus.nextId)) := by
    rcases hprompt with hmode | hmode <;>
      simp only [Bus.MemoryBus.subscribe, Bus.MemoryBus.subscribed, Bus.MemoryBus.emptied, hmode]
  refine ⟨{ subscriptions := [s.bus.nextId], isLive := true }, ?_, rfl, rfl, s.bus.waits_emptied s.bus.nextId pattern⟩
  simp only [connect, hsubscribe, List.nil_append]

/-- A hub that is not wired, or one that attends to a bus on which there is room for some messages. -/
def Drained (w : Wiring) (bus : Bus.MemoryBus) (pattern : String) (room : Nat) : Prop :=
  w = {} ∨ ∃ id, w.Attends bus pattern id ∧ bus.IsPrompt ∧ room ≤ bus.capacity

/-- A bus may be turned on or off. -/
theorem Drained.withMode {w : Wiring} {bus : Bus.MemoryBus} {pattern : String} {room : Nat}
    (h : w.Drained bus pattern room) {mode : Bus.Mode} (hmode : mode = .up ∨ mode = .down) :
    w.Drained { bus with mode } pattern room := by
  rcases h with rfl | ⟨id, hattends, -, hroom⟩
  · exact .inl rfl
  · exact .inr ⟨id, ⟨hattends.live, hattends.single, hattends.drained⟩, hmode, hroom⟩

/-- Once the bus is drained, everything in an outbox has been told, or its echo. -/
theorem Drained.pull_carry {w : Wiring} {s : Shared} {pattern : String} {room : Nat}
    (h : w.Drained s.bus pattern room) {o : Outbox} (hfew : o.bulletins.length ≤ room)
    (hmatch : ∀ b ∈ o.bulletins, Channel.isMatch pattern b.channel = true)
    {receive : Shared → Bus.Message → Shared} {echo : Bulletin → Bulletin}
    (hecho : ∀ b ∈ o.bulletins, ∀ s : Shared, receive s b.message = s.tell (echo b)) :
    ∃ bus told, (told = o.bulletins ∨ told = o.bulletins.map echo) ∧ w.Drained bus pattern room ∧
      w.pull receive (s.carry w.isLive o) =
        { s.postAll (Outbox.frames { o with bulletins := told }) with bus } := by
  rcases h with rfl | ⟨id, hattends, hprompt, hroom⟩
  · refine ⟨s.bus, o.bulletins, .inl rfl, .inl rfl, ?_⟩
    rw [show Wiring.isLive {} = false from rfl, Shared.carry_unwired]
    change s.postAll o.frames = _
    rw [Shared.postAll_eq]
  · have hbus : (s.postAll o.posts).bus = s.bus := by rw [Shared.postAll_eq]
    obtain ⟨bus, told, htold, hattends', hmode, hcapacity, hpull⟩ := Attends.pull_spreads (s := s.postAll o.posts)
      (hbus.symm ▸ hattends) (hbus.symm ▸ hprompt) (hbus.symm ▸ Nat.le_trans hfew hroom) hmatch hecho
    rw [hbus] at hmode hcapacity
    have hprompt' : bus.IsPrompt := by
      rw [Bus.MemoryBus.IsPrompt, hmode]
      exact hprompt
    refine ⟨bus, told, htold, .inr ⟨id, hattends', hprompt', hcapacity ▸ hroom⟩, ?_⟩
    rw [Shared.carry, hattends.live, hpull, Outbox.frames, Shared.postAll_append, Shared.foldl_tell]

end Wiring

/-! ## Runs -/

/-- What operations that come one after the other lead to, if each may lead to several states. -/
inductive Runs {σ ω : Type} (leads : σ → ω → σ → Prop) : σ → List ω → σ → Prop
  | nil (s : σ) : Runs leads s [] s
  | cons {s m s' : σ} {op : ω} {ops : List ω} (first : leads s op m) (rest : Runs leads m ops s') :
    Runs leads s (op :: ops) s'

/-- A run by a function that does what may be done. -/
theorem Runs.of_foldl {σ ω : Type} {leads : σ → ω → σ → Prop} {f : σ → ω → σ} (h : ∀ s op, leads s op (f s op))
    (s : σ) (ops : List ω) : Runs leads s ops (ops.foldl f s) := by
  induction ops generalizing s with
  | nil => exact .nil s
  | cons op ops ih => exact .cons (h s op) (ih (f s op))

end Parlor
