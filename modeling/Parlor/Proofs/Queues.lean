import Parlor.Proofs.Delivery

/-!
# Queues over time

A connection that is there stays there under its name. Its own socket takes frames out of its queue and may
close it; everybody else only puts frames in. A connection that is open and has dropped nothing has taken every
frame that was ever sent to it.
-/

namespace Parlor

/-! ## One connection -/

namespace Connection

/-- What the socket of a connection does to it: it reads the queue, or closes it from one side. -/
inductive Handling : (Connection → Connection) → Prop
  | read (limit : Option Nat) : Handling fun c => (c.receive limit).1
  | close : Handling fun c => c.close.1
  | closeReceiver : Handling closeReceiver
  | dropReceiver : Handling fun c => c.dropReceiver.1

/-- What becomes of a connection: it stays closed, and what it has dropped is lost. -/
structure Precedes (c c' : Connection) : Prop where
  closed : c.isClosed = true → c'.isClosed = true
  dropped : c.dropped ≤ c'.dropped

/-- A connection to which nothing happens. -/
theorem Precedes.refl (c : Connection) : c.Precedes c := ⟨fun h => h, Nat.le_refl _⟩

/-- What becomes of a connection becomes of it in steps. -/
theorem Precedes.trans {c c' c'' : Connection} (h : c.Precedes c') (h' : c'.Precedes c'') : c.Precedes c'' :=
  ⟨fun hclosed => h'.closed (h.closed hclosed), Nat.le_trans h.dropped h'.dropped⟩

/-- Its socket only takes frames out of the queue of a connection. -/
theorem Handling.spec {change : Connection → Connection} (h : Handling change) (c : Connection) :
    c.Precedes (change c) ∧ (change c).waiting.length ≤ c.waiting.length := by
  cases h with
  | read limit =>
    dsimp only
    unfold receive
    split
    · exact ⟨.refl c, Nat.le_refl _⟩
    · exact ⟨⟨fun h => h, Nat.le_refl _⟩, by simp⟩
  | close => exact ⟨⟨fun _ => by simp [Connection.close, isClosed], Nat.le_refl _⟩, Nat.le_refl _⟩
  | closeReceiver =>
    unfold Connection.closeReceiver
    split
    · exact ⟨.refl c, Nat.le_refl _⟩
    · exact ⟨⟨fun _ => by simp [isClosed], Nat.le_refl _⟩, Nat.le_refl _⟩
  | dropReceiver =>
    exact ⟨⟨fun _ => by simp [Connection.dropReceiver, isClosed], Nat.le_refl _⟩, Nat.zero_le _⟩

/-- Frames that are sent to a connection do not open it again. -/
theorem precedes_sendAll (c : Connection) (frames : List String) : c.Precedes (c.sendAll frames).1 := by
  obtain ⟨hsame, hdropped⟩ := c.sendAll_dropped frames
  exact ⟨fun hclosed => hsame.trans hclosed, hdropped ▸ Nat.le_add_right _ _⟩

/-- Frames do not change the user of a connection. -/
theorem sendAll_user (c : Connection) (frames : List String) : (c.sendAll frames).1.user = c.user := by
  induction frames generalizing c with
  | nil => rfl
  | cons frame rest ih =>
    have hone : (c.send frame).1.user = c.user := by
      unfold send
      split
      · rfl
      · split <;> rfl
    exact (ih _).trans hone

/-- Its socket does not change the user of a connection. -/
theorem Handling.user {change : Connection → Connection} (h : Handling change) (c : Connection) :
    (change c).user = c.user := by
  cases h with
  | read limit =>
    dsimp only
    unfold receive
    split <;> rfl
  | close | dropReceiver => rfl
  | closeReceiver =>
    unfold Connection.closeReceiver
    split <;> rfl

/-- A connection that is open afterwards and has dropped nothing has taken all frames. -/
theorem sendAll_of_taken {c : Connection} {frames : List String} (hopen : (c.sendAll frames).1.isClosed = false)
    (hdropped : (c.sendAll frames).1.dropped ≤ c.dropped) :
    (c.sendAll frames).1.waiting = c.waiting ++ frames := by
  obtain ⟨hsame, hcount⟩ := c.sendAll_dropped frames
  rw [hsame] at hopen
  rw [hcount, hopen, if_neg (by simp)] at hdropped
  rw [sendAll_waiting, List.take_of_length_le (by omega)]

end Connection

/-! ## All connections -/

namespace Shared

/-- The frames that wait in the queue of a connection. -/
def queue (s : Shared) (id : ConnectionId) : List String := ((s.connection? id).map (·.waiting)).getD []

/-- The frames that have come into the queue of a connection since. -/
def gained (s s' : Shared) (id : ConnectionId) : List String := (s'.queue id).drop (s.queue id).length

/-- Every connection is still there, under its name. -/
def Continues (s s' : Shared) : Prop :=
  ∀ id c, s.connection? id = some c → ∃ c', s'.connection? id = some c' ∧ c.Precedes c'

/-- The names of the connections have been given out in turn. -/
def Numbered (s : Shared) : Prop := ∀ id c, s.connection? id = some c → id < s.connections.length

/-- Connections to which nothing happens. -/
theorem Continues.of_eq {s s' : Shared} (h : s'.connections = s.connections) : s.Continues s' :=
  fun id c hc => ⟨c, (congrArg (Table.get? id) h).trans hc, .refl c⟩

/-- Connections continue in steps. -/
theorem Continues.trans {s s' s'' : Shared} (h : s.Continues s') (h' : s'.Continues s'') : s.Continues s'' := by
  intro id c hc
  obtain ⟨c', hc', hfirst⟩ := h id c hc
  obtain ⟨c'', hc'', hsecond⟩ := h' id c' hc'
  exact ⟨c'', hc'', hfirst.trans hsecond⟩

/-- What has come into the queues in steps. -/
theorem OnlyQueues.trans {P : ConnectionId → String → Prop} {s s' s'' : Shared} (h : OnlyQueues P s s')
    (h' : OnlyQueues P s' s'') : OnlyQueues P s s'' := by
  intro id c'' hc''
  obtain ⟨c', new', hc', hwaiting', hnew'⟩ := h' id c'' hc''
  obtain ⟨c, new, hc, hwaiting, hnew⟩ := h id c' hc'
  refine ⟨c, new ++ new', hc, by rw [hwaiting', hwaiting, List.append_assoc], fun frame hframe => ?_⟩
  rcases List.mem_append.mp hframe with hframe | hframe
  · exact hnew frame hframe
  · exact hnew' frame hframe

/-- The frames that have come into a queue satisfy the condition. -/
theorem OnlyQueues.gained {P : ConnectionId → String → Prop} {s s' : Shared} (h : OnlyQueues P s s')
    (id : ConnectionId) : ∀ frame ∈ s.gained s' id, P id frame := by
  intro frame hframe
  cases hc' : s'.connection? id with
  | none => simp [Shared.gained, queue, hc'] at hframe
  | some c' =>
    obtain ⟨c, new, hc, hwaiting, hnew⟩ := h id c' hc'
    refine hnew frame ?_
    simpa [Shared.gained, queue, hc, hc', hwaiting] using hframe

/-- Of a bulletin a connection gets one frame for each time that it is among the recipients. -/
theorem framesFor_bulletins (id : ConnectionId) (bulletins : List Bulletin) :
    framesFor id (bulletins.flatMap (·.posts)) =
      bulletins.flatMap fun b => List.replicate (b.recipients.count id) b.payload := by
  have hone (frame : String) (ids : List ConnectionId) :
      framesFor id (ids.map (·, frame)) = List.replicate (ids.count id) frame := by
    induction ids with
    | nil => rfl
    | cons other rest ih =>
      rw [framesFor] at ih
      by_cases hid : other = id <;> simp [framesFor, hid, ih, List.replicate_succ]
  induction bulletins with
  | nil => rfl
  | cons b rest ih =>
    rw [List.flatMap_cons, List.flatMap_cons, ← ih, ← hone, framesFor, List.filter_append, List.map_append]
    rfl

/-- What becomes of some posts, one after the other. -/
def outcomes (s : Shared) : List (ConnectionId × String) → List (ConnectionId × SendOutcome)
  | [] => []
  | (id, frame) :: rest => (id, (s.send id frame).2) :: (s.post id frame).outcomes rest

/-- A frame that is queued comes last in the queue of a connection that is there. -/
theorem queue_of_queued {s : Shared} {id : ConnectionId} {frame : String} (h : (s.send id frame).2 = .queued) :
    (s.post id frame).queue id = s.queue id ++ [frame] ∧ (s.connection? id).isSome := by
  unfold send at h
  split at h
  · contradiction
  rename_i c hc
  refine ⟨?_, by rw [hc]; rfl⟩
  rw [queue, queue, connection?_post, if_pos rfl, hc]
  dsimp only at h
  unfold Connection.send at h
  split at h
  · contradiction
  rename_i hopen
  split at h
  case isTrue hroom => simp [Connection.send, hopen, hroom]
  case isFalse => contradiction

/-- If all posts for a connection are queued, then its queue gets them, and it is there if there are any. -/
theorem gained_postAll {s : Shared} {id : ConnectionId} {posts : List (ConnectionId × String)}
    (h : ∀ outcome, (id, outcome) ∈ s.outcomes posts → outcome = .queued) :
    s.gained (s.postAll posts) id = framesFor id posts ∧
      (∀ p ∈ posts, p.1 = id → (s.connection? id).isSome) := by
  have hqueue : (s.postAll posts).queue id = s.queue id ++ framesFor id posts ∧
      (∀ p ∈ posts, p.1 = id → (s.connection? id).isSome) := by
    induction posts generalizing s with
    | nil => exact ⟨(List.append_nil _).symm, by simp⟩
    | cons p rest ih =>
      obtain ⟨other, frame⟩ := p
      obtain ⟨hrest, hthere⟩ := ih fun outcome hmem => h outcome (List.mem_cons_of_mem _ hmem)
      by_cases hid : other = id
      · subst hid
        obtain ⟨hfirst, hsome⟩ := queue_of_queued (h _ List.mem_cons_self)
        refine ⟨?_, fun _ _ _ => hsome⟩
        rw [framesFor, List.filter_cons_of_pos (by simp), List.map_cons, ← framesFor]
        exact hrest.trans (by rw [hfirst, List.append_assoc]; rfl)
      · have hsame := (s.connection?_post other frame id).trans (if_neg hid)
        rw [queue, queue, hsame] at hrest
        refine ⟨?_, fun p hp hpid => ?_⟩
        · rw [framesFor, List.filter_cons_of_neg (by simpa using hid), ← framesFor]
          exact hrest
        · rcases List.mem_cons.mp hp with rfl | hp
          · exact absurd hpid hid
          · exact hsame ▸ hthere p hp hpid
  exact ⟨by rw [gained, hqueue.1, List.drop_left], hqueue.2⟩

/-- The user of a connection that is there. -/
theorem userOf_of_connection? {s : Shared} {id : ConnectionId} {c : Connection} (hc : s.connection? id = some c) :
    s.userOf id = c.user := by rw [userOf, hc, Option.map_some, Option.getD_some]

/-- Whatever is told to them, connections keep their users. -/
theorem carry_userOf (wired : Bool) (s : Shared) (o : Outbox) (id : ConnectionId) :
    (s.carry wired o).userOf id = s.userOf id := by
  obtain ⟨told, -, -, -, hconnections, -⟩ := s.carry_cases wired o
  have hconnection : (s.carry wired o).connection? id = _ :=
    (congrArg (Table.get? id) hconnections).trans (s.connection?_postAll _ id)
  rw [userOf, hconnection, userOf]
  cases s.connection? id with
  | none => rfl
  | some c => exact c.sendAll_user _

/-- A connection of another name is not changed. -/
theorem connection?_modify (s : Shared) (id other : ConnectionId) (change : Connection → Connection) :
    (s.modifyConnection id change).connection? other =
      if id = other then (s.connection? other).map change else s.connection? other := by
  have hmodify (t : Table ConnectionId Connection) :
      (t.modify id change).get? other = if id = other then (t.get? other).map change else t.get? other := by
    induction t with
    | nil => simp [Table.modify, Table.get?]
    | cons entry rest ih =>
      obtain ⟨k, v⟩ := entry
      by_cases hk : k = id
      · subst hk
        by_cases hother : k = other <;> simp [Table.modify, Table.get?, hother, ih]
      · by_cases hother : k = other
        · subst hother
          simp [Table.modify, Table.get?, hk, Ne.symm hk]
        · simp [Table.modify, Table.get?, hk, hother, ih]
  exact hmodify s.connections

/-- The names of connections stay when one of them is changed. -/
theorem length_modify (s : Shared) (id : ConnectionId) (change : Connection → Connection) :
    (s.modifyConnection id change).connections.length = s.connections.length := by
  have hmodify (t : Table ConnectionId Connection) : (t.modify id change).length = t.length := by
    induction t with
    | nil => rfl
    | cons entry rest ih =>
      obtain ⟨k, v⟩ := entry
      rw [Table.modify]
      split <;> simp [ih]
  exact hmodify s.connections

/-- A new connection has the next name, and an empty queue. -/
theorem connection?_connect (s : Shared) (user : UserId) (capacity : Nat) (id : ConnectionId) :
    (s.connect user capacity).1.connection? id =
      if s.connections.length = id then some (.new user capacity) else s.connection? id :=
  Table.get?_insert _ _ _ _

/-! ## What comes into the queues -/

/-- From connections that were named in turn: every one continues, and allowed frames come into the queues. -/
structure Brings (P : ConnectionId → String → Prop) (s s' : Shared) : Prop where
  continues : s.Continues s'
  numbered : s'.Numbered
  gained : ∀ id, ∀ frame ∈ s.gained s' id, P id frame

variable {P : ConnectionId → String → Prop} {s s' : Shared}

/-- What comes into the queues does not depend on anything but the queues. -/
theorem Brings.of_eq {s'' : Shared} (h : Brings P s s'') (heq : s'.connections = s''.connections) : Brings P s s' := by
  have hconnection (id : ConnectionId) : s'.connection? id = s''.connection? id := congrArg (Table.get? id) heq
  refine ⟨fun id c hc => ?_, fun id c hc => ?_, fun id frame hframe => h.gained id frame ?_⟩
  · rw [hconnection]
    exact h.continues id c hc
  · rw [heq]
    exact h.numbered id c (hconnection id ▸ hc)
  · rwa [Shared.gained, show s'.queue id = s''.queue id by rw [queue, queue, hconnection]] at hframe

/-- Posts keep all connections under their names. -/
theorem length_postAll (s : Shared) (posts : List (ConnectionId × String)) :
    (s.postAll posts).connections.length = s.connections.length := by
  have hpost (connections : Table ConnectionId Connection) (id : ConnectionId) (frame : String) :
      (posted connections id frame).length = connections.length := by
    unfold posted
    split
    case h_1 => rfl
    case h_2 c hget =>
      have hmem : id ∈ Table.keys connections := (Table.mem_keys_iff connections id).mpr (by simp [hget])
      rw [← Table.length_keys, Table.keys_insert, if_pos hmem, Table.length_keys]
  induction posts generalizing s with
  | nil => rfl
  | cons p rest ih => exact (ih (s.post p.1 p.2)).trans (by rw [post_eq]; exact hpost _ _ _)

/-- Posts of allowed frames bring nothing else. -/
theorem Numbered.brings_postAll (hs : s.Numbered) {posts : List (ConnectionId × String)}
    (hposts : ∀ p ∈ posts, P p.1 p.2) (h : s'.connections = (s.postAll posts).connections) : Brings P s s' := by
  have hconnection (id : ConnectionId) : s'.connection? id = (s.postAll posts).connection? id :=
    congrArg (Table.get? id) h
  refine ⟨fun id c hc => ?_, fun id c hc => ?_, (OnlyQueues.of_postAll hposts h).gained⟩
  · refine ⟨_, ?_, c.precedes_sendAll (framesFor id posts)⟩
    rw [hconnection, connection?_postAll, hc, Option.map_some]
  · rw [hconnection, connection?_postAll] at hc
    obtain ⟨c', hc', -⟩ := Option.map_eq_some_iff.mp hc
    rw [h, length_postAll]
    exact hs id c' hc'

/-- A new connection changes no other one. -/
theorem Numbered.brings_connect (hs : s.Numbered) (user : UserId) (capacity : Nat) :
    Brings P s (s.connect user capacity).1 := by
  have hother {id : ConnectionId} {c : Connection} (hc : s.connection? id = some c) :
      (s.connect user capacity).1.connection? id = some c := by
    rw [connection?_connect, if_neg (Nat.ne_of_gt (hs id c hc)), hc]
  have hlength : (s.connect user capacity).1.connections.length = s.connections.length + 1 := by
    have hnew : s.connections.length ∉ Table.keys s.connections := by
      rw [Table.mem_keys_iff, Option.isSome_iff_exists]
      rintro ⟨c, hc⟩
      exact Nat.lt_irrefl _ (hs _ c hc)
    rw [← Table.length_keys, connect, Table.keys_insert, if_neg hnew, List.length_append, Table.length_keys]
    rfl
  refine ⟨fun id c hc => ⟨c, hother hc, .refl c⟩, fun id c hc => ?_, fun id frame hframe => ?_⟩
  · rw [connection?_connect] at hc
    rw [hlength]
    split at hc
    case isTrue hid => exact hid ▸ Nat.lt_succ_self _
    case isFalse => exact Nat.lt_succ_of_lt (hs id c hc)
  · cases hc : s.connection? id with
    | some c => simp [Shared.gained, queue, hc, hother hc] at hframe
    | none =>
      have hnew := connection?_connect s user capacity id
      split at hnew
      · simp [Shared.gained, queue, hc, hnew, Connection.new] at hframe
      · simp [Shared.gained, queue, hc, hnew] at hframe

/-- Its own socket brings nothing into the queue of a connection. -/
theorem Numbered.brings_modify (hs : s.Numbered) (id : ConnectionId) {change : Connection → Connection}
    (hchange : Connection.Handling change) : Brings P s (s.modifyConnection id change) := by
  refine ⟨fun other c hc => ?_, fun other c hc => ?_, fun other frame hframe => ?_⟩
  · rw [connection?_modify, hc]
    split
    · exact ⟨change c, rfl, (hchange.spec c).1⟩
    · exact ⟨c, rfl, .refl c⟩
  · rw [length_modify]
    rw [connection?_modify] at hc
    split at hc
    · obtain ⟨c', hc', -⟩ := Option.map_eq_some_iff.mp hc
      exact hs other c' hc'
    · exact hs other c hc
  · have hshort : ((s.modifyConnection id change).queue other).length ≤ (s.queue other).length := by
      rw [queue, queue, connection?_modify]
      cases hc : s.connection? other with
      | none => simp
      | some c =>
        split
        · exact (hchange.spec c).2
        · exact Nat.le_refl _
    rw [Shared.gained, List.drop_of_length_le hshort] at hframe
    exact absurd hframe List.not_mem_nil

/-- Those who are dismissed get their last frames. -/
theorem Numbered.brings_dismiss (hs : s.Numbered) {farewells : List (ConnectionId × String)}
    (hfarewells : ∀ p ∈ farewells, P p.1 p.2) : Brings P s (s.dismiss farewells) := by
  have hall : s.Continues (s.dismiss farewells) ∧ (s.dismiss farewells).Numbered ∧
      OnlyQueues P s (s.dismiss farewells) := by
    induction farewells generalizing s with
    | nil => exact ⟨.of_eq rfl, hs, .of_eq rfl⟩
    | cons p rest ih =>
      obtain ⟨hp, hrest⟩ := List.forall_mem_cons.mp hfarewells
      have hposts : ∀ q ∈ [p], P q.1 q.2 := fun q hq => List.mem_singleton.mp hq ▸ hp
      have hpost : Brings P s (s.post p.1 p.2) := hs.brings_postAll hposts rfl
      have hclose : Brings P (s.post p.1 p.2) ((s.post p.1 p.2).close p.1) := hpost.numbered.brings_modify p.1 .close
      have hqueues : OnlyQueues P (s.post p.1 p.2) ((s.post p.1 p.2).close p.1) := by
        intro id c' hc'
        rw [close, connection?_modify] at hc'
        split at hc'
        · obtain ⟨c, hc, rfl⟩ := Option.map_eq_some_iff.mp hc'
          exact ⟨c, [], hc, (List.append_nil _).symm, by simp⟩
        · exact ⟨c', [], hc', (List.append_nil _).symm, by simp⟩
      obtain ⟨hcontinues, hnumbered, honly⟩ := ih hclose.numbered hrest
      exact ⟨(hpost.continues.trans hclose.continues).trans hcontinues, hnumbered,
        ((OnlyQueues.of_postAll hposts rfl).trans hqueues).trans honly⟩
  exact ⟨hall.1, hall.2.1, hall.2.2.gained⟩

end Shared

/-! ## The same connections -/

namespace Shared

/-- The same connections are there, under their names and with their users. -/
structure Retains (s s' : Shared) : Prop where
  length : s'.connections.length = s.connections.length
  users : ∀ id, (s'.connection? id).map (·.user) = (s.connection? id).map (·.user)

/-- Connections to which nothing happens. -/
theorem Retains.of_eq {s s' : Shared} (h : s'.connections = s.connections) : s.Retains s' :=
  ⟨congrArg List.length h, fun id => congrArg (fun t => (Table.get? id t).map (·.user)) h⟩

/-- Connections stay in steps. -/
theorem Retains.trans {s s' s'' : Shared} (h : s.Retains s') (h' : s'.Retains s'') : s.Retains s'' :=
  ⟨h'.length.trans h.length, fun id => (h'.users id).trans (h.users id)⟩

/-- The same connections are named in turn. -/
theorem Retains.numbered {s s' : Shared} (h : s.Retains s') (hs : s.Numbered) : s'.Numbered := by
  intro id c hc
  have huser := h.users id
  rw [hc, Option.map_some] at huser
  obtain ⟨c', hc', -⟩ := Option.map_eq_some_iff.mp huser.symm
  exact h.length ▸ hs id c' hc'

/-- What keeps the connections at each element of a list keeps them in the end. -/
theorem retains_foldl {α : Type} {f : Shared → α → Shared} (h : ∀ s a, Retains s (f s a)) (s : Shared)
    (as : List α) : s.Retains (as.foldl f s) := by
  induction as generalizing s with
  | nil => exact .of_eq rfl
  | cons a rest ih => exact (h s a).trans (ih (f s a))

/-- Posts keep the connections. -/
theorem retains_postAll (s : Shared) (posts : List (ConnectionId × String)) : s.Retains (s.postAll posts) := by
  refine ⟨s.length_postAll posts, fun id => ?_⟩
  rw [connection?_postAll, Option.map_map]
  exact congrArg (Option.map · _) (funext fun c => c.sendAll_user _)

/-- A connection may change as long as it keeps its user. -/
theorem retains_modify (s : Shared) (id : ConnectionId) (change : Connection → Connection)
    (h : ∀ c, (change c).user = c.user) : s.Retains (s.modifyConnection id change) := by
  refine ⟨s.length_modify id change, fun other => ?_⟩
  rw [connection?_modify]
  split
  case isTrue =>
    rw [Option.map_map]
    exact congrArg (Option.map · _) (funext h)
  case isFalse => rfl

/-- Carrying out an outbox keeps the connections. -/
theorem retains_carry (wired : Bool) (s : Shared) (o : Outbox) : s.Retains (s.carry wired o) := by
  obtain ⟨told, -, -, -, hconnections, -⟩ := s.carry_cases wired o
  exact (s.retains_postAll _).trans (.of_eq hconnections)

/-- Whoever is dismissed is still there. -/
theorem retains_dismiss (s : Shared) (farewells : List (ConnectionId × String)) : s.Retains (s.dismiss farewells) :=
  retains_foldl (fun s farewell => (s.retains_postAll [farewell]).trans
    (retains_modify (s.post farewell.1 farewell.2) farewell.1 (fun c => c.close.1) fun _ => rfl)) s farewells

end Shared

/-- Collecting what waits on the bus has nothing to do with the connections. -/
theorem Wiring.collect_connections (s : Shared) (subscriptions : List Bus.SubscriptionId) :
    (collect s subscriptions).1.connections = s.connections := by
  induction subscriptions generalizing s with
  | nil => rfl
  | cons id rest ih => exact ih _

/-- Pulling keeps the connections if everything that comes in does. -/
theorem Wiring.retains_pull (w : Wiring) {receive : Shared → Bus.Message → Shared}
    (h : ∀ s m, Shared.Retains s (receive s m)) (s : Shared) : s.Retains (w.pull receive s) :=
  Shared.Retains.trans (.of_eq (collect_connections s w.subscriptions)) (Shared.retains_foldl h _ _)

/-- Making a wiring changes the bus and nothing else. -/
theorem Wiring.connect_eq (w : Wiring) (s : Shared) (pattern : String) :
    ∃ bus result, w.connect s pattern = ({ s with bus }, result) := by
  unfold connect
  split <;> exact ⟨_, _, rfl⟩

end Parlor
