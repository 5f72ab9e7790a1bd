import Parlor.Proofs.Signaling.Rosters

/-!
# What the peers know

As long as nothing that is sent to a peer is lost, every peer of a room knows from its frames exactly who else is
there, whatever happens: users come back on other connections or under other names, rooms are full, connections
go away.

The invariant is about every peer at once: its connection is its own, and what was queued there since the last
list of the room tells the others.
-/

namespace Parlor.Signaling

open Json

namespace Hub

/-! ## Who comes -/

/-- Nobody comes into a room by a removal. -/
theorem get?_removal {h : Hub} {room other : String} {user name : UserId} {condition : ConnectionId → Bool}
    {peer : Peer} (hpeer : (h.removal room user condition).1.rooms.get? other name = some peer) :
    h.rooms.get? other name = some peer := by
  unfold removal at hpeer
  split at hpeer
  · split at hpeer
    · rw [without, Registry.get?_setMembers_erase] at hpeer
      split at hpeer
      · contradiction
      · exact hpeer
    · exact hpeer
  · exact hpeer

/-- Nobody comes into a room by removals. -/
theorem get?_removals {h : Hub} {rooms : List String} {other : String} {user name : UserId}
    {condition : ConnectionId → Bool} {peer : Peer}
    (hpeer : (h.removals user condition rooms).1.rooms.get? other name = some peer) :
    h.rooms.get? other name = some peer := by
  induction rooms generalizing h with
  | nil => exact hpeer
  | cons room rest ih => exact get?_removal (ih hpeer)

/-- Whoever comes into a room by a call is the user of the connection, and is sent something. -/
theorem get?_answer {h : Hub} {s : Shared} {call : Call} (hcall : call.Permitted s) {room : String} {user : UserId}
    {peer : Peer} (hpeer : (h.answer call).1.rooms.get? room user = some peer) :
    h.rooms.get? room user = some peer ∨
      user = s.userOf peer.connection ∧ ∃ frame, (peer.connection, frame) ∈ (h.answer call).2 := by
  cases call with
  | join room' user' name connection =>
    by_cases hfull : h.isFullFor room' user' = true
    · rw [answer, if_pos hfull] at hpeer
      exact .inl hpeer
    · rw [answer, if_neg hfull] at hpeer ⊢
      rw [joinedBy, Registry.get?_register] at hpeer
      split at hpeer
      case isTrue hjoined =>
        obtain rfl := Option.some.inj hpeer
        exact .inr ⟨hjoined.2.trans hcall, _, List.mem_cons_self⟩
      case isFalse => exact .inl hpeer
  | leave room' user' => exact .inl (get?_removal hpeer)
  | relay => exact .inl hpeer

end Hub

namespace Site

/-! ## One happening -/

/-- What is sent to the peers because of a happening is queued. -/
def Reaches (t : Site) (e : Happening) : Prop :=
  ∀ room user peer, (t.answer e).1.rooms.get? room user = some peer →
    ∀ outcome, (peer.connection, outcome) ∈ t.shared.outcomes (t.answer e).2 → outcome = .queued

/-- Every peer is there on its own connection, and knows the others from the frames that it was given. -/
structure Informed (t : Site) (given : ConnectionId → List String) : Prop where
  numbered : t.shared.Numbered
  owned : t.hub.Owned t.shared
  known : ∀ room user peer, t.hub.rooms.get? room user = some peer →
    Knows (knownFrom room (given peer.connection)) (t.hub.others room user)

/-- Whoever comes by a happening is the user of the connection, and is sent something. -/
theorem get?_answer {t : Site} {e : Happening} {room : String} {user : UserId} {peer : Peer}
    (hpeer : (t.answer e).1.rooms.get? room user = some peer) :
    t.hub.rooms.get? room user = some peer ∨
      user = t.shared.userOf peer.connection ∧ ∃ frame, (peer.connection, frame) ∈ (t.answer e).2 := by
  rcases t.answer_cases e with ⟨call, hcall, heq⟩ | ⟨connection, heq⟩ | heq <;> rw [heq] at hpeer ⊢
  · exact Hub.get?_answer hcall hpeer
  · exact .inl (Hub.get?_removals hpeer)
  · exact .inl hpeer

/-- A happening informs the peers. -/
theorem informs_answer {t : Site} {limit : Nat} (htidy : t.hub.Tidy limit) (howned : t.hub.Owned t.shared)
    (e : Happening) : t.hub.Informs (t.answer e).1 (t.answer e).2 := by
  rcases t.answer_cases e with ⟨call, hcall, heq⟩ | ⟨connection, heq⟩ | heq <;> rw [heq]
  · exact Hub.informs_answer htidy.rooms.distinct howned hcall
  · exact t.hub.informs_removals _ _ _
  · exact t.hub.informs_quiet (by simp)

/-- What has been known stays known when nothing comes into the queues. -/
theorem Informed.idle {t : Site} {given : ConnectionId → List String} (h : t.Informed given) {shared : Shared}
    (hbrings : Shared.Brings (fun _ _ => False) t.shared shared)
    (husers : ∀ id c, t.shared.connection? id = some c → ∃ c', shared.connection? id = some c' ∧ c'.user = c.user) :
    Informed { t with shared } fun id => given id ++ t.shared.gained shared id where
  numbered := hbrings.numbered
  owned room user peer hpeer := by
    obtain ⟨c, hc, huser⟩ := h.owned room user peer hpeer
    obtain ⟨c', hc', hsame⟩ := husers _ c hc
    exact ⟨c', hc', hsame.trans huser⟩
  known room user peer hpeer := by
    have hnone : t.shared.gained shared peer.connection = [] :=
      List.eq_nil_iff_forall_not_mem.mpr (hbrings.gained peer.connection)
    rw [hnone, List.append_nil]
    exact h.known room user peer hpeer

/-- Whatever happens, the peers stay informed if it reaches them. -/
theorem Informed.meet {t : Site} {given : ConnectionId → List String} (h : t.Informed given) {limit : Nat}
    (htidy : t.hub.Tidy limit) {e : Happening} (hreaches : t.Reaches e) :
    (t.meet e).Informed fun id => given id ++ t.shared.gained (t.meet e).shared id := by
  rcases meet_cases htidy.unwired e with heq | ⟨-, ⟨user, capacity, heq⟩ | ⟨id, change, hchange, heq⟩⟩
  · rw [heq]
    have hposts {room : String} {user : UserId} {peer : Peer}
        (hpeer : (t.answer e).1.rooms.get? room user = some peer) :=
      Shared.gained_postAll (hreaches room user peer hpeer)
    refine ⟨(h.numbered.brings_postAll (P := fun _ _ => True) (fun _ _ => trivial) rfl).numbered,
      fun room user peer hpeer => ?_, fun room user peer hpeer => ?_⟩
    · -- who was there is the user of its connection, and so is who has come
      have hc : ∃ c, t.shared.connection? peer.connection = some c ∧ c.user = user := by
        rcases get?_answer hpeer with hbefore | ⟨huser, frame, hframe⟩
        · exact h.owned room user peer hbefore
        · obtain ⟨c, hc⟩ := Option.isSome_iff_exists.mp ((hposts hpeer).2 _ hframe rfl)
          exact ⟨c, hc, by rw [huser, Shared.userOf_of_connection? hc]⟩
      obtain ⟨c, hc, huser⟩ := hc
      refine ⟨_, (t.shared.connection?_postAll _ _).trans (by rw [hc, Option.map_some]), ?_⟩
      exact (c.sendAll_user _).trans huser
    · rw [(hposts hpeer).1, knownFrom, List.foldl_append]
      refine informs_answer htidy h.owned e room user peer hpeer _ fun before hbefore hconnection => ?_
      exact hconnection ▸ h.known room user before hbefore
  · rw [heq]
    refine h.idle (h.numbered.brings_connect user capacity) fun id c hc => ⟨c, ?_, rfl⟩
    rw [Shared.connection?_connect, if_neg (Nat.ne_of_gt (h.numbered id c hc)), hc]
  · rw [heq]
    refine h.idle (h.numbered.brings_modify id hchange) fun other c hc => ?_
    rw [Shared.connection?_modify, hc]
    split
    · exact ⟨change c, rfl, hchange.user c⟩
    · exact ⟨c, rfl, rfl⟩

/-! ## The course of a hub -/

/-- What is sent to the peers in a course is queued. -/
def ReachesAll (t : Site) : List Happening → Prop
  | [] => True
  | e :: rest => t.Reaches e ∧ (t.meet e).ReachesAll rest

/-- The frames that come into the queue of a connection, one after the other. -/
def queued (id : ConnectionId) (t : Site) : List Happening → List String
  | [] => []
  | e :: rest => t.shared.gained (t.meet e).shared id ++ queued id (t.meet e) rest

/-- The peers stay informed in a course that reaches them. -/
theorem Informed.run {t : Site} {given : ConnectionId → List String} (h : t.Informed given) {limit : Nat}
    (htidy : t.hub.Tidy limit) {happenings : List Happening} (hreaches : t.ReachesAll happenings) :
    (t.run happenings).Informed fun id => given id ++ queued id t happenings := by
  induction happenings generalizing t given with
  | nil => simpa only [queued, List.append_nil, run_nil] using h
  | cons e rest ih =>
    have hrest := ih (h.meet htidy hreaches.1) (tidy_meet htidy e) hreaches.2
    simpa only [queued, List.append_assoc, run_cons] using hrest

/-- A new hub, and nobody connected. -/
def opening (maxPeers : Nat) (shared : Shared) : Site := ⟨.new maxPeers, { shared with connections := [] }⟩

/-- At a new hub nobody has to know anything. -/
theorem informed_opening (maxPeers : Nat) (shared : Shared) : (opening maxPeers shared).Informed fun _ => [] where
  numbered _ _ hc := by contradiction
  owned _ _ _ hpeer := by contradiction
  known _ _ _ hpeer := by contradiction

/-- As many peers are in a room as members are kept. -/
theorem length_peers (h : Hub) (room : String) : (h.peers room).length = (h.rooms.members room).length := by
  rw [Hub.peers, List.length_mergeSort, List.length_map, ← Table.length_keys, Registry.members]

/--
Whatever happens to a hub that is not wired, each of its rooms has a peer, and no room has more of them than it
may. A join that fails leaves everything as it is, but for one frame to the joiner that tells why. And if all
that is ever sent to the peers is queued, then every peer of a room knows exactly who else is there, and under
which name, from what was queued on its connection since it was last sent a list.
-/
theorem peers_informed (maxPeers : Nat) (shared : Shared) (happenings : List Happening) {t : Site}
    (ht : t = (opening maxPeers shared).run happenings) :
    (∀ room, (t.hub.peers room).length ≤ max maxPeers 1) ∧
    (∀ room ∈ t.hub.rooms.scopeList, t.hub.peers room ≠ []) ∧
    (∀ e room user name connection f, t.call? e = some (.join room user name connection) →
      (t.hub.join t.shared room user name connection).2.2 = .error f →
        t.meet e = { t with shared := t.shared.post connection (Signal.error room f.clientMessage).text }) ∧
    ((opening maxPeers shared).ReachesAll happenings → ∀ room user peer, t.hub.rooms.get? room user = some peer →
      ∃ seen, knownFrom room (queued peer.connection (opening maxPeers shared) happenings) = some seen ∧
        seen.Perm ((t.hub.peers room).filter (·.user != user))) := by
  subst ht
  have htidy := tidy_run (t := opening maxPeers shared) (Hub.tidy_new maxPeers) happenings
  refine ⟨fun room => ?_, fun room hroom hnone => ?_, fun e room user name connection f hcall => meet_join_error hcall,
    fun hreaches room user peer hpeer => ?_⟩
  · rw [length_peers]
    exact htidy.rooms.bounded room
  · refine htidy.rooms.inhabited room hroom (List.eq_nil_of_length_eq_zero ?_)
    rw [← length_peers, hnone, List.length_nil]
  · have hinformed := (informed_opening maxPeers shared).run (Hub.tidy_new maxPeers) hreaches
    exact hinformed.known room user peer hpeer

/-- Where everything that is sent is queued, the peers are reached. -/
theorem reaches_of_queued {t : Site} {e : Happening}
    (h : ∀ p ∈ t.shared.outcomes (t.answer e).2, p.2 = .queued) : t.Reaches e :=
  fun _ _ _ _ _ hmem => h _ hmem

/-- A hub for two peers in a room, before anybody has come. -/
def hall : Site := opening 2 { timestamp := "", patience := 0, bus := .new 1, storage := { store := { clock := "" } } }

/-- Two users join, and a third one finds the room full; then the first comes back on a new connection. -/
def hallCourse : List Happening :=
  [.connect 1 8, .connect 2 8, .connect 3 8, .connect 1 8, .join "hall" "ann" 0, .join "hall" "bob" 1,
   .join "hall" "cid" 2, .join "hall" "anna" 3, .disconnect 0]

/-- The second user knows the first one under the new name. -/
theorem hallCourse_known :
    hall.ReachesAll hallCourse ∧
      ∃ seen, knownFrom "hall" (queued 1 hall hallCourse) = some seen ∧ seen.Perm [⟨1, "anna"⟩] := by
  have hreaches : hall.ReachesAll hallCourse :=
    ⟨reaches_of_queued (by decide +kernel), reaches_of_queued (by decide +kernel),
      reaches_of_queued (by decide +kernel), reaches_of_queued (by decide +kernel),
      reaches_of_queued (by decide +kernel), reaches_of_queued (by decide +kernel),
      reaches_of_queued (by decide +kernel), reaches_of_queued (by decide +kernel),
      reaches_of_queued (by decide +kernel), trivial⟩
  have hpeer : (hall.run hallCourse).hub.rooms.get? "hall" 2 = some ⟨"bob", 1⟩ := by decide +kernel
  have hothers : dropPeer ((hall.run hallCourse).hub.roster "hall") 2 = [⟨1, "anna"⟩] := by decide +kernel
  obtain ⟨seen, hknown, hseen⟩ := (peers_informed 2 _ hallCourse rfl).2.2.2 hreaches "hall" 2 ⟨"bob", 1⟩ hpeer
  exact ⟨hreaches, seen, hknown, hothers ▸ hseen.trans (Hub.others_perm _ "hall" 2)⟩

end Site

end Parlor.Signaling
