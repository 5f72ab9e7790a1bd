import Parlor.Json.Access
import Parlor.Proofs.Registry
import Parlor.Proofs.Signaling.Calls

/-!
# Who is in a room

A peer learns who else is in a room from the frames that come in: one that lists all others, and then one for
each who comes or goes. Whoever reads only these frames, and of them only those since the last list, knows the
others exactly.

This is what one change of a room does: whoever knew the others before and takes the frames that are sent
because of the change knows them afterwards, and a joiner knows them from the list.
-/

namespace Parlor.Signaling

open Json

/-! ## Reading frames -/

/-- The peer in a value. -/
def PeerSummary.ofJson (v : Value) : PeerSummary := ⟨v.wordAt "user_id", v.str "username"⟩

/-- The peers that a signal lists. -/
def Signal.users (g : Signal) : List PeerSummary := ((g.payload.getD .null).list "users").map PeerSummary.ofJson

/-- The peers of a room after one has come, or has come again. -/
def addPeer (peers : List PeerSummary) (peer : PeerSummary) : List PeerSummary :=
  peers.filter (·.user != peer.user) ++ [peer]

/-- The peers of a room after one has gone. -/
def dropPeer (peers : List PeerSummary) (user : UserId) : List PeerSummary := peers.filter (·.user != user)

/-- The peers of a room that are known after a signal, if any list of them has come. -/
def Signal.shows (g : Signal) (room : String) (known : Option (List PeerSummary)) : Option (List PeerSummary) :=
  if g.room = some room then
    match g.kind, g.user with
    | .roomUsers, _ => some g.users
    | .userJoined, some user => known.map (addPeer · ⟨user, g.username.getD ""⟩)
    | .userLeft, some user => known.map (dropPeer · user)
    | _, _ => known
  else known

/-- The peers of a room that are known after a frame. -/
def readFrame (room : String) (known : Option (List PeerSummary)) (frame : String) : Option (List PeerSummary) :=
  match Signal.decode (encodeUtf8 frame) with
  | .ok g => g.shows room known
  | .error _ => known

/-- The peers of a room that are known after some frames. -/
def knownFrom (room : String) (frames : List String) : Option (List PeerSummary) := frames.foldl (readFrame room) none

/-- A peer is read from its JSON form. -/
theorem PeerSummary.ofJson_toJson (p : PeerSummary) : ofJson p.toJson = p := by
  obtain ⟨user, username⟩ := p
  have hword : UInt64.ofInt (user.toNat : Int) = user := by
    have hlt : user.toNat < 2 ^ 64 := user.toNat_lt
    have hmod : ((user.toNat : Int) % 2 ^ 64).toNat = user.toNat := by omega
    rw [UInt64.ofInt, hmod, UInt64.ofNat_toNat]
  simp [hword, ofJson, toJson, Value.wordAt, Value.wordAt?, Value.intAt?, Value.get?, member?, Value.word, Value.int?,
    Value.str, Value.str?, Value.string?]

/-- Peers in a list are a payload that comes back. -/
theorem isPlain_users (peers : List PeerSummary) :
    (Value.object [("users", .array (peers.map (·.toJson)))]).IsPlain Envelope.payloadDepth := by
  refine .object (List.pairwise_singleton _ _) fun m hm => ?_
  rw [List.mem_singleton.mp hm]
  refine .array fun v hv => ?_
  obtain ⟨p, -, rfl⟩ := List.mem_map.mp hv
  have hnames : "user_id" < "username" := by decide
  refine .object (List.pairwise_pair.mpr hnames) fun m hm => ?_
  simp only [List.mem_cons, List.not_mem_nil, or_false] at hm
  rcases hm with rfl | rfl
  · exact isPlain_word p.user _
  · exact .string _ p.username

variable {room other : String} {known : Option (List PeerSummary)}

/-- A canonical signal is read as it is. -/
theorem readFrame_text {g : Signal} (h : g.IsCanonical) : readFrame room known g.text = g.shows room known := by
  rw [readFrame, h.decode_text]

/-- A list of the peers is known as it is. -/
theorem readFrame_roomUsers (peers : List PeerSummary) :
    readFrame room known (Signal.roomUsers other peers).text = if other = room then some peers else known := by
  have hcanonical : (Signal.roomUsers other peers).IsCanonical := by
    refine ⟨by simp [Kind.IsCanonical, Signal.roomUsers, Signal.inRoom], fun v hv => ?_⟩
    rw [← Option.mem_some_iff.mp hv]
    exact ⟨by simp, isPlain_users peers⟩
  have husers : (Signal.roomUsers other peers).users = peers := by
    have hlist : (Signal.roomUsers other peers).users = (peers.map (·.toJson)).map PeerSummary.ofJson := rfl
    rw [hlist, List.map_map, List.map_congr_left fun p _ => p.ofJson_toJson, List.map_id']
  rw [readFrame_text hcanonical, Signal.shows, husers]
  simp [Signal.roomUsers, Signal.inRoom]

/-- A peer who has come is known. -/
theorem readFrame_userJoined (user : UserId) (name : String) :
    readFrame room known (Signal.userJoined other user name).text =
      if other = room then known.map (addPeer · ⟨user, name⟩) else known := by
  have hcanonical : (Signal.userJoined other user name).IsCanonical :=
    ⟨by simp [Kind.IsCanonical, Signal.userJoined, Signal.inRoom],
      by simp [Signal.userJoined, Signal.inRoom, Signal.PayloadWithin]⟩
  rw [readFrame_text hcanonical, Signal.shows]
  simp [Signal.userJoined, Signal.inRoom]

/-- That a user has left comes back as it is. -/
theorem Signal.isCanonical_userLeft (room : String) (user : UserId) : (userLeft room user).IsCanonical :=
  ⟨by simp [Kind.IsCanonical, userLeft, inRoom], by simp [userLeft, inRoom, PayloadWithin]⟩

/-- A peer who has gone is not known any longer. -/
theorem readFrame_userLeft (user : UserId) :
    readFrame room known (Signal.userLeft other user).text =
      if other = room then known.map (dropPeer · user) else known := by
  rw [readFrame_text (Signal.isCanonical_userLeft other user), Signal.shows]
  simp [Signal.userLeft, Signal.inRoom]

/-- A peer who has come is told of once and for all. -/
theorem readFrame_userJoined_twice (user : UserId) (name : String) :
    readFrame room (readFrame room known (Signal.userJoined room user name).text)
        (Signal.userJoined room user name).text =
      readFrame room known (Signal.userJoined room user name).text := by
  rw [readFrame_userJoined, readFrame_userJoined, if_pos rfl, if_pos rfl, Option.map_map]
  congr 1
  funext peers
  simp [addPeer]

/-- A peer who has gone is told of once and for all. -/
theorem readFrame_userLeft_twice (user : UserId) :
    readFrame room (readFrame room known (Signal.userLeft room user).text) (Signal.userLeft room user).text =
      readFrame room known (Signal.userLeft room user).text := by
  rw [readFrame_userLeft, readFrame_userLeft, if_pos rfl, if_pos rfl, Option.map_map]
  congr 1
  funext peers
  simp [dropPeer]

/-- A failure tells nothing about the peers. -/
theorem readFrame_error (message : String) : readFrame room known (Signal.error other message).text = known := by
  have hcanonical : (Signal.error other message).IsCanonical := by
    refine ⟨by simp [Kind.IsCanonical, Signal.error, Signal.inRoom], fun v hv => ?_⟩
    rw [← Option.mem_some_iff.mp hv]
    exact ⟨by simp [Envelope.notice], Envelope.isPlain_notice message⟩
  rw [readFrame_text hcanonical, Signal.shows]
  simp [Signal.error, Signal.inRoom]

/-- A signal that is handed on tells nothing about the peers. -/
theorem readFrame_relay {signal : Signal} (hkind : signal.kind.isRelayed = true)
    (hread : ∃ bytes, Signal.decode bytes = .ok signal) (sender target : UserId) :
    readFrame room known (Hub.stamped other sender target signal).text = known := by
  obtain ⟨bytes, hdecode⟩ := hread
  have hwithin := Signal.decode_within hdecode
  have hpayload : Signal.PayloadWithin Number.Fits (Hub.stamped other sender target signal).payload := hwithin.2
  rw [readFrame]
  rcases Hub.decode_text_cases hpayload with ⟨f, hfault⟩ | ⟨v, hsignal⟩
  · rw [hfault]
  · rw [hsignal]
    have hname : Kind.ofName (Hub.stamped other sender target signal).kind.name = signal.kind :=
      Kind.ofName_name hwithin.1
    simp only [Signal.shows, hname]
    cases hk : signal.kind <;> simp [hk, Kind.isRelayed] at hkind ⊢

/-- Reading a frame again and again tells what it tells once, if it tells nothing new when it is read again. -/
theorem foldl_replicate {α β : Type} {f : β → α → β} {a : α} (h : ∀ b, f (f b a) a = f b a) (b : β) (n : Nat) :
    (List.replicate (n + 1) a).foldl f b = f b a := by
  induction n with
  | zero => rfl
  | succ n ih => rw [List.replicate_succ', List.foldl_append, ih, List.foldl_cons, List.foldl_nil, h]

/-- Frames that tell nothing about the peers leave known what was known. -/
theorem foldl_readFrame_quiet {frames : List String} (h : ∀ frame ∈ frames, ∀ known, readFrame room known frame = known)
    (known : Option (List PeerSummary)) : frames.foldl (readFrame room) known = known := by
  induction frames with
  | nil => rfl
  | cons frame rest ih =>
    rw [List.foldl_cons, h frame List.mem_cons_self]
    exact ih fun frame hframe => h frame (List.mem_cons_of_mem _ hframe)

/-! ## Rosters -/

namespace Hub

/-- The members of a room in the order in which they are kept. -/
def roster (h : Hub) (room : String) : List PeerSummary :=
  (h.rooms.membersOf room).map fun entry => ⟨entry.1, entry.2.name⟩

/-- The others in a room are its members without one of them, up to the order. -/
theorem others_perm (h : Hub) (room : String) (user : UserId) :
    (h.others room user).Perm (dropPeer (h.roster room) user) :=
  (List.mergeSort_perm _ _).filter _

/-- The others in a room depend on its members only. -/
theorem others_congr {h h' : Hub} {room : String} (heq : h'.rooms.membersOf room = h.rooms.membersOf room)
    (user : UserId) : h'.others room user = h.others room user := by
  rw [others, others, peers, peers, heq]

/-- The order in which users are left out does not matter. -/
theorem dropPeer_comm (peers : List PeerSummary) (user other : UserId) :
    dropPeer (dropPeer peers user) other = dropPeer (dropPeer peers other) user := by
  simp only [dropPeer, List.filter_filter, Bool.and_comm]

/-- The members that are left when one is taken out. -/
theorem roster_without (h : Hub) (room : String) (user : UserId) :
    (h.without room user).roster room = dropPeer (h.roster room) user := by
  rw [roster, roster, without, Registry.membersOf_setMembers, if_pos rfl, Table.erase_eq_filter, dropPeer,
    List.filter_map]
  congr 2
  funext entry
  simp [bne, beq_eq_decide]

/-- The members when one has come, up to the order. -/
theorem roster_joinedBy {h : Hub} {room : String} (hdistinct : (h.rooms.members room).Nodup) (user : UserId)
    (peer : Peer) : ((h.joinedBy room user peer).roster room).Perm (addPeer (h.roster room) ⟨user, peer.name⟩) := by
  rw [addPeer, ← dropPeer, ← roster_without, roster, joinedBy, Registry.membersOf_register, if_pos rfl, roster, without,
    Registry.membersOf_setMembers, if_pos rfl]
  exact ((Table.insert_perm hdistinct user peer).map _).trans (.of_eq (List.map_append ..))

/-- When a user has left, the others are those who were others before. -/
theorem others_without (h : Hub) (room : String) (user name : UserId) :
    ((h.without room user).others room name).Perm (dropPeer (h.others room name) user) := by
  refine ((h.without room user).others_perm room name).trans ?_
  rw [roster_without, dropPeer_comm]
  exact ((h.others_perm room name).filter _).symm

/-- When a user has joined, the others of somebody else are those who were others before, and the joiner. -/
theorem others_joinedBy {h : Hub} {room : String} (hdistinct : (h.rooms.members room).Nodup) {user name : UserId}
    (hname : user ≠ name) (peer : Peer) :
    ((h.joinedBy room user peer).others room name).Perm (addPeer (h.others room name) ⟨user, peer.name⟩) := by
  have hlast : dropPeer [(⟨user, peer.name⟩ : PeerSummary)] name = [⟨user, peer.name⟩] := by simp [dropPeer, hname]
  have hrest := ((h.others_perm room name).filter (·.user != user)).symm
  refine ((h.joinedBy room user peer).others_perm room name).trans ?_
  refine ((roster_joinedBy hdistinct user peer).filter _).trans ?_
  rw [addPeer, List.filter_append, ← dropPeer, ← dropPeer, ← dropPeer, hlast, dropPeer_comm]
  exact hrest.append_right _

/-- The joiner has the same others as before. -/
theorem others_joiner {h : Hub} {room : String} (hdistinct : (h.rooms.members room).Nodup) (user : UserId)
    (peer : Peer) : ((h.joinedBy room user peer).others room user).Perm (h.others room user) := by
  refine ((h.joinedBy room user peer).others_perm room user).trans ?_
  refine (((roster_joinedBy hdistinct user peer).filter _).trans ?_).trans (h.others_perm room user).symm
  simp [addPeer, dropPeer]

end Hub

/-! ## What the peers are told -/

/-- Exactly these peers are known, in some order. -/
def Knows (known : Option (List PeerSummary)) (peers : List PeerSummary) : Prop :=
  ∃ seen, known = some seen ∧ seen.Perm peers

/-- A frame among those for a connection is in a post. -/
theorem mem_framesFor {id : ConnectionId} {posts : List (ConnectionId × String)} {frame : String}
    (h : frame ∈ Shared.framesFor id posts) : ∃ p ∈ posts, p.2 = frame := by
  obtain ⟨p, hp, rfl⟩ := List.mem_map.mp h
  exact ⟨p, (List.mem_filter.mp hp).1, rfl⟩

/-- In a room that a change does not touch everybody knows the others as before. -/
theorem Knows.elsewhere {h h' : Hub} {user : UserId} (hknown : Knows known (h.others room user))
    (hsame : h'.rooms.membersOf room = h.rooms.membersOf room) {posts : List (ConnectionId × String)}
    (hquiet : ∀ p ∈ posts, ∀ known, readFrame room known p.2 = known) (id : ConnectionId) :
    Knows ((Shared.framesFor id posts).foldl (readFrame room) known) (h'.others room user) := by
  rw [foldl_readFrame_quiet, Hub.others_congr hsame]
  · exact hknown
  · intro frame hframe known
    obtain ⟨p, hp, rfl⟩ := mem_framesFor hframe
    exact hquiet p hp known

/-- After a change, the frames that a peer gets because of it tell the others, if it knew them before. -/
def Hub.Informs (h h' : Hub) (posts : List (ConnectionId × String)) : Prop :=
  ∀ room user peer, h'.rooms.get? room user = some peer → ∀ known,
    (∀ before, h.rooms.get? room user = some before → before.connection = peer.connection →
      Knows known (h.others room user)) →
    Knows ((Shared.framesFor peer.connection posts).foldl (readFrame room) known) (h'.others room user)

namespace Hub

/-- The frames of a bulletin for a connection are all the same. -/
theorem framesFor_bulletin (b : Bulletin) (id : ConnectionId) :
    Shared.framesFor id b.posts = List.replicate (b.recipients.count id) b.payload := by
  simpa using Shared.framesFor_bulletins id [b]

/-- The frames of several posts come one after the other. -/
theorem framesFor_append (id : ConnectionId) (posts more : List (ConnectionId × String)) :
    Shared.framesFor id (posts ++ more) = Shared.framesFor id posts ++ Shared.framesFor id more := by
  simp [Shared.framesFor]

/-- Posts that tell nothing about peers leave everybody informed. -/
theorem informs_quiet (h : Hub) {posts : List (ConnectionId × String)}
    (hposts : ∀ p ∈ posts, ∀ room known, readFrame room known p.2 = known) : h.Informs h posts := by
  intro room user peer hpeer known hknown
  exact (hknown peer hpeer rfl).elsewhere rfl (fun p hp => hposts p hp room) peer.connection

/-- Two changes inform the peers one after the other. -/
theorem Informs.trans {h h' h'' : Hub} {posts more : List (ConnectionId × String)} (hfirst : h.Informs h' posts)
    (hsecond : h'.Informs h'' more) : h.Informs h'' (posts ++ more) := by
  intro room user peer hpeer known hknown
  rw [framesFor_append, List.foldl_append]
  refine hsecond room user peer hpeer _ fun between hbetween hsame => ?_
  rw [← hsame]
  exact hfirst room user between hbetween known fun before hbefore hconnection =>
    hknown before hbefore (hconnection.trans hsame)

/-- A peer of a room is among those who hear of another one. -/
theorem count_audience_pos {h : Hub} {room : String} {user name : UserId} {peer : Peer}
    (hpeer : h.rooms.get? room name = some peer) (hname : name ≠ user) :
    0 < (h.audience room (some user)).count peer.connection := by
  rw [List.count_pos_iff]
  refine List.mem_map.mpr ⟨(name, peer), List.mem_filter.mpr ⟨Table.mem_of_get? hpeer, ?_⟩, rfl⟩
  simpa using hname

/-- A frame that a peer of a room gets about another one is read once at least, and reading it again is no news. -/
theorem foldl_bulletin {h : Hub} {room : String} {user name : UserId} {peer : Peer}
    (hpeer : h.rooms.get? room name = some peer) (hname : name ≠ user) {signal : Signal}
    (hsignal : signal.user = some user)
    (hagain : ∀ known, readFrame room (readFrame room known signal.text) signal.text = readFrame room known signal.text)
    (known : Option (List PeerSummary)) :
    (Shared.framesFor peer.connection (h.bulletin room signal).posts).foldl (readFrame room) known =
      readFrame room known signal.text := by
  have hcount := count_audience_pos hpeer hname
  rw [← hsignal] at hcount
  obtain ⟨n, hn⟩ := Nat.exists_eq_succ_of_ne_zero (Nat.pos_iff_ne_zero.mp hcount)
  rw [framesFor_bulletin, show (h.bulletin room signal).recipients.count peer.connection = n + 1 from hn]
  exact foldl_replicate hagain known n

/-- Whoever was in a room with a user who has left is told so. -/
theorem informs_without (h : Hub) (room : String) (user : UserId) :
    h.Informs (h.without room user) ((h.without room user).bulletin room (.userLeft room user)).posts := by
  intro other name peer hpeer known hknown
  have hstays := hpeer
  rw [without, Registry.get?_setMembers_erase] at hstays
  split at hstays
  · contradiction
  rename_i hleft
  by_cases hroom : other = room
  case pos =>
    subst hroom
    have hname : name ≠ user := fun hname => hleft ⟨rfl, hname⟩
    obtain ⟨seen, rfl, hseen⟩ := hknown peer hstays rfl
    rw [foldl_bulletin hpeer hname rfl fun _ => readFrame_userLeft_twice user, readFrame_userLeft, if_pos rfl]
    exact ⟨_, rfl, (hseen.filter _).trans (h.others_without other user name).symm⟩
  case neg =>
    have hsame : (h.without room user).rooms.membersOf other = h.rooms.membersOf other := by
      rw [without, Registry.membersOf_setMembers, if_neg hroom]
    refine (hknown peer hstays rfl).elsewhere hsame (fun p hp known => ?_) peer.connection
    obtain ⟨id, -, rfl⟩ := List.mem_map.mp hp
    exact (readFrame_userLeft user).trans (if_neg (Ne.symm hroom))

/-- The connection of a joiner is not told of the joiner, unless it is that of somebody else in the room. -/
theorem framesFor_joiner {h : Hub} {room : String} (hdistinct : ∀ room, (h.rooms.members room).Nodup) {user : UserId}
    {peer : Peer}
    (hapart : ∀ name other, h.rooms.get? room name = some other → other.connection = peer.connection → name = user)
    (signal : Signal) (hsignal : signal.user = some user) :
    Shared.framesFor peer.connection ((h.joinedBy room user peer).bulletin room signal).posts = [] := by
  have hnone : ((h.joinedBy room user peer).audience room (some user)).count peer.connection = 0 := by
    rw [List.count_eq_zero]
    intro hmem
    obtain ⟨⟨name, other⟩, hentry, hconnection⟩ := List.mem_map.mp hmem
    obtain ⟨hmember, hname⟩ := List.mem_filter.mp hentry
    have hne : name ≠ user := by simpa using hname
    have hother := Table.get?_of_mem (Registry.nodup_members_register hdistinct room room user peer) hmember
    rw [show Table.get? name _ = (h.rooms.register room user peer).get? room name from rfl, Registry.get?_register,
      if_neg (by simp [hne])] at hother
    exact hne (hapart name other hother hconnection)
  rw [framesFor_bulletin, bulletin, hsignal, hnone, List.replicate_zero]

/-- A joiner is told of the others, and they of the joiner. -/
theorem informs_joinedBy {h : Hub} {room : String} (hdistinct : ∀ room, (h.rooms.members room).Nodup) {user : UserId}
    {peer : Peer}
    (hapart : ∀ name other, h.rooms.get? room name = some other → other.connection = peer.connection → name = user) :
    h.Informs (h.joinedBy room user peer)
      ((peer.connection, (Signal.roomUsers room (h.others room user)).text) ::
        ((h.joinedBy room user peer).bulletin room (.userJoined room user peer.name)).posts) := by
  intro other name found hfound known hknown
  have hbefore := hfound
  rw [joinedBy, Registry.get?_register] at hbefore
  by_cases hroom : other = room
  case neg =>
    have hsame : (h.joinedBy room user peer).rooms.membersOf other = h.rooms.membersOf other := by
      rw [joinedBy, Registry.membersOf_register, if_neg hroom]
    rw [if_neg fun hjoined => hroom hjoined.1] at hbefore
    refine (hknown found hbefore rfl).elsewhere hsame (fun p hp known => ?_) found.connection
    rcases List.mem_cons.mp hp with rfl | hp
    · exact (readFrame_roomUsers _).trans (if_neg (Ne.symm hroom))
    · obtain ⟨id, -, rfl⟩ := List.mem_map.mp hp
      exact (readFrame_userJoined user peer.name).trans (if_neg (Ne.symm hroom))
  subst hroom
  by_cases hname : name = user
  case pos =>
    -- the joiner gets the list, and nothing else
    subst hname
    rw [if_pos ⟨rfl, rfl⟩, Option.some.injEq] at hbefore
    subst hbefore
    rw [Shared.framesFor, List.filter_cons_of_pos (by simp), List.map_cons, ← Shared.framesFor,
      framesFor_joiner hdistinct hapart _ rfl, List.foldl_cons, List.foldl_nil, readFrame_roomUsers, if_pos rfl]
    exact ⟨_, rfl, (others_joiner (hdistinct other) name peer).symm⟩
  case neg =>
    -- the list is for the connection of the joiner only
    rw [if_neg fun hjoined => hname hjoined.2] at hbefore
    have hother : peer.connection ≠ found.connection := fun hsame =>
      hname (hapart name found hbefore hsame.symm)
    obtain ⟨seen, rfl, hseen⟩ := hknown found hbefore rfl
    rw [Shared.framesFor, List.filter_cons_of_neg (by simpa using hother), ← Shared.framesFor,
      foldl_bulletin hfound hname rfl fun _ => readFrame_userJoined_twice user peer.name, readFrame_userJoined,
      if_pos rfl]
    refine ⟨_, rfl, List.Perm.trans ?_ (others_joinedBy (hdistinct other) (Ne.symm hname) peer).symm⟩
    exact (hseen.filter _).append_right _

/-- Whoever was in a room with a user who is taken out is told so. -/
theorem informs_removal (h : Hub) (room : String) (user : UserId) (condition : ConnectionId → Bool) :
    h.Informs (h.removal room user condition).1 ((h.removal room user condition).2.flatMap (·.posts)) := by
  unfold removal
  split
  · split
    · simpa using h.informs_without room user
    · exact h.informs_quiet (by simp)
  · exact h.informs_quiet (by simp)

/-- Whoever was in a room with a user who is taken out of several is told so. -/
theorem informs_removals (h : Hub) (user : UserId) (condition : ConnectionId → Bool) (rooms : List String) :
    h.Informs (h.removals user condition rooms).1 ((h.removals user condition rooms).2.flatMap (·.posts)) := by
  induction rooms generalizing h with
  | nil => exact h.informs_quiet (by simp [removals])
  | cons room rest ih =>
    simp only [removals, List.flatMap_append]
    exact (h.informs_removal room user condition).trans (ih _)

/-- The peers in the rooms are there on connections of their own. -/
def Owned (h : Hub) (s : Shared) : Prop :=
  ∀ room user peer, h.rooms.get? room user = some peer →
    ∃ c, s.connection? peer.connection = some c ∧ c.user = user

/-- A peer is the user of its connection. -/
theorem Owned.userOf {h : Hub} {s : Shared} (howned : h.Owned s) {room : String} {user : UserId} {peer : Peer}
    (hpeer : h.rooms.get? room user = some peer) : s.userOf peer.connection = user := by
  obtain ⟨c, hc, huser⟩ := howned room user peer hpeer
  exact (Shared.userOf_of_connection? hc).trans huser

/-- A call that is permitted informs the peers. -/
theorem informs_answer {h : Hub} {s : Shared} (hdistinct : ∀ room, (h.rooms.members room).Nodup) (howned : h.Owned s)
    {call : Call} (hcall : call.Permitted s) : h.Informs (h.answer call).1 (h.answer call).2 := by
  cases call with
  | join room user name connection =>
    by_cases hfull : h.isFullFor room user = true
    · simp only [answer, if_pos hfull]
      refine h.informs_quiet fun p hp room known => ?_
      rw [List.mem_singleton.mp hp]
      exact readFrame_error _
    · simp only [answer, if_neg hfull]
      refine informs_joinedBy hdistinct fun name other hother hconnection => ?_
      rw [← howned.userOf hother, hconnection]
      exact hcall.symm
  | leave room user => exact h.informs_removal room user _
  | relay room sender target signal =>
    refine h.informs_quiet fun p hp room known => ?_
    simp only [answer] at hp
    split at hp
    · rw [List.mem_singleton.mp hp]
      exact readFrame_relay hcall.1 hcall.2 sender target
    · contradiction

end Hub

end Parlor.Signaling
