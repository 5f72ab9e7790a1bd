import Parlor.Proofs.Game.Seats
import Mathlib.Data.List.Induction

/-!
# Seats and the rooms of a user

A hub keeps its seats twice: by room, with the connection of each user, and by user, with the rooms.
Whatever happens, the two agree, and a seat belongs to the connection that was registered last. So the
end of an older connection, however late it comes, finds no seat to leave and changes nothing.
-/

namespace Parlor.Game

open Text (Nanos)

/-! ## Two registries -/

/-- The seats of the rooms and the rooms of the users are the same pairs. -/
def Hub.Indexed (h : Hub) : Prop := h.seats.Inverse h.userRooms

/-- Taking a seat keeps the index. -/
theorem Hub.Indexed.seated {h : Hub} (hi : h.Indexed) (user : UserId) (room : RoomId) (connection : ConnectionId) :
    ({ h with
      seats := h.seats.register room user connection
      userRooms := h.userRooms.register user room () }.disarm room user).Indexed :=
  Registry.Inverse.register hi room user connection ()

/-- Leaving a seat keeps the index. -/
theorem Hub.Indexed.vacated {h : Hub} (hi : h.Indexed) (room : RoomId) (user : UserId) :
    (h.vacated room user).Indexed := by
  intro other name
  rw [Hub.vacated, Registry.contains_setMembers_erase, Registry.contains_unregister, hi other name]
  simp only [and_comm]

/-- Whatever happens, the seats and their index change together. -/
theorem Hub.Indexed.meet {t : Site} (h : t.hub.Indexed) (e : Happening) : (t.meet e).hub.Indexed := by
  cases t.meet_hub e with
  | kept wiring heq => exact heq ▸ h
  | seated user room connection _ _ heq => exact heq ▸ h.seated user room connection
  | left room connection _ _ heq => exact heq ▸ h.vacated room _
  | armed room connection r _ _ _ _ _ _ heq => exact heq ▸ h.vacated room (t.shared.userOf connection)
  | fired f _ heq => exact heq ▸ h
  | stopped _ heq => exact heq ▸ fun _ _ => rfl

namespace Site

/-- The happenings up to the last one come first. -/
theorem run_concat (t : Site) (happenings : List Happening) (e : Happening) :
    t.run (happenings ++ [e]) = (t.run happenings).meet e := by
  simp only [run, List.foldl_append, List.foldl_cons, List.foldl_nil]

/-- A hub whose seats were indexed stays so, whatever happens. -/
theorem indexed_run {t : Site} (h : t.hub.Indexed) (happenings : List Happening) :
    (t.run happenings).hub.Indexed := by
  induction happenings generalizing t with
  | nil => exact h
  | cons e happenings ih => exact ih (h.meet e)

/-! ## Whose seat it is -/

/-- The last registration of a user in a room was of a connection, and there was a seat for it. -/
def LastSeated (t : Site) (happenings : List Happening) (room : RoomId) (user : UserId) (connection : ConnectionId) :
    Prop :=
  ∃ before after, happenings = before ++ .register user room connection :: after ∧
    (t.run before).hub.canRegister user room = true ∧ ∀ other, .register user room other ∉ after

/-- Whoever has a seat can register there. -/
theorem canRegister_of_seat {h : Hub} {room : RoomId} {user : UserId} {connection : ConnectionId}
    (hseat : h.seats.get? room user = some connection) : h.canRegister user room = true := by
  rw [Hub.canRegister, Registry.contains, hseat]
  rfl

/-- A registration gives the seat to its connection if there is one, and otherwise changes nothing. -/
theorem meet_register (t : Site) (user : UserId) (room : RoomId) (connection : ConnectionId) :
    t.hub.canRegister user room = true ∧
        (t.meet (.register user room connection)).hub.seats = t.hub.seats.register room user connection ∨
      t.hub.canRegister user room = false ∧ t.meet (.register user room connection) = t := by
  by_cases hfree : t.hub.canRegister user room = true
  · exact .inl ⟨hfree, by simp only [meet, Hub.register, if_pos hfree, Hub.disarm]⟩
  · exact .inr ⟨Bool.eq_false_iff.mpr hfree, by simp only [meet, Hub.register, if_neg hfree]⟩

/-- A seat that is taken after somebody has left was taken before. -/
theorem seat_of_vacated {h : Hub} {left room : RoomId} {name user : UserId} {connection : ConnectionId}
    (hseat : (h.vacated left name).seats.get? room user = some connection) :
    h.seats.get? room user = some connection := by
  rw [Hub.vacated, Registry.get?_setMembers_erase] at hseat
  split at hseat
  case isTrue => contradiction
  case isFalse => exact hseat

/-- A seat that no happening has registered for was taken before. -/
theorem seat_of_meet {t : Site} {e : Happening} {room : RoomId} {user : UserId} {connection : ConnectionId}
    (hother : ∀ other, e ≠ .register user room other) (h : (t.meet e).hub.seats.get? room user = some connection) :
    t.hub.seats.get? room user = some connection := by
  cases t.meet_hub e with
  | kept wiring heq => rwa [heq] at h
  | seated name taken seat hregister _ heq =>
    rw [heq] at h
    change (t.hub.seats.register taken name seat).get? room user = some connection at h
    rw [Registry.get?_register, if_neg] at h
    · exact h
    · rintro ⟨rfl, rfl⟩
      exact hother seat hregister
  | left room' seat _ _ heq => exact seat_of_vacated (heq ▸ h)
  | armed room' seat r _ _ _ _ _ _ heq => exact seat_of_vacated (h := t.hub) (heq ▸ h)
  | fired f _ heq => rwa [heq] at h
  | stopped _ heq =>
    rw [heq] at h
    contradiction

/-- A seat is of the connection that just registered for it, or it is as it was and nobody registered for it. -/
theorem seat_meet {t : Site} {e : Happening} {room : RoomId} {user : UserId} {connection : ConnectionId}
    (h : (t.meet e).hub.seats.get? room user = some connection) :
    e = .register user room connection ∧ t.hub.canRegister user room = true ∨
      t.hub.seats.get? room user = some connection ∧ ∀ other, e ≠ .register user room other := by
  by_cases hevent : ∃ other, e = .register user room other
  · obtain ⟨other, rfl⟩ := hevent
    rcases t.meet_register user room other with ⟨hfree, hseats⟩ | ⟨hfull, hsame⟩
    · rw [hseats, Registry.get?_register, if_pos ⟨rfl, rfl⟩, Option.some.injEq] at h
      exact .inl ⟨by rw [h], hfree⟩
    · -- somebody seated is never refused
      rw [hsame] at h
      exact absurd (canRegister_of_seat h) (by simp [hfull])
  · exact .inr ⟨seat_of_meet (not_exists.mp hevent) h, not_exists.mp hevent⟩

/-- If nobody was seated at first, every seat is of the connection that was registered for it last. -/
theorem lastSeated_of_seat {t : Site} (hnobody : t.hub.seats = .empty) (happenings : List Happening) {room : RoomId}
    {user : UserId} {connection : ConnectionId}
    (h : (t.run happenings).hub.seats.get? room user = some connection) :
    t.LastSeated happenings room user connection := by
  induction happenings using List.reverseRecOn with
  | nil =>
    rw [run_nil, hnobody] at h
    contradiction
  | append_singleton happenings e ih =>
    rw [run_concat] at h
    rcases seat_meet h with ⟨rfl, hfree⟩ | ⟨hseat, hother⟩
    · exact ⟨happenings, [], rfl, hfree, fun _ => List.not_mem_nil⟩
    · obtain ⟨before, after, heq, hfree, hlast⟩ := ih hseat
      refine ⟨before, after ++ [e], by rw [heq, List.append_assoc, List.cons_append], hfree, fun other hmem => ?_⟩
      rcases List.mem_append.mp hmem with hmem | hmem
      · exact hlast other hmem
      · exact hother other (List.mem_singleton.mp hmem).symm

/-- A connection without a seat that leaves changes nothing. -/
theorem meet_leave_of_stale {t : Site} {room : RoomId} {connection : ConnectionId}
    (hstale : t.hub.seats.get? room (t.shared.userOf connection) ≠ some connection) :
    t.meet (.leave room connection) = t := by
  rcases t.hub.unseat_cases room (t.shared.userOf connection) connection with ⟨hcurrent, -⟩ | ⟨-, hunseat⟩
  · exact absurd hcurrent hstale
  · simp only [meet, Hub.unregister, hunseat]

/--
Whatever happens to a new hub, a user is seated in a room exactly if the room is one of the user's. No
room has more than two users, registering succeeds exactly if it could, and a refused registration
changes nothing. A seat is of the last connection registered for it, and when any other connection
leaves, neither the hub nor anything it shares changes.
-/
theorem seats_agree_with_index (grace : Nanos) (winPoints : Int64) (shared : Shared) (clock : String)
    (happenings : List Happening) :
    let start := opening grace winPoints shared clock
    let t := start.run happenings
    (∀ room user, t.hub.isRegistered room user = true ↔ room ∈ t.hub.roomsOf user) ∧
      (∀ room, (t.hub.peers room).Nodup ∧ (t.hub.peers room).length ≤ 2) ∧
      (∀ user room connection,
        ((∃ hub, t.hub.register user room connection = .ok hub) ↔ t.hub.canRegister user room = true) ∧
          (t.hub.canRegister user room = false → t.meet (.register user room connection) = t)) ∧
      (∀ room user connection, t.hub.seats.get? room user = some connection →
        start.LastSeated happenings room user connection) ∧
      ∀ room connection, t.hub.seats.get? room (t.shared.userOf connection) ≠ some connection →
        t.meet (.leave room connection) = t := by
  intro start t
  have hindexed : t.hub.Indexed := indexed_run (t := start) (fun _ _ => rfl) happenings
  have htidy : t.hub.Tidy := tidy_run (Hub.tidy_new grace winPoints) happenings
  refine ⟨fun room user => ?_, fun room => ⟨htidy.distinct room, htidy.bounded room⟩, fun user room connection => ?_,
    fun room user connection => lastSeated_of_seat rfl happenings, fun room connection => meet_leave_of_stale⟩
  · rw [← Hub.mem_peers_iff]
    exact hindexed.mem_iff room user
  · constructor
    · by_cases hfree : t.hub.canRegister user room = true <;> simp [Hub.register, hfree]
    · intro hfull
      rcases t.meet_register user room connection with ⟨hfree, -⟩ | ⟨-, hsame⟩
      · exact absurd hfree (by simp [hfull])
      · exact hsame

/-- A player comes with a second connection; the first one ends without a trace, and the second one leaves. -/
example :
    let old := [.connect 1 8, .connect 1 8, .register 1 5 0, .register 1 5 1]
    let t := (opening 5 3 lobby "").run old
    (t.meet (.leave 5 0)).hub.isRegistered 5 1 = true ∧ (t.meet (.leave 5 1)).hub.roomsOf 1 = [] := by
  decide +kernel

end Site

end Parlor.Game
