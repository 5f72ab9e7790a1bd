import Parlor.Proofs.Chat.WiredRuns
import Parlor.Proofs.Game.WiredRuns
import Parlor.Proofs.Signaling.WiredRuns

/-!
# Delivery over the bus

Each of the three hubs is run twice from the same start: without a bus, and wired to a bus that goes up and
down between the operations and is drained after each of them. Without real numbers the queues of all
connections are the same in the end, and so after each operation on the way.

Neither of the two runs has to go through the rooms of a hub in the order of the other. That makes no difference
to sockets that are in one room, and at the end of a game hub to players who have seats in one room.
-/

namespace Parlor

open Json

/--
A hub that is wired to a bus, up or down, puts the same frames into the same queues in the same order as one
that is not wired. The bus has to keep what one operation publishes until it is drained.
-/
theorem wired_queues_alike :
    (∀ (t : Game.Site) (course : List (Bool × Game.Operation)) (wired unwired : Game.Site), t.hub.wiring = {} →
      t.shared.bus.IsPrompt → 2 ≤ t.shared.bus.capacity → (∀ e ∈ course, e.2.KeepsWiring ∧ e.2.IsWhole) →
      t.ClearFarewells (course.map (·.2)) → Runs Game.Site.MaySettle (t.meet .wire) course wired →
      Runs Game.Site.MayLead t (course.map (·.2)) unwired →
      wired.shared.connections = unwired.shared.connections) ∧
    (∀ (home : ConnectionId → String) (t : Signaling.Site) (course : List (Bool × Signaling.Operation))
        (wired unwired : Signaling.Site), (∀ connection, home connection ≠ "") → t.hub.wiring = {} →
      t.hub.KeepsTo home → t.shared.bus.IsPrompt → 1 ≤ t.shared.bus.capacity →
      (∀ e ∈ course, e.2.IsAtHome home ∧ e.2.IsWhole) → Runs Signaling.Site.MaySettle t.wire course wired →
      Runs Signaling.Site.MayLead t (course.map (·.2)) unwired →
      wired.shared.connections = unwired.shared.connections) ∧
    ∀ (t : Chat.Site) (course : List (Bool × Chat.Operation)), (∀ line, t.hub.wiring line = {}) →
      t.shared.bus.IsPrompt → 1 ≤ t.shared.bus.capacity → (∀ e ∈ course, e.2.IsPlain) →
      (t.wire.settleAll course).shared.connections = (t.applyAll (course.map (·.2))).shared.connections := by
  refine ⟨?_, ?_, ?_⟩
  · intro t course wired unwired hunwired hprompt hroom hcourse hclear hwired hlocal
    obtain ⟨wiring, bus, hwire, hdrained⟩ := Game.Site.wire_drained hunwired hprompt hroom
    rw [hwire] at hwired
    obtain ⟨bus', rfl⟩ := Game.Site.runs_rewired hunwired hdrained hcourse hclear hwired
    rw [Game.Site.runs_in_order hlocal hclear]
    rfl
  · intro home t course wired unwired hhome hunwired hkeeps hprompt hroom hcourse hwired hlocal
    obtain ⟨wiring, bus, hwire, hdrained⟩ := Signaling.Site.wire_drained hunwired hprompt hroom
    rw [hwire] at hwired
    obtain ⟨bus', rfl⟩ := Signaling.Site.runs_rewired hhome hunwired hkeeps hdrained hcourse hwired
    have hathome : ∀ op ∈ course.map (·.2), op.IsAtHome home := by
      intro op hop
      obtain ⟨e, he, rfl⟩ := List.mem_map.mp hop
      exact (hcourse e he).1
    rw [Signaling.Site.runs_in_order hhome hkeeps hathome hlocal]
    rfl
  · intro t course hunwired hprompt hroom hcourse
    obtain ⟨cw, nw, bus, hwire, hdrained⟩ := Chat.Site.wire_drained hunwired hprompt hroom
    obtain ⟨bus', hsame⟩ := Chat.Site.settleAll_rewired hunwired hdrained hcourse
    rw [hwire, hsame]
    rfl

/-! ## Two users and an outage -/

/-- What the servers share before anything has happened. -/
def idle : Shared := { timestamp := "", patience := 0, bus := .new 2, storage := { store := { clock := "" } } }

/--
The second user joins while the bus is down, and the first one chats when it is up again. In the end the hub is
shut down.
-/
def game : List (Bool × Game.Operation) :=
  [(true, .happening (.connect 1 8)), (true, .happening (.connect 2 8)), (true, .happening (.create 1 .ticTacToe)),
   (true, .happening (.register 1 1 0)), (true, .happening (.register 2 1 1)), (false, .join 1 2),
   (true, .happening (.frame 1 0 (encodeUtf8 { kind := .chat : Game.Action }.text))), (false, .happening .shutdown)]

/-- Two peers join a room, and the second one is gone while the bus is down. -/
def call : List (Bool × Signaling.Operation) :=
  [(true, .connect 1 8), (true, .connect 2 8),
   (true, .frame "hall" "ann" 0 (encodeUtf8 { kind := .join : Signaling.Signal }.text)),
   (true, .frame "hall" "bob" 1 (encodeUtf8 { kind := .join : Signaling.Signal }.text)), (false, .disconnect 1)]

/-- A member of a conversation is typing while the bus is down, and then there is a message. -/
def conversation : List (Bool × Chat.Operation) :=
  [(true, .connect 1 8), (true, .connect 2 8), (true, .register 1 0), (true, .register 2 1), (true, .join 1 7),
   (true, .join 2 7), (false, .frame 0 (encodeUtf8 { kind := .typing, conversation := some 7 : Chat.Message }.text)),
   (true, .publish 7 { kind := .message, conversation := some 7, payload := .string "hello" })]

/-- On each hub two users get through an outage what they get without a bus, and that is not nothing. -/
theorem outage_alike :
    ((((Game.Site.mk { grace := 0, winPoints := 3 } idle).meet .wire).settleAll game).shared.connections =
        ((Game.Site.mk { grace := 0, winPoints := 3 } idle).applyAll (game.map (·.2))).shared.connections ∧
      (((Game.Site.mk { grace := 0, winPoints := 3 } idle).meet .wire).settleAll game).shared.connections.values.map
        (·.waiting.length) = [4, 4]) ∧
    (((Signaling.Site.mk (.new 2) idle).wire.settleAll call).shared.connections =
        ((Signaling.Site.mk (.new 2) idle).applyAll (call.map (·.2))).shared.connections ∧
      ((Signaling.Site.mk (.new 2) idle).wire.settleAll call).shared.connections.values.map
        (·.waiting.length) = [3, 1]) ∧
    ((Chat.Site.mk {} idle).wire.settleAll conversation).shared.connections =
        ((Chat.Site.mk {} idle).applyAll (conversation.map (·.2))).shared.connections ∧
      ((Chat.Site.mk {} idle).wire.settleAll conversation).shared.connections.values.map
        (·.waiting.length) = [2, 2] := by
  have hclear : (Game.Site.mk { grace := 0, winPoints := 3 } idle).ClearFarewells (game.map (·.2)) :=
    ⟨by simp, by simp, by simp, by simp, by simp, by simp, by simp, fun _ => by decide +kernel, trivial⟩
  have hgame := wired_queues_alike.1 (.mk { grace := 0, winPoints := 3 } idle) game _ _ rfl (.inl rfl) (by decide)
    (by
      simp only [game, List.forall_mem_cons, List.not_mem_nil, false_imp_iff, implies_true, and_true]
      refine ⟨⟨trivial, trivial⟩, ⟨trivial, trivial⟩, ⟨trivial, trivial⟩, ⟨trivial, trivial⟩, ⟨trivial, trivial⟩,
        ⟨trivial, trivial⟩, ⟨trivial, fun sent hsent => ?_⟩, trivial, trivial⟩
      rw [Game.Action.IsCanonical.decode_text ⟨by rintro s ⟨⟩, .null _⟩] at hsent
      exact Except.ok.inj hsent ▸ rfl)
    hclear (.of_foldl (fun t e => ⟨_, .inOrder e.2, rfl⟩) _ _) (.of_foldl (fun t op => .inOrder op) _ _)
  have hjoin : ∀ sent, Signaling.Signal.decode (encodeUtf8 { kind := .join : Signaling.Signal }.text) = .ok sent →
      ∀ v ∈ sent.payload, v.isWhole = true := by
    intro sent hsent
    rw [Signaling.Signal.IsCanonical.decode_text ⟨by rintro s ⟨⟩, by rintro v ⟨⟩⟩] at hsent
    exact Except.ok.inj hsent ▸ by rintro v ⟨⟩
  have hcall := wired_queues_alike.2.1 (fun _ => "hall") (.mk (.new 2) idle) call _ _ (fun _ => by decide) rfl
    (by rintro room user peer ⟨⟩) (.inl rfl) (by decide)
    (by
      simp only [call, List.forall_mem_cons, List.not_mem_nil, false_imp_iff, implies_true, and_true]
      exact ⟨⟨trivial, trivial⟩, ⟨trivial, trivial⟩, ⟨rfl, hjoin⟩, ⟨rfl, hjoin⟩, trivial, trivial⟩)
    (.of_foldl (fun t e => ⟨_, .inOrder e.2, rfl⟩) _ _) (.of_foldl (fun t op => .inOrder op) _ _)
  have hchat := wired_queues_alike.2.2 (.mk {} idle) conversation (fun line => by cases line <;> rfl) (.inl rfl)
    (by decide) <| by
    simp only [conversation, List.forall_mem_cons, List.not_mem_nil, false_imp_iff, implies_true, and_true]
    refine ⟨trivial, trivial, trivial, trivial, trivial, trivial, fun sent hsent => ?_, .string _ _⟩
    rw [Chat.Message.IsCanonical.decode_text ⟨by rintro s ⟨⟩, .null _⟩] at hsent
    exact Except.ok.inj hsent ▸ rfl
  exact ⟨⟨hgame, by decide +kernel⟩, ⟨hcall, by decide +kernel⟩, hchat, by decide +kernel⟩

end Parlor
