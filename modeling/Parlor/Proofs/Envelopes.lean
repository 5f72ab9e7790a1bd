import Parlor.Chat.Message
import Parlor.Event
import Parlor.Game.Action
import Parlor.Proofs.Json.Fields
import Parlor.Signaling.Signal

/-!
# Envelopes on the wire

The text of an envelope is decoded as the envelope itself, and what a decoder accepts in any form is an
envelope of which this is true. Real numbers apart: of them it is known only that they are read at all
or that the text is refused, and then everything beside the payload comes back.
-/

namespace Parlor

open Json

namespace Envelope

/-! ## Names of kinds -/

section Kinds

variable {κ : Type} {known : List κ} {name : κ → String} {other : String → κ}

/-- A name that is not known is kept as it is. -/
theorem ofName_unknown {s : String} (h : s ∉ known.map name) :
    (known.find? (name · == s)).getD (other s) = other s := by
  have hnone : known.find? (name · == s) = none := by
    rw [List.find?_eq_none]
    intro k hk hname
    exact h (List.mem_map.mpr ⟨k, hk, by simpa using hname⟩)
  rw [hnone, Option.getD_none]

/-- A known name is not taken for an unknown one. -/
theorem notMem_known_of_ofName (hinj : ∀ s t, other s = other t → s = t) (hknown : ∀ k ∈ known, ∀ t, k ≠ other t)
    {s t : String} (h : (known.find? (name · == s)).getD (other s) = other t) : t ∉ known.map name := by
  cases hfind : known.find? (name · == s) with
  | some k =>
    rw [hfind, Option.getD_some] at h
    exact absurd h (hknown k (List.mem_of_find?_eq_some hfind) t)
  | none =>
    rw [hfind, Option.getD_none] at h
    obtain rfl := hinj s t h
    intro hmem
    obtain ⟨k, hk, hname⟩ := List.mem_map.mp hmem
    rw [List.find?_eq_none] at hfind
    exact hfind k hk (by simpa using hname)

end Kinds

/-! ## Members of envelopes -/

/-- The member of an identifier has its own name, if there is one. -/
theorem wordMember_names (name : String) (id : Option UInt64) :
    ((wordMember name id).map (·.1)).Sublist [name] := by
  cases id with
  | none => exact List.nil_sublist _
  | some w => exact List.Sublist.refl _

/-- The member of a text has its own name, if there is one. -/
theorem textMember_names (name : String) (s : Option String) :
    ((textMember name s).map (·.1)).Sublist [name] := by
  cases s with
  | none => exact List.nil_sublist _
  | some s => exact List.Sublist.refl _

/-- The text of a record is decoded as what its members make of the missing record. -/
theorem readWhole_text {σ : Type} {fields : List (RecordField σ)} {start : σ} {members : List (String × Value)}
    {result : Except Fault σ} (h : Fills fields start members result)
    (hnames : (members.map (·.1)).Sublist (fields.map (·.name))) (hnodup : (fields.map (·.name)).Nodup)
    (hrequired : ∀ field ∈ fields, field.required = true → field.name ∈ members.map (·.1)) :
    readWhole (readRecord fields start) (encodeUtf8 (Value.object members).text) = result := by
  rw [Value.text, encodeUtf8_ofList]
  exact (h.readRecord (hnodup.sublist hnames) hrequired).readWhole

/-- What every field of a record keeps is true of a record that was decoded. -/
theorem readWhole_record {σ : Type} {fields : List (RecordField σ)} {P : σ → Prop} {start record : σ} {bs : Bytes}
    (hfields : ∀ field ∈ fields, Preserves P field.read) (hstart : P start)
    (h : readWhole (readRecord fields start) bs = .ok record) : P record := by
  cases hread : readRecord fields start bs with
  | error f => simp [readWhole, hread, bind, Except.bind] at h
  | ok p =>
    have hkept := readRecord_preserves hfields _ _ _ _ hstart hread
    cases hend : readEnd p.2 with
    | error f => simp [readWhole, hread, hend, bind, Except.bind] at h
    | ok u =>
      simp only [readWhole, hread, hend, bind, Except.bind, Except.ok.injEq] at h
      exact h ▸ hkept

/-- A message for a person is a payload that comes back. -/
theorem isPlain_notice (message : String) : (notice message).IsPlain payloadDepth := by
  refine .object (List.pairwise_singleton _ _) fun m hm => ?_
  rw [List.mem_singleton.mp hm]
  exact .string _ message

end Envelope

/-! ## Chat messages -/

namespace Chat

/-- A kind that hides no known kind behind its name. -/
def Kind.IsCanonical (k : Kind) : Prop := ∀ s, k = .other s → s ∉ Kind.known.map Kind.name

/-- The name of a canonical kind stands for it. -/
theorem Kind.ofName_name {k : Kind} (h : k.IsCanonical) : Kind.ofName k.name = k := by
  cases k with
  | other s => exact Envelope.ofName_unknown (h s rfl)
  | _ => rfl

/-- The kind of a name is canonical. -/
theorem Kind.isCanonical_ofName (name : String) : (Kind.ofName name).IsCanonical :=
  fun _ h => Envelope.notMem_known_of_ofName (fun _ _ => Kind.other.inj) (by simp [Kind.known]) h

namespace Message

/-- A message that keeps its form on the wire. -/
structure IsCanonical (m : Message) : Prop where
  kind : m.kind.IsCanonical
  payload : m.payload.IsPlain Envelope.payloadDepth

/-- The text of a message is decoded as the message with what is left of its kind and its payload. -/
theorem decode_text {p : Number → Prop} {m : Message} (hpayload : m.payload.Within p Envelope.payloadDepth) :
    decode (encodeUtf8 m.text) =
      m.payload.reread.map fun v => { m with kind := .ofName m.kind.name, payload := v } := by
  have hconversation := Fills.word (show fields.find? (·.name == "conversation_id") = some _ from rfl) m.conversation
    { kind := .ofName m.kind.name } rfl
  have huser := Fills.word (show fields.find? (·.name == "user_id") = some _ from rfl) m.user
    { kind := .ofName m.kind.name, conversation := m.conversation } rfl
  have hlast := Fills.one (show fields.find? (·.name == "payload") = some _ from rfl)
    (RecordField.of_takes hpayload.yields _ _ _)
    { kind := .ofName m.kind.name, conversation := m.conversation, user := m.user }
  refine Envelope.readWhole_text ((((Fills.kind rfl m.kind.name _).append hconversation).append huser).append hlast)
    ?_ (by decide) (by simp [fields, Envelope.kindField, Envelope.wordField, RecordField.of])
  rw [List.map_append, List.map_append]
  exact (((List.Sublist.refl ["type"]).append (Envelope.wordMember_names _ _)).append
    (Envelope.wordMember_names _ _)).append (List.Sublist.refl ["payload"])

/-- The text of a canonical message is decoded as that message. -/
theorem IsCanonical.decode_text {m : Message} (h : m.IsCanonical) : decode (encodeUtf8 m.text) = .ok m := by
  rw [Message.decode_text h.payload, h.payload.reread, Kind.ofName_name h.kind]
  rfl

/-- A message that was decoded has a canonical kind, and its payload nests as deep as it may. -/
theorem decode_within {bs : Bytes} {m : Message} (h : decode bs = .ok m) :
    m.kind.IsCanonical ∧ m.payload.Within Number.Fits Envelope.payloadDepth := by
  refine Envelope.readWhole_record
    (P := fun m : Message => m.kind.IsCanonical ∧ m.payload.Within Number.Fits Envelope.payloadDepth)
    (fun field hfield => ?_) ⟨Kind.isCanonical_ofName "", .null _⟩ h
  simp only [fields, List.mem_cons, List.not_mem_nil, or_false] at hfield
  rcases hfield with rfl | rfl | rfl | rfl
  · exact RecordField.of_preserves _ _ fun _ name _ _ _ hm => ⟨Kind.isCanonical_ofName name, hm.2⟩
  · exact RecordField.of_preserves _ _ fun _ _ _ _ _ hm => hm
  · exact RecordField.of_preserves _ _ fun _ _ _ _ _ hm => hm
  · exact RecordField.of_preserves _ _ fun _ _ _ _ hread hm => ⟨hm.1, readValue_within _ _ _ _ hread⟩

/-- A message that was decoded without real numbers is canonical. -/
theorem isCanonical_of_decode {bs : Bytes} {m : Message} (h : decode bs = .ok m) (hwhole : m.payload.isWhole = true) :
    m.IsCanonical := ⟨(decode_within h).1, (decode_within h).2.isPlain hwhole⟩

end Message

end Chat

/-! ## Game actions -/

namespace Game

/-- A kind that hides no known kind behind its name. -/
def ActionKind.IsCanonical (k : ActionKind) : Prop := ∀ s, k = .other s → s ∉ ActionKind.known.map ActionKind.name

/-- The name of a canonical kind stands for it. -/
theorem ActionKind.ofName_name {k : ActionKind} (h : k.IsCanonical) : ActionKind.ofName k.name = k := by
  cases k with
  | other s => exact Envelope.ofName_unknown (h s rfl)
  | _ => rfl

/-- The kind of a name is canonical. -/
theorem ActionKind.isCanonical_ofName (name : String) : (ActionKind.ofName name).IsCanonical :=
  fun _ h => Envelope.notMem_known_of_ofName (fun _ _ => ActionKind.other.inj) (by simp [ActionKind.known]) h

namespace Action

/-- An action that keeps its form on the wire. -/
structure IsCanonical (a : Action) : Prop where
  kind : a.kind.IsCanonical
  payload : a.payload.IsPlain Envelope.payloadDepth

/-- The text of an action is decoded as the action with what is left of its kind and its payload. -/
theorem decode_text {p : Number → Prop} {a : Action} (hpayload : a.payload.Within p Envelope.payloadDepth) :
    decode (encodeUtf8 a.text) =
      a.payload.reread.map fun v => { a with kind := .ofName a.kind.name, payload := v } := by
  have hroom := Fills.word (show fields.find? (·.name == "room_id") = some _ from rfl) a.room
    { kind := .ofName a.kind.name } rfl
  have huser := Fills.word (show fields.find? (·.name == "user_id") = some _ from rfl) a.user
    { kind := .ofName a.kind.name, room := a.room } rfl
  have hlast := Fills.one (show fields.find? (·.name == "payload") = some _ from rfl)
    (RecordField.of_takes hpayload.yields _ _ _)
    { kind := .ofName a.kind.name, room := a.room, user := a.user }
  refine Envelope.readWhole_text ((((Fills.kind rfl a.kind.name _).append hroom).append huser).append hlast)
    ?_ (by decide) (by simp [fields, Envelope.kindField, Envelope.wordField, RecordField.of])
  rw [List.map_append, List.map_append]
  exact (((List.Sublist.refl ["type"]).append (Envelope.wordMember_names _ _)).append
    (Envelope.wordMember_names _ _)).append (List.Sublist.refl ["payload"])

/-- The text of a canonical action is decoded as that action. -/
theorem IsCanonical.decode_text {a : Action} (h : a.IsCanonical) : decode (encodeUtf8 a.text) = .ok a := by
  rw [Action.decode_text h.payload, h.payload.reread, ActionKind.ofName_name h.kind]
  rfl

/-- An action that was decoded has a canonical kind, and its payload nests as deep as it may. -/
theorem decode_within {bs : Bytes} {a : Action} (h : decode bs = .ok a) :
    a.kind.IsCanonical ∧ a.payload.Within Number.Fits Envelope.payloadDepth := by
  refine Envelope.readWhole_record
    (P := fun a : Action => a.kind.IsCanonical ∧ a.payload.Within Number.Fits Envelope.payloadDepth)
    (fun field hfield => ?_) ⟨ActionKind.isCanonical_ofName "", .null _⟩ h
  simp only [fields, List.mem_cons, List.not_mem_nil, or_false] at hfield
  rcases hfield with rfl | rfl | rfl | rfl
  · exact RecordField.of_preserves _ _ fun _ name _ _ _ ha => ⟨ActionKind.isCanonical_ofName name, ha.2⟩
  · exact RecordField.of_preserves _ _ fun _ _ _ _ _ ha => ha
  · exact RecordField.of_preserves _ _ fun _ _ _ _ _ ha => ha
  · exact RecordField.of_preserves _ _ fun _ _ _ _ hread ha => ⟨ha.1, readValue_within _ _ _ _ hread⟩

/-- An action that was decoded without real numbers is canonical. -/
theorem isCanonical_of_decode {bs : Bytes} {a : Action} (h : decode bs = .ok a) (hwhole : a.payload.isWhole = true) :
    a.IsCanonical := ⟨(decode_within h).1, (decode_within h).2.isPlain hwhole⟩

end Action

end Game

/-! ## Signals -/

namespace Signaling

/-- A kind that hides no known kind behind its name. -/
def Kind.IsCanonical (k : Kind) : Prop := ∀ s, k = .other s → s ∉ Kind.known.map Kind.name

/-- The name of a canonical kind stands for it. -/
theorem Kind.ofName_name {k : Kind} (h : k.IsCanonical) : Kind.ofName k.name = k := by
  cases k with
  | other s => exact Envelope.ofName_unknown (h s rfl)
  | _ => rfl

/-- The kind of a name is canonical. -/
theorem Kind.isCanonical_ofName (name : String) : (Kind.ofName name).IsCanonical :=
  fun _ h => Envelope.notMem_known_of_ofName (fun _ _ => Kind.other.inj) (by simp [Kind.known]) h

namespace Signal

/-- A payload that is there is no null and has a shape. -/
def PayloadWithin (p : Number → Prop) (payload : Option Value) : Prop :=
  ∀ v ∈ payload, v ≠ .null ∧ v.Within p Envelope.payloadDepth

/-- A signal that keeps its form on the wire. -/
structure IsCanonical (s : Signal) : Prop where
  kind : s.kind.IsCanonical
  payload : PayloadWithin Number.IsWord s.payload

/-- What is left of a payload that may be missing. -/
def rereadPayload : Option Value → Except Fault (Option Value)
  | none => .ok none
  | some v => v.reread.map some

/-- The text of a signal is decoded as the signal with what is left of its kind and its payload. -/
theorem decode_text {p : Number → Prop} {s : Signal} (hpayload : PayloadWithin p s.payload) :
    decode (encodeUtf8 s.text) =
      (rereadPayload s.payload).map fun v => { s with kind := .ofName s.kind.name, payload := v } := by
  have hroom := Fills.text (show fields.find? (·.name == "room_id") = some _ from rfl) s.room
    { kind := .ofName s.kind.name } rfl
  have huser := Fills.word (show fields.find? (·.name == "user_id") = some _ from rfl) s.user
    { kind := .ofName s.kind.name, room := s.room } rfl
  have htarget := Fills.word (show fields.find? (·.name == "target_id") = some _ from rfl) s.target
    { kind := .ofName s.kind.name, room := s.room, user := s.user } rfl
  have husername := Fills.text (show fields.find? (·.name == "username") = some _ from rfl) s.username
    { kind := .ofName s.kind.name, room := s.room, user := s.user, target := s.target } rfl
  have hlast : Fills fields
      { kind := .ofName s.kind.name, room := s.room, user := s.user, target := s.target, username := s.username }
      (s.payload.map fun v => ("payload", v)).toList
      ((rereadPayload s.payload).map fun v => { s with kind := .ofName s.kind.name, payload := v }) := by
    cases hv : s.payload with
    | none => exact Fills.nil _
    | some v =>
      obtain ⟨hnull, hwithin⟩ := hpayload v hv
      have hone := Fills.one (show fields.find? (·.name == "payload") = some _ from rfl)
        (RecordField.of_takes (readOptional_yields hnull hwithin.yields) _ _ _)
        { kind := .ofName s.kind.name, room := s.room, user := s.user, target := s.target, username := s.username }
      exact hone
  refine Envelope.readWhole_text ((((((Fills.kind rfl s.kind.name _).append hroom).append huser).append
    htarget).append husername).append hlast) ?_ (by decide)
    (by simp [fields, Envelope.kindField, Envelope.wordField, Envelope.textField, RecordField.of])
  have hname : ((s.payload.map fun v => ("payload", v)).toList.map (·.1)).Sublist ["payload"] := by
    cases s.payload with
    | none => exact List.nil_sublist _
    | some v => exact List.Sublist.refl _
  simp only [List.map_append]
  exact (((((List.Sublist.refl ["type"]).append (Envelope.textMember_names _ _)).append
    (Envelope.wordMember_names _ _)).append (Envelope.wordMember_names _ _)).append
    (Envelope.textMember_names _ _)).append hname

/-- The text of a canonical signal is decoded as that signal. -/
theorem IsCanonical.decode_text {s : Signal} (h : s.IsCanonical) : decode (encodeUtf8 s.text) = .ok s := by
  have hreread : rereadPayload s.payload = .ok s.payload := by
    cases hv : s.payload with
    | none => rfl
    | some v =>
      rw [rereadPayload, Value.IsPlain.reread (h.payload v hv).2]
      rfl
  rw [Signal.decode_text h.payload, hreread, Kind.ofName_name h.kind]
  rfl

/-- A payload that was read, if there is one, is no null. -/
theorem readPayload_within {bs rest : Bytes} {payload : Option Value}
    (h : readOptional (readValue Envelope.payloadDepth) bs = .ok (payload, rest)) :
    PayloadWithin Number.Fits payload := by
  unfold readOptional at h
  split at h
  · cases hword : readWord nullTail ‹Bytes› with
    | error f => simp [hword, bind, Except.bind] at h
    | ok after =>
      simp only [hword, bind, Except.bind, Except.ok.injEq, Prod.mk.injEq] at h
      simp [PayloadWithin, ← h.1]
  · rename_i hne
    cases hread : readValue Envelope.payloadDepth (skipBlanks bs) with
    | error f => simp [hread, bind, Except.bind] at h
    | ok p =>
      simp only [hread, bind, Except.bind, Except.ok.injEq, Prod.mk.injEq] at h
      intro v hv
      rw [← h.1, Option.mem_some_iff] at hv
      subst hv
      refine ⟨fun hnull => ?_, readValue_within _ _ _ _ hread⟩
      obtain ⟨after, hafter⟩ := readValue_null (show _ = .ok (.null, p.2) from hread.trans (by rw [← hnull]))
      rw [skipBlanks_skipBlanks] at hafter
      exact hne after hafter

/-- A signal that was decoded has a canonical kind, and its payload nests as deep as it may. -/
theorem decode_within {bs : Bytes} {s : Signal} (h : decode bs = .ok s) :
    s.kind.IsCanonical ∧ PayloadWithin Number.Fits s.payload := by
  refine Envelope.readWhole_record
    (P := fun s : Signal => s.kind.IsCanonical ∧ PayloadWithin Number.Fits s.payload)
    (fun field hfield => ?_) ⟨Kind.isCanonical_ofName "", by simp [PayloadWithin]⟩ h
  simp only [fields, List.mem_cons, List.not_mem_nil, or_false] at hfield
  rcases hfield with rfl | rfl | rfl | rfl | rfl | rfl
  · exact RecordField.of_preserves _ _ fun _ name _ _ _ hs => ⟨Kind.isCanonical_ofName name, hs.2⟩
  · exact RecordField.of_preserves _ _ fun _ _ _ _ _ hs => hs
  · exact RecordField.of_preserves _ _ fun _ _ _ _ _ hs => hs
  · exact RecordField.of_preserves _ _ fun _ _ _ _ _ hs => hs
  · exact RecordField.of_preserves _ _ fun _ _ _ _ _ hs => hs
  · exact RecordField.of_preserves _ _ fun _ _ _ _ hread hs => ⟨hs.1, readPayload_within hread⟩

/-- A signal that was decoded without real numbers is canonical. -/
theorem isCanonical_of_decode {bs : Bytes} {s : Signal} (h : decode bs = .ok s)
    (hwhole : ∀ v ∈ s.payload, v.isWhole = true) : s.IsCanonical :=
  ⟨(decode_within h).1, fun v hv => ⟨((decode_within h).2 v hv).1, ((decode_within h).2 v hv).2.isPlain (hwhole v hv)⟩⟩

end Signal

end Signaling

/-! ## Events -/

namespace Event

/-- An event that keeps its form on the wire. -/
structure IsCanonical (e : Event) : Prop where
  payload : (Value.object e.payload).IsPlain Envelope.payloadDepth

/-- A printed object is read as its members. -/
theorem readMembers_yields {depth : Nat} {members : List (String × Value)}
    (h : (Value.object members).IsPlain depth) :
    Yields (readMembers depth) (charBytes (Value.object members).chars) (.ok members) := by
  intro rest hrest
  cases h with
  | @object depth _ hordered hmembers =>
    obtain ⟨bs, hbytes, hread⟩ := readEntries_members fun m hm => (hmembers m hm).yields
    rw [hbytes, List.cons_append, readMembers, skipBlanks_of_head rfl]
    simp only [if_true]
    rw [hread rest hrest,
      rereadMembers_eq_ok (show OrderedMembers ([] ++ _) from hordered) fun m hm =>
        Value.IsPlain.reread (hmembers m hm)]
    rfl

/-- An event keeps its form on the wire with a further detail. -/
theorem IsCanonical.insert {e : Event} (h : e.IsCanonical) (name : String) {v : Value}
    (hv : v.IsPlain (Envelope.payloadDepth - 1)) : (e.insert name v).IsCanonical := by
  obtain ⟨hpayload⟩ := h
  cases hpayload with
  | object hordered hmembers =>
    refine ⟨.object (hordered.insert name v) fun m hm => ?_⟩
    obtain rfl | hm := mem_insertMember hm
    · exact hv
    · exact hmembers m hm

/-- The text of a canonical event is decoded as that event. -/
theorem IsCanonical.decode_text {e : Event} (h : e.IsCanonical) : decode (encodeUtf8 e.text) = .ok e := by
  have hlast := Fills.one (show fields.find? (·.name == "payload") = some _ from rfl)
    (RecordField.of_takes (readMembers_yields h.payload) _ _ _) { type := e.type }
  refine Envelope.readWhole_text ((Fills.kind rfl e.type _).append hlast) (List.Sublist.refl _) (by decide) ?_
  simp [fields, Envelope.kindField, RecordField.of]

/-- An event that was decoded without real numbers is canonical. -/
theorem isCanonical_of_decode {bs : Bytes} {e : Event} (h : decode bs = .ok e)
    (hwhole : (Value.object e.payload).isWhole = true) : e.IsCanonical := by
  refine ⟨Value.Within.isPlain ?_ hwhole⟩
  refine Envelope.readWhole_record
    (P := fun e : Event => (Value.object e.payload).Within Number.Fits Envelope.payloadDepth)
    (fun field hfield => ?_) (.object (show OrderedMembers [] from .nil) (by simp)) h
  simp only [fields, List.mem_cons, List.not_mem_nil, or_false] at hfield
  rcases hfield with rfl | rfl
  · exact RecordField.of_preserves _ _ fun _ _ _ _ _ he => he
  · exact RecordField.of_preserves _ _ fun _ _ _ _ hread _ => readMembers_within _ _ _ _ hread

end Event

/-! ## All envelopes -/

namespace Envelope

/--
Every canonical envelope is decoded from its text, and every envelope that a decoder accepts without real
numbers is canonical, so that printing and decoding it again changes nothing.
-/
theorem codecs_inverse :
    ((∀ m : Chat.Message, m.IsCanonical → Chat.Message.decode (encodeUtf8 m.text) = .ok m) ∧
      (∀ a : Game.Action, a.IsCanonical → Game.Action.decode (encodeUtf8 a.text) = .ok a) ∧
      (∀ s : Signaling.Signal, s.IsCanonical → Signaling.Signal.decode (encodeUtf8 s.text) = .ok s) ∧
      ∀ e : Event, e.IsCanonical → Event.decode (encodeUtf8 e.text) = .ok e) ∧
    ((∀ bs m, Chat.Message.decode bs = .ok m → m.payload.isWhole = true →
        m.IsCanonical ∧ Chat.Message.decode (encodeUtf8 m.text) = .ok m) ∧
      (∀ bs a, Game.Action.decode bs = .ok a → a.payload.isWhole = true →
        a.IsCanonical ∧ Game.Action.decode (encodeUtf8 a.text) = .ok a) ∧
      (∀ bs s, Signaling.Signal.decode bs = .ok s → (∀ v ∈ s.payload, v.isWhole = true) →
        s.IsCanonical ∧ Signaling.Signal.decode (encodeUtf8 s.text) = .ok s) ∧
      ∀ bs e, Event.decode bs = .ok e → (Value.object e.payload).isWhole = true →
        e.IsCanonical ∧ Event.decode (encodeUtf8 e.text) = .ok e) := by
  refine ⟨⟨?_, ?_, ?_, ?_⟩, ?_, ?_, ?_, ?_⟩
  · exact fun m hm => hm.decode_text
  · exact fun a ha => ha.decode_text
  · exact fun s hs => hs.decode_text
  · exact fun e he => he.decode_text
  · intro bs m hm hwhole
    have hcanonical := Chat.Message.isCanonical_of_decode hm hwhole
    exact ⟨hcanonical, hcanonical.decode_text⟩
  · intro bs a ha hwhole
    have hcanonical := Game.Action.isCanonical_of_decode ha hwhole
    exact ⟨hcanonical, hcanonical.decode_text⟩
  · intro bs s hs hwhole
    have hcanonical := Signaling.Signal.isCanonical_of_decode hs hwhole
    exact ⟨hcanonical, hcanonical.decode_text⟩
  · intro bs e he hwhole
    have hcanonical := Event.isCanonical_of_decode he hwhole
    exact ⟨hcanonical, hcanonical.decode_text⟩

/-- The bytes of an array with an escape in a name, and with an object where a name occurs twice. -/
def typingBytes : Bytes :=
  [0x5b, 0x22, 0x74, 0x79, 0x70, 0x5c, 0x75, 0x30, 0x30, 0x36, 0x39, 0x6e, 0x67, 0x22, 0x2c, 0x20, 0x37, 0x2c,
   0x20, 0x6e, 0x75, 0x6c, 0x6c, 0x2c, 0x20, 0x7b, 0x22, 0x62, 0x22, 0x3a, 0x31, 0x2c, 0x22, 0x61, 0x22, 0x3a,
   0x32, 0x2c, 0x22, 0x62, 0x22, 0x3a, 0x2d, 0x33, 0x7d, 0x5d]

/-- The message in `["typ\u0069ng", 7, null, {"b":1,"a":2,"b":-3}]`. -/
def typing : Chat.Message :=
  { kind := .typing, conversation := some 7, payload := .object [("a", .int 2), ("b", .int (-3))] }

/-- The notice that a user is there. -/
def presence : Event := { type := "presence", payload := [("online", .bool true), ("user_id", .word 7)] }

/-- The notice that a user is there is canonical. -/
theorem isCanonical_presence : presence.IsCanonical := by
  refine ⟨.object (List.pairwise_pair.mpr (by decide)) fun m hm => ?_⟩
  simp only [presence, List.mem_cons, List.not_mem_nil, or_false] at hm
  rcases hm with rfl | rfl
  · exact .bool _ true
  · exact isPlain_word 7 _

/-- A message that was read from an array, two envelopes of the server and a notice are decoded from their texts. -/
theorem codecs_inverse_typing :
    (Chat.Message.decode typingBytes = .ok typing ∧ typing.IsCanonical ∧
      Chat.Message.decode (encodeUtf8 typing.text) = .ok typing) ∧
    Game.Action.decode (encodeUtf8 (Game.Action.shutdown 1).text) = .ok (.shutdown 1) ∧
    Signaling.Signal.decode (encodeUtf8 (Signaling.Signal.error "hall" "full").text) = .ok (.error "hall" "full") ∧
    Event.decode (encodeUtf8 presence.text) = .ok presence := by
  have hread : Chat.Message.decode typingBytes = .ok typing := rfl
  have hcanonical := (codecs_inverse.2.1 typingBytes typing hread rfl).1
  refine ⟨⟨hread, hcanonical, codecs_inverse.1.1 typing hcanonical⟩, ?_, ?_, ?_⟩
  · exact codecs_inverse.1.2.1 _ ⟨by simp [Game.ActionKind.IsCanonical, Game.Action.shutdown, Game.Action.inRoom],
      isPlain_notice _⟩
  · refine codecs_inverse.1.2.2.1 _ ⟨by simp [Signaling.Kind.IsCanonical, Signaling.Signal.error,
      Signaling.Signal.inRoom], fun v hv => ?_⟩
    rw [← Option.mem_some_iff.mp hv]
    exact ⟨by simp [notice], isPlain_notice _⟩
  · exact codecs_inverse.1.2.2.2 presence isCanonical_presence

end Envelope

end Parlor
