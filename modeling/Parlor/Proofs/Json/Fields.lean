import Parlor.Envelope
import Parlor.Proofs.Json.Values

/-!
# Printed records

A record that is printed as an object of its own fields is read by storing field after field. The names
are distinct, so no member is refused as met before, and what a field stores depends on its value alone.
-/

namespace Parlor.Json

variable {σ α : Type} {fields : List (RecordField σ)}

/-! ## Single fields -/

/-- A field reads a printed value up to its end and stores what it has read. -/
def RecordField.Takes (field : RecordField σ) (v : Value) (store : σ → Except Fault σ) : Prop :=
  ∀ record, Yields (field.read record) (charBytes v.chars) (store record)

/-- A field takes the values that its reader reads. -/
theorem RecordField.of_takes {read : Bytes → Except Fault (α × Bytes)} {v : Value} {result : Except Fault α}
    (h : Yields read (charBytes v.chars) result) (name : String) (required : Bool) (store : α → σ → σ) :
    (RecordField.of name required read store).Takes v fun record => result.map (store · record) := by
  intro record rest hrest
  simp only [RecordField.of, h rest hrest]
  cases result <;> rfl

/-- A printed text is read as that text. -/
theorem readText_yields (s : String) : Yields readText (charBytes (Value.string s).chars) (.ok s) := by
  intro rest _
  rw [Value.chars, charBytes_quotedChars, List.cons_append, readText, skipBlanks_of_head rfl, List.append_assoc,
    List.singleton_append]
  simp only [if_true, readString_quoted]
  rfl

/-- A word fits the range of unsigned words. -/
theorem wordOfInt?_toNat (w : UInt64) : wordOfInt? w.toNat = some w := by
  have hle : (w.toNat : Int) ≤ Word.unsignedHigh := by
    have hlt : w.toNat < UInt64.size := w.toNat_lt_size
    rw [Word.unsignedHigh]
    rw [UInt64.size] at hlt
    omega
  rw [wordOfInt?, if_pos ⟨Int.natCast_nonneg _, hle⟩, Int.toNat_natCast, UInt64.ofNat_toNat]

/-- A word is a whole number that fits. -/
theorem isPlain_word (w : UInt64) (depth : Nat) : (Value.word w).IsPlain depth := by
  have hlt : w.toNat < UInt64.size := w.toNat_lt_size
  rw [UInt64.size] at hlt
  refine .number depth ⟨⟨?_, ?_⟩, rfl⟩
  · rw [Word.signedLow]
    omega
  · rw [Word.unsignedHigh]
    omega

/-- A printed word is read as that word. -/
theorem readUnsigned_yields (w : UInt64) : Yields readUnsigned (charBytes (Value.word w).chars) (.ok w) := by
  intro rest hrest
  have hvalue : readValue 0 (charBytes (Value.word w).chars ++ rest) = .ok (.word w, rest) := by
    rw [(isPlain_word w 0).yields rest hrest, (isPlain_word w 0).reread]
    rfl
  obtain ⟨b, bs, hbytes, hb, -⟩ := readScalar_number (.integer w.toNat)
  have hhead : isBlank b = false ∧ b ≠ 0x5b ∧ b ≠ 0x7b := by
    rcases hb with hb | rfl
    · exact ⟨(head_of_isDigit hb).1, (head_of_isDigit hb).2.1, (head_of_isDigit hb).2.2.1⟩
    · decide
  have hbytes' : charBytes (Value.word w).chars = b :: bs := by rw [Value.word, Value.chars, hbytes]
  rw [hbytes', List.cons_append] at hvalue ⊢
  rw [readValue_scalar hhead.1 hhead.2.1 hhead.2.2] at hvalue
  have hscalar : ((readScalar b (bs ++ rest)).mapError fun _ => refusal b (bs ++ rest)) =
      .ok (.number (.integer w.toNat), rest) := by
    rw [hvalue]
    rfl
  rw [readUnsigned, skipBlanks_of_head hhead.1]
  simp only [hscalar, bind, Except.bind, wordOfInt?_toNat]
  rfl

/-- What is not null is read where null would stand for none. -/
theorem readOptional_yields {read : Bytes → Except Fault (α × Bytes)} {v : Value} {result : Except Fault α}
    (hv : v ≠ .null) (h : Yields read (charBytes v.chars) result) :
    Yields (readOptional read) (charBytes v.chars) (result.map some) := by
  intro rest hrest
  obtain ⟨b, bs, hbytes, hblank, -, hnull⟩ := value_head v
  have hread := h rest hrest
  have hne : ∀ after, skipBlanks (b :: (bs ++ rest)) ≠ 0x6e :: after := by
    intro after heq
    rw [skipBlanks_of_head hblank] at heq
    exact hv (hnull (List.cons.inj heq).1)
  rw [hbytes, List.cons_append] at hread ⊢
  unfold readOptional
  split
  · exact absurd ‹_› (hne _)
  · rw [skipBlanks_of_head hblank, hread]
    cases result <;> rfl

/-! ## Records -/

/-- Stores a printed member into a record, if it is a field. -/
def storeMember (fields : List (RecordField σ)) (record : σ) (m : String × Value) : Except Fault σ :=
  match fields.find? (·.name == m.1) with
  | none => .ok record
  | some field => (field.read record (charBytes m.2.chars)).map (·.1)

/-- Printed members that are all taken by fields, and what they make of a record. -/
structure Fills (fields : List (RecordField σ)) (record : σ) (members : List (String × Value))
    (result : Except Fault σ) : Prop where
  taken : ∀ m ∈ members, ∃ field store, fields.find? (·.name == m.1) = some field ∧ field.Takes m.2 store
  stored : members.foldlM (storeMember fields) record = result

namespace Fills

variable {record : σ} {members more : List (String × Value)} {result : Except Fault σ}

/-- No members leave a record as it is. -/
theorem nil (record : σ) : Fills fields record [] (.ok record) := ⟨by simp, rfl⟩

/-- A member is stored by its field. -/
theorem one {name : String} {v : Value} {field : RecordField σ} {store : σ → Except Fault σ}
    (hfind : fields.find? (·.name == name) = some field) (htakes : field.Takes v store) (record : σ) :
    Fills fields record [(name, v)] (store record) := by
  refine ⟨fun m hm => ?_, ?_⟩
  · obtain rfl := List.mem_singleton.mp hm
    exact ⟨field, store, hfind, htakes⟩
  · have hread := htakes record [] fun b hb => by simp at hb
    rw [List.append_nil] at hread
    simp only [List.foldlM_cons, List.foldlM_nil, storeMember, hfind, hread]
    cases store record <;> rfl

/-- Members are stored one after the other. -/
theorem append {filled : σ} (h : Fills fields record members (.ok filled)) (hmore : Fills fields filled more result) :
    Fills fields record (members ++ more) result := by
  refine ⟨fun m hm => ?_, ?_⟩
  · rcases List.mem_append.mp hm with hm | hm
    · exact h.taken m hm
    · exact hmore.taken m hm
  · rw [List.foldlM_append, h.stored]
    exact hmore.stored

/-- The kind of an envelope is stored. -/
theorem kind {store : String → σ → σ} (hfind : fields.find? (·.name == "type") = some (Envelope.kindField store))
    (s : String) (record : σ) : Fills fields record [("type", .string s)] (.ok (store s record)) :=
  one hfind (RecordField.of_takes (readText_yields s) _ _ store) record

/-- An identifier is stored, if there is one. -/
theorem word {name : String} {store : Option UInt64 → σ → σ}
    (hfind : fields.find? (·.name == name) = some (Envelope.wordField name store)) (id : Option UInt64)
    (record : σ) (hnone : store none record = record) :
    Fills fields record (Envelope.wordMember name id) (.ok (store id record)) := by
  cases id with
  | none =>
    rw [hnone]
    exact nil record
  | some w =>
    exact one hfind (RecordField.of_takes (readOptional_yields (by simp [Value.word]) (readUnsigned_yields w)) _ _
      store) record

/-- A text is stored, if there is one. -/
theorem text {name : String} {store : Option String → σ → σ}
    (hfind : fields.find? (·.name == name) = some (Envelope.textField name store)) (s : Option String)
    (record : σ) (hnone : store none record = record) :
    Fills fields record (Envelope.textMember name s) (.ok (store s record)) := by
  cases s with
  | none =>
    rw [hnone]
    exact nil record
  | some s =>
    exact one hfind (RecordField.of_takes (readOptional_yields (by simp) (readText_yields s)) _ _ store) record

/-- The members of which none has been met are read one by one. -/
theorem foldlM_draft (met : List String) (hnodup : (members.map (·.1)).Nodup)
    (hfresh : ∀ name ∈ met, name ∉ members.map (·.1)) :
    members.foldlM (fun (draft : σ × List String) m =>
        if draft.2.contains m.1 then .error .mistyped
        else (storeMember fields draft.1 m).map fun record => (record, m.1 :: draft.2)) (record, met) =
      (members.foldlM (storeMember fields) record).map fun record => (record, (members.map (·.1)).reverse ++ met) := by
  induction members generalizing record met with
  | nil => rfl
  | cons m members ih =>
    obtain ⟨hnew, hnodup⟩ := List.nodup_cons.mp hnodup
    have hmet : met.contains m.1 = false := by
      rw [List.contains_eq_mem, decide_eq_false_iff_not]
      exact fun hmem => hfresh m.1 hmem List.mem_cons_self
    rw [List.foldlM_cons, List.foldlM_cons]
    simp only [hmet, Bool.false_eq_true, if_false]
    cases storeMember fields record m with
    | error f => rfl
    | ok record' =>
      refine (ih (m.1 :: met) hnodup fun name hname hmem => ?_).trans ?_
      · rcases List.mem_cons.mp hname with rfl | hname
        · exact hnew hmem
        · exact hfresh name hname (List.mem_cons_of_mem _ hmem)
      · rw [List.map_cons, List.reverse_cons, List.append_assoc, List.singleton_append]
        rfl

/-- A record that is printed as its members is read with what they make of the missing one. -/
theorem readRecord (h : Fills fields record members result) (hnodup : (members.map (·.1)).Nodup)
    (hrequired : ∀ field ∈ fields, field.required = true → field.name ∈ members.map (·.1)) :
    Yields (readRecord fields record) (charBytes (Value.object members).chars) result := by
  have hentry : ∀ draft : σ × List String, ∀ m ∈ members, Yields (readFieldOf fields draft) (memberBytes m)
      (if draft.2.contains m.1 then .error .mistyped
        else (storeMember fields draft.1 m).map fun record => (record, m.1 :: draft.2)) := by
    intro draft m hm rest hrest
    obtain ⟨field, store, hfind, htakes⟩ := h.taken m hm
    have hread := htakes draft.1
    have hstored : storeMember fields draft.1 m = store draft.1 := by
      have hempty := hread [] fun b hb => by simp at hb
      rw [List.append_nil] at hempty
      rw [storeMember, hfind]
      simp only [hempty]
      cases store draft.1 <;> rfl
    rw [readFieldOf, readName_memberBytes]
    simp only [bind, Except.bind, hfind, hstored, readColon_colon, hread rest hrest]
    split
    · rfl
    · cases store draft.1 <;> rfl
  have hall : fields.all (fun field => !field.required || ((members.map Prod.fst).reverse ++ []).contains field.name) =
      true := by
    rw [List.all_eq_true]
    intro field hfield
    cases hneeded : field.required with
    | false => rfl
    | true =>
      rw [List.append_nil, Bool.not_true, Bool.false_or, List.contains_eq_mem, decide_eq_true_eq, List.mem_reverse]
      exact hrequired field hfield hneeded
  have hread : ∃ bs, charBytes (Value.object members).chars = 0x7b :: bs ∧ ∀ rest,
      readEntries 0x7d (readFieldOf fields) (record, []) (bs ++ rest) =
        result.map fun record => ((record, (members.map Prod.fst).reverse ++ []), rest) := by
    have hfold := @foldlM_draft σ fields record members [] hnodup (by simp)
    rw [h.stored] at hfold
    cases members with
    | nil =>
      refine ⟨[0x7d], rfl, fun rest => ?_⟩
      rw [← h.stored]
      exact readEntries_nil (.inr rfl) _ rest
    | cons m members =>
      refine ⟨_, charBytes_object_cons m members, fun rest => ?_⟩
      rw [List.append_assoc, charBytes_membersTail,
        readEntries_cons (.inr rfl) (fun m _ => opens_member m) hentry, hfold]
      cases result <;> rfl
  intro rest _
  obtain ⟨bs, hbytes, hread⟩ := hread
  rw [hbytes, List.cons_append, Json.readRecord, skipBlanks_of_head rfl]
  simp only [if_neg (by decide : ¬ (0x7b : UInt8) = 0x5b), if_true, hread]
  cases result with
  | error f => rfl
  | ok final =>
    simp only [Except.map, bind, Except.bind]
    rw [if_pos hall]

end Fills

/-- A whole text is what one of the readers reads up to its end. -/
theorem Yields.readWhole {read : Bytes → Except Fault (α × Bytes)} {bs : Bytes} {result : Except Fault α}
    (h : Yields read bs result) : readWhole read bs = result := by
  have hempty := h [] fun b hb => by simp at hb
  rw [List.append_nil] at hempty
  rw [Json.readWhole, hempty]
  cases result <;> rfl

end Parlor.Json
