import Parlor.Json.Record
import Parlor.Proofs.Json.Skipping

/-!
# Records and members

What every entry of a container and every field of a record preserves is preserved by reading the
whole of it. So the members of an object come out ordered by name, and no name occurs twice.
-/

namespace Parlor.Json

/-! ## Reading entry by entry -/

section Preserving

variable {σ : Type} {P : σ → Prop} {entry : σ → Bytes → Except Fault (σ × Bytes)} {close : UInt8}

/-- Reading keeps a property. -/
def Preserves (P : σ → Prop) (entry : σ → Bytes → Except Fault (σ × Bytes)) : Prop :=
  ∀ acc bs acc' rest, P acc → entry acc bs = .ok (acc', rest) → P acc'

/-- What each entry keeps is kept by all of them. -/
theorem foldEntries_preserves (hentry : Preserves P entry) (fuel : Nat) (first : Bool) :
    Preserves P (foldEntries close entry fuel first) := by
  induction fuel generalizing first with
  | zero =>
    intro acc bs acc' rest _ h
    simp [foldEntries] at h
  | succ fuel ih =>
    intro acc bs acc' rest hacc h
    have hnext (bs : Bytes) (h : (entry acc bs >>= fun p => foldEntries close entry fuel false p.1 p.2) =
        .ok (acc', rest)) : P acc' := by
      cases hone : entry acc bs with
      | error f => simp [hone, bind, Except.bind] at h
      | ok p =>
        simp only [hone, bind, Except.bind] at h
        exact ih false _ _ _ _ (hentry _ _ _ _ hacc hone) h
    rw [foldEntries] at h
    split at h
    · contradiction
    · split at h
      · simp only [Except.ok.injEq, Prod.mk.injEq] at h
        exact h.1 ▸ hacc
      · split at h
        · exact hnext _ h
        · split at h
          · split at h
            · contradiction
            · split at h
              · contradiction
              · exact hnext _ h
          · contradiction

/-- What each entry keeps is kept by reading a container. -/
theorem readEntries_preserves (hentry : Preserves P entry) {start : σ} (hstart : P start) {bs rest : Bytes}
    {acc : σ} (h : readEntries close entry start bs = .ok (acc, rest)) : P acc :=
  foldEntries_preserves hentry _ _ _ _ _ _ hstart h

end Preserving

/-! ## Members of objects -/

/-- Members in the order of their names, each name once. -/
def OrderedMembers {α : Type} (members : List (String × α)) : Prop :=
  members.Pairwise fun a b => a.1 < b.1

/-- The names of ordered members are distinct. -/
theorem OrderedMembers.nodup {α : Type} {members : List (String × α)} (h : OrderedMembers members) :
    (members.map (·.1)).Nodup := by
  rw [List.Nodup, List.pairwise_map]
  exact h.imp fun {a b} hlt (heq : a.1 = b.1) => String.lt_irrefl _ (heq ▸ hlt)

/-- Putting in a member brings no other one. -/
theorem mem_insertMember {α : Type} {name : String} {value : α} {members : List (String × α)}
    {m : String × α} (hm : m ∈ insertMember name value members) : m = (name, value) ∨ m ∈ members := by
  induction members with
  | nil => exact .inl (List.mem_singleton.mp hm)
  | cons first rest ih =>
    obtain ⟨key, old⟩ := first
    rw [insertMember] at hm
    split at hm
    · exact (List.mem_cons.mp hm).imp_right (List.mem_cons_of_mem _)
    · split at hm
      · exact List.mem_cons.mp hm
      · rcases List.mem_cons.mp hm with rfl | hm
        · exact .inr List.mem_cons_self
        · exact (ih hm).imp_right (List.mem_cons_of_mem _)

/-- Members stay ordered when one is put in. -/
theorem OrderedMembers.insert {α : Type} {members : List (String × α)} (h : OrderedMembers members)
    (name : String) (value : α) : OrderedMembers (insertMember name value members) := by
  induction members with
  | nil => simp [insertMember, OrderedMembers]
  | cons first rest ih =>
    obtain ⟨key, old⟩ := first
    obtain ⟨hfirst, hrest⟩ := List.pairwise_cons.mp h
    rw [insertMember]
    split
    case isTrue heq => exact List.pairwise_cons.mpr ⟨fun m hm => heq ▸ hfirst m hm, hrest⟩
    case isFalse hne =>
      split
      case isTrue hlt =>
        refine List.pairwise_cons.mpr ⟨fun m hm => ?_, h⟩
        rcases List.mem_cons.mp hm with rfl | hm
        · exact hlt
        · exact String.lt_trans hlt (hfirst m hm)
      case isFalse hge =>
        refine List.pairwise_cons.mpr ⟨fun m hm => ?_, ih hrest⟩
        rcases mem_insertMember hm with rfl | hm
        · rcases Std.lt_trichotomy key name with hlt | heq | hgt
          · exact hlt
          · exact absurd heq.symm hne
          · exact absurd hgt hge
        · exact hfirst m hm

/-- Reading a member keeps the members ordered. -/
theorem readMember_preserves (value : Bytes → Except Fault (Value × Bytes)) :
    Preserves OrderedMembers (readMember value) := by
  intro acc bs acc' rest hacc h
  simp only [readMember, bind, Except.bind] at h
  repeat' split at h
  all_goals first | contradiction | skip
  simp only [Except.ok.injEq, Prod.mk.injEq] at h
  exact h.1 ▸ hacc.insert _ _

/-- A value without brackets is no object. -/
theorem readScalar_ne_object {b : UInt8} {bs rest : Bytes} {members : List (String × Value)} :
    readScalar b bs ≠ .ok (.object members, rest) := by
  intro h
  simp only [readScalar, bind, Except.bind] at h
  repeat' split at h
  all_goals simp_all

/-- The members of an object that was read are ordered. -/
theorem readValue_ordered {depth : Nat} {bs rest : Bytes} {members : List (String × Value)}
    (h : readValue depth bs = .ok (.object members, rest)) : OrderedMembers members := by
  rw [readValue.eq_def] at h
  dsimp only at h
  split at h
  · contradiction
  · split at h
    · split at h
      · contradiction
      · simp only [bind, Except.bind] at h
        split at h <;> simp at h
    · split at h
      · split at h
        · contradiction
        · simp only [bind, Except.bind] at h
          split at h
          · contradiction
          · rename_i hread
            simp only [Except.ok.injEq, Prod.mk.injEq, Value.object.injEq] at h
            obtain ⟨rfl, -⟩ := h
            exact readEntries_preserves (readMember_preserves _) List.Pairwise.nil hread
      · exact absurd h readScalar_ne_object

/-! ## Records -/

section Records

variable {σ : Type} {P : σ → Prop} {fields : List (RecordField σ)}

/-- A field that stores what is read keeps what the storing keeps. -/
theorem RecordField.of_preserves {α : Type} (name : String) (required : Bool)
    {read : Bytes → Except Fault (α × Bytes)} {store : α → σ → σ}
    (h : ∀ bs a rest record, read bs = .ok (a, rest) → P record → P (store a record)) :
    Preserves P (RecordField.of name required read store).read := by
  intro record bs record' rest hrecord hread
  cases hone : read bs with
  | error f => simp [RecordField.of, hone, bind, Except.bind] at hread
  | ok p =>
    simp only [RecordField.of, hone, bind, Except.bind, Except.ok.injEq, Prod.mk.injEq] at hread
    exact hread.1 ▸ h bs p.1 p.2 record hone hrecord

/-- What every field keeps is kept by reading a member of a record. -/
theorem readFieldOf_preserves (hfields : ∀ field ∈ fields, Preserves P field.read) :
    Preserves (fun draft : σ × List String => P draft.1) (readFieldOf fields) := by
  intro draft bs draft' rest hdraft h
  simp only [readFieldOf, bind, Except.bind] at h
  split at h
  · contradiction
  · rename_i named _
    cases hfind : fields.find? (·.name == named.1) with
    | none =>
      simp only [hfind] at h
      repeat' split at h
      all_goals first | contradiction | skip
      simp only [Except.ok.injEq, Prod.mk.injEq] at h
      exact h.1 ▸ hdraft
    | some field =>
      simp only [hfind] at h
      repeat' split at h
      all_goals first | contradiction | skip
      rename_i hread
      simp only [Except.ok.injEq, Prod.mk.injEq] at h
      rw [← h.1]
      exact hfields _ (List.mem_of_find?_eq_some hfind) _ _ _ _ hdraft hread

/-- What every field keeps is kept by reading the elements of a record in array form. -/
theorem readPositional_preserves (hfields : ∀ field ∈ fields, Preserves P field.read) (first : Bool) :
    Preserves P (readPositional fields first) := by
  induction fields generalizing first with
  | nil =>
    intro record bs record' rest hrecord h
    simp only [readPositional] at h
    repeat' split at h
    all_goals first | contradiction | skip
    simp only [Except.ok.injEq, Prod.mk.injEq] at h
    exact h.1 ▸ hrecord
  | cons field fields ih =>
    intro record bs record' rest hrecord h
    have hnext (bs : Bytes) (h : (field.read record bs >>= fun p => readPositional fields false p.1 p.2) =
        .ok (record', rest)) : P record' := by
      cases hone : field.read record bs with
      | error f => simp [hone, bind, Except.bind] at h
      | ok p =>
        simp only [hone, bind, Except.bind] at h
        exact ih (fun f hf => hfields f (List.mem_cons_of_mem _ hf)) false _ _ _ _
          (hfields field List.mem_cons_self _ _ _ _ hrecord hone) h
    rw [readPositional] at h
    repeat' split at h
    all_goals first | contradiction | exact hnext _ h | skip
    simp only [Except.ok.injEq, Prod.mk.injEq] at h
    exact h.1 ▸ hrecord

/-- What every field keeps is kept by reading a record. -/
theorem readRecord_preserves (hfields : ∀ field ∈ fields, Preserves P field.read) :
    Preserves P (readRecord fields) := by
  intro start bs record rest hstart h
  simp only [readRecord, bind, Except.bind] at h
  split at h
  · contradiction
  · split at h
    · exact readPositional_preserves hfields true _ _ _ _ hstart h
    · split at h
      · split at h
        · contradiction
        · rename_i hread
          have hdraft := readEntries_preserves (P := fun draft : σ × List String => P draft.1)
            (readFieldOf_preserves hfields) hstart hread
          split at h
          · simp only [Except.ok.injEq, Prod.mk.injEq] at h
            exact h.1 ▸ hdraft
          · contradiction
      · contradiction

end Records

/-! ## Printed members -/

/-- A printed name is read back. -/
theorem readName_memberBytes (member : String × Value) (rest : Bytes) :
    readName (memberBytes member ++ rest) = .ok (member.1, 0x3a :: (charBytes member.2.chars ++ rest)) := by
  rw [memberBytes, charBytes_quotedChars]
  simp only [List.cons_append, List.append_assoc, List.nil_append, readName, readString_quoted]

/-- What follows a name is its colon. -/
theorem readColon_colon (rest : Bytes) : readColon (0x3a :: rest) = .ok rest := rfl

/-- Each member takes a byte at least. -/
theorem length_membersTail (members : List (String × Value)) :
    members.length < (charBytes (membersTail members)).length := by
  induction members with
  | nil => decide
  | cons member members ih =>
    rw [charBytes_membersTail_cons, List.length_cons, List.length_cons, List.length_append]
    omega

section Members

variable {σ : Type} {entry : σ → Bytes → Except Fault (σ × Bytes)} {I : σ → List (String × Value) → Prop}

/-- The members of an object are read one by one. -/
def ReadsMembers (entry : σ → Bytes → Except Fault (σ × Bytes)) (I : σ → List (String × Value) → Prop) : Prop :=
  ∀ acc member members rest, I acc (member :: members) → StopsNumber rest →
    ∃ acc', entry acc (memberBytes member ++ rest) = .ok (acc', rest) ∧ I acc' members

/-- The members after the first one are read up to the closing brace. -/
theorem foldEntries_membersTail (hentry : ReadsMembers entry I) (members : List (String × Value)) (acc : σ)
    (hacc : I acc members) (rest : Bytes) (fuel : Nat) (hfuel : members.length < fuel) :
    ∃ acc', foldEntries 0x7d entry fuel false acc (charBytes (membersTail members) ++ rest) = .ok (acc', rest) ∧
      I acc' [] := by
  induction members generalizing acc fuel with
  | nil =>
    obtain ⟨fuel, rfl⟩ := Nat.exists_eq_succ_of_ne_zero (Nat.ne_zero_of_lt hfuel)
    exact ⟨acc, rfl, hacc⟩
  | cons member members ih =>
    obtain ⟨fuel, rfl⟩ := Nat.exists_eq_succ_of_ne_zero (Nat.ne_zero_of_lt hfuel)
    obtain ⟨acc', hread, hacc'⟩ := hentry acc member members (charBytes (membersTail members) ++ rest) hacc
      (stopsNumber_membersTail members rest)
    obtain ⟨final, hfinal, hdone⟩ := ih acc' hacc' fuel (by simpa using hfuel)
    refine ⟨final, ?_, hdone⟩
    obtain ⟨bs, hbs⟩ := memberBytes_eq member
    rw [charBytes_membersTail_cons, List.cons_append, List.append_assoc]
    rw [hbs, List.cons_append] at hread ⊢
    rw [foldEntries, skipBlanks_of_head rfl]
    simp only [if_neg (by decide : ¬ (0x2c : UInt8) = 0x7d), Bool.false_eq_true, if_false, if_true,
      skipBlanks_of_head (rfl : isBlank 0x22 = false), if_neg (by decide : ¬ (0x22 : UInt8) = 0x7d), hread,
      bind, Except.bind]
    exact hfinal

/-- All members of an object are read. -/
theorem readEntries_object (hentry : ReadsMembers entry I) (member : String × Value)
    (members : List (String × Value)) (start : σ) (hstart : I start (member :: members)) (rest : Bytes) :
    ∃ acc, readEntries 0x7d entry start (memberBytes member ++ (charBytes (membersTail members) ++ rest)) =
        .ok (acc, rest) ∧ I acc [] := by
  obtain ⟨acc, hread, hacc⟩ := hentry start member members (charBytes (membersTail members) ++ rest) hstart
    (stopsNumber_membersTail members rest)
  have hlength : members.length <
      (memberBytes member ++ (charBytes (membersTail members) ++ rest)).length := by
    rw [List.length_append, List.length_append]
    have hshort := length_membersTail members
    omega
  obtain ⟨final, hfinal, hdone⟩ := foldEntries_membersTail hentry members acc hacc rest _ hlength
  refine ⟨final, ?_, hdone⟩
  rw [readEntries]
  obtain ⟨bs, hbs⟩ := memberBytes_eq member
  rw [hbs, List.cons_append] at hread hfinal ⊢
  rw [foldEntries, skipBlanks_of_head rfl]
  simp only [if_neg (by decide : ¬ (0x22 : UInt8) = 0x7d), if_true, hread, bind, Except.bind]
  exact hfinal

end Members

end Parlor.Json
