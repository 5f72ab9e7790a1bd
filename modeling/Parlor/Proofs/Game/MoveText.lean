import Parlor.Game.Action
import Parlor.Proofs.Json.Records

/-!
# Moves in the log

A move is logged as the text of its payload. Reading that text as a move asks for two signed words,
in an object among other members or in an array of two, and gives the move that the payload holds.
-/

namespace Parlor.Game

open Json

/-- Reads a signed 64-bit number. -/
def readSigned (bs : Bytes) : Except Fault (Int × Bytes) :=
  match skipBlanks bs with
  | [] => .error .truncated
  | b :: rest => do
    match ← readScalar b rest |>.mapError (fun _ => refusal b rest) with
    | (.number (.integer n), rest) => if Word.isSigned n then .ok (n, rest) else .error .mistyped
    | _ => .error .mistyped

namespace Move

/-- The field of the row. -/
def rowField : RecordField Move := .of "x" true readSigned fun n m => { m with x := n }

/-- The field of the column. -/
def columnField : RecordField Move := .of "y" true readSigned fun n m => { m with y := n }

/-- Reads a move, as an object with other members perhaps or as an array. -/
def read (bs : Bytes) : Except Fault (Move × Bytes) := readRecord [rowField, columnField] { x := 0, y := 0 } bs

/-- The move in a text. -/
def ofText (text : String) : Except Fault Move := readWhole read (encodeUtf8 text)

/-- A coordinate is a signed word. -/
theorem coordinate_eq_ok {v : Value} {n : Int} (h : coordinate v = .ok n) :
    v = .number (.integer n) ∧ Word.isSigned n = true := by
  unfold coordinate at h
  split at h
  · split at h
    · simp only [Except.ok.injEq] at h
      subst h
      exact ⟨rfl, ‹_›⟩
    · contradiction
  · contradiction

/-- A printed coordinate is read back. -/
theorem readSigned_chars {v : Value} {n : Int} (h : coordinate v = .ok n) :
    ∃ b bs, charBytes v.chars = b :: bs ∧ isBlank b = false ∧ b ≠ 0x5d ∧
      ∀ rest, StopsNumber rest → readSigned (b :: (bs ++ rest)) = .ok (n, rest) := by
  obtain ⟨rfl, hsigned⟩ := coordinate_eq_ok h
  obtain ⟨hlow, hhigh⟩ : Word.signedLow ≤ n ∧ n ≤ Word.signedHigh := of_decide_eq_true hsigned
  obtain ⟨b, bs, hbytes, hb, hread⟩ := readScalar_integerChars hlow (Int.le_trans hhigh (by decide))
  have hhead : isBlank b = false ∧ b ≠ 0x5d := by
    rcases hb with hb | rfl
    · exact ⟨(head_of_isDigit hb).1, (head_of_isDigit hb).2.2.2.1⟩
    · decide
  refine ⟨b, bs, hbytes, hhead.1, hhead.2, fun rest hrest => ?_⟩
  rw [readSigned, skipBlanks_of_head hhead.1]
  have hscalar : ((readScalar b (bs ++ rest)).mapError fun _ => refusal b (bs ++ rest)) =
      .ok (.number (.integer n), rest) := by
    rw [hread rest hrest]
    rfl
  simp only [hscalar, bind, Except.bind, hsigned, if_true]

/-! ## The array form -/

/-- Two printed coordinates in an array are read back. -/
theorem read_array {v w : Value} {x y : Int} (hv : coordinate v = .ok x) (hw : coordinate w = .ok y) :
    read (charBytes (Value.array [v, w]).chars) = .ok ({ x, y }, []) := by
  obtain ⟨b, bs, hbytes, hblank, hclose, hread⟩ := readSigned_chars hv
  obtain ⟨c, cs, hbytes', hblank', hclose', hread'⟩ := readSigned_chars hw
  have hfirst := hread (0x2c :: (c :: (cs ++ [0x5d]))) (by
    intro d hd
    obtain rfl : 0x2c = d := Option.some.inj hd
    decide)
  have hsecond := hread' [0x5d] (by
    intro d hd
    obtain rfl : 0x5d = d := Option.some.inj hd
    decide)
  have hchars : charBytes (Value.array [v, w]).chars = 0x5b :: (b :: (bs ++ 0x2c :: (c :: (cs ++ [0x5d])))) := by
    simp only [Value.chars, itemsTail, charBytes_append, charBytes_cons, hbytes, hbytes', charBytes_nil]
    simp
    rfl
  rw [hchars, read, readRecord, skipBlanks_of_head rfl]
  simp only [if_true, readPositional, skipBlanks_of_head hblank, if_neg hclose, rowField, RecordField.of, hfirst,
    skipBlanks_of_head (rfl : isBlank 0x2c = false), if_neg (by decide : ¬ (0x2c : UInt8) = 0x5d),
    Bool.false_eq_true, if_false, skipBlanks_of_head hblank', if_neg hclose', columnField, hsecond,
    skipBlanks_of_head (rfl : isBlank 0x5d = false), bind, Except.bind]

/-! ## The object form -/

/-- A coordinate that is read already, or is found among the members that are left. -/
def Located (name : String) (n : Int) (found : Int) (met : List String) (members : List (String × Value)) : Prop :=
  name ∈ met ∧ found = n ∨ name ∉ met ∧ ∃ v, member? name members = some v ∧ coordinate v = .ok n

/-- What is left of an object completes a move. -/
structure Completes (m : Move) (draft : Move × List String) (members : List (String × Value)) : Prop where
  nodup : (members.map (·.1)).Nodup
  fresh : ∀ name ∈ draft.2, name ∉ members.map (·.1)
  x : Located "x" m.x draft.1.x draft.2 members
  y : Located "y" m.y draft.1.y draft.2 members

/-- A member of another name leaves a coordinate where it is. -/
theorem Located.skip {name : String} {n found : Int} {met : List String} {member : String × Value}
    {members : List (String × Value)} (h : Located name n found met (member :: members))
    (hname : name ≠ member.1) : Located name n found met members := by
  refine h.imp_right fun ⟨hmet, v, hv, hn⟩ => ⟨hmet, v, ?_, hn⟩
  rwa [member?, if_neg hname] at hv

/-- A field of another name leaves a coordinate where it is. -/
theorem Located.meet {name other : String} {n found : Int} {met : List String}
    {members : List (String × Value)} (h : Located name n found met members) (hother : name ≠ other) :
    Located name n found (other :: met) members :=
  h.imp (fun ⟨hmet, hn⟩ => ⟨List.mem_cons_of_mem _ hmet, hn⟩)
    fun ⟨hmet, hv⟩ => ⟨by simp [hother, hmet], hv⟩

/-- The member of a field holds its coordinate. -/
theorem Located.here {name : String} {n found : Int} {met : List String} {v : Value}
    {members : List (String × Value)} (h : Located name n found met ((name, v) :: members))
    (hmet : name ∉ met) : coordinate v = .ok n := by
  rcases h with ⟨hmem, -⟩ | ⟨-, w, hw, hn⟩
  · exact absurd hmem hmet
  · rw [member?, if_pos rfl, Option.some.injEq] at hw
    exact hw ▸ hn

/-- A member that is a field is read, whatever the record is so far. -/
theorem readFieldOf_field {σ : Type} {fields : List (RecordField σ)} {field : RecordField σ}
    {draft : σ × List String} {record : σ} {member : String × Value} {rest : Bytes}
    (hfind : fields.find? (·.name == member.1) = some field) (hmet : member.1 ∉ draft.2)
    (hread : field.read draft.1 (charBytes member.2.chars ++ rest) = .ok (record, rest)) :
    readFieldOf fields draft (memberBytes member ++ rest) = .ok ((record, member.1 :: draft.2), rest) := by
  have hcontains : draft.2.contains member.1 = false := by simpa using hmet
  rw [readFieldOf, readName_memberBytes]
  simp only [bind, Except.bind, hfind, hcontains, Bool.false_eq_true, if_false, readColon_colon, hread]

/-- A member that is no field is passed over. -/
theorem readFieldOf_other {σ : Type} {fields : List (RecordField σ)} {draft : σ × List String}
    {member : String × Value} {rest : Bytes} (hfind : fields.find? (·.name == member.1) = none)
    (hrest : StopsNumber rest) :
    readFieldOf fields draft (memberBytes member ++ rest) = .ok (draft, rest) := by
  rw [readFieldOf, readName_memberBytes]
  simp only [bind, Except.bind, hfind, readColon_colon, skipValue_chars member.2 hrest]

/-- Every member brings a draft closer to the move. -/
theorem readsMembers_completes (m : Move) :
    ReadsMembers (readFieldOf [rowField, columnField]) (Completes m) := by
  rintro draft ⟨name, v⟩ members rest ⟨hnodup, hfresh, hx, hy⟩ hrest
  obtain ⟨hnew, hrest'⟩ := List.nodup_cons.mp hnodup
  have hmet : name ∉ draft.2 := fun h => hfresh name h List.mem_cons_self
  have hfresh' : ∀ other ∈ draft.2, other ∉ members.map (·.1) :=
    fun other hother hmem => hfresh other hother (List.mem_cons_of_mem _ hmem)
  have hfresh'' : ∀ other ∈ name :: draft.2, other ∉ members.map (·.1) := by
    rintro other (_ | ⟨_, hother⟩)
    · exact hnew
    · exact hfresh' other hother
  have hvalue {n : Int} (hn : coordinate v = .ok n) : readSigned (charBytes v.chars ++ rest) = .ok (n, rest) := by
    obtain ⟨b, bs, hbytes, -, -, hread⟩ := readSigned_chars hn
    rw [hbytes]
    exact hread rest hrest
  by_cases hrow : name = "x"
  · subst hrow
    have hfind : [rowField, columnField].find? (·.name == "x") = some rowField := rfl
    refine ⟨({ draft.1 with x := m.x }, "x" :: draft.2), readFieldOf_field hfind hmet ?_,
      hrest', hfresh'', .inl ⟨List.mem_cons_self, rfl⟩,
      (hy.skip (by decide : "y" ≠ "x")).meet (by decide)⟩
    simp only [rowField, RecordField.of, hvalue (hx.here hmet), bind, Except.bind]
  · by_cases hcolumn : name = "y"
    · subst hcolumn
      have hfind : [rowField, columnField].find? (·.name == "y") = some columnField := rfl
      refine ⟨({ draft.1 with y := m.y }, "y" :: draft.2), readFieldOf_field hfind hmet ?_,
        hrest', hfresh'', (hx.skip (by decide : "x" ≠ "y")).meet (by decide),
        .inl ⟨List.mem_cons_self, rfl⟩⟩
      simp only [columnField, RecordField.of, hvalue (hy.here hmet), bind, Except.bind]
    · have hfind : [rowField, columnField].find? (·.name == name) = none := by
        simp [rowField, columnField, RecordField.of, Ne.symm hrow, Ne.symm hcolumn]
      exact ⟨draft, readFieldOf_other hfind hrest, hrest', hfresh', hx.skip (Ne.symm hrow),
        hy.skip (Ne.symm hcolumn)⟩

/-- A printed object with both coordinates is read back, whatever other members it has. -/
theorem read_object {members : List (String × Value)} {m : Move} (hnodup : (members.map (·.1)).Nodup)
    (hx : ∃ v, member? "x" members = some v ∧ coordinate v = .ok m.x)
    (hy : ∃ v, member? "y" members = some v ∧ coordinate v = .ok m.y) :
    read (charBytes (Value.object members).chars) = .ok (m, []) := by
  cases members with
  | nil =>
    obtain ⟨v, hv, -⟩ := hx
    simp [member?] at hv
  | cons member members =>
    obtain ⟨⟨found, met⟩, hread, -, -, hfx, hfy⟩ :=
      readEntries_object (readsMembers_completes m) member members ({ x := 0, y := 0 }, [])
      ⟨hnodup, by simp, .inr ⟨by simp, hx⟩, .inr ⟨by simp, hy⟩⟩ []
    have hlocated {name : String} {n k : Int} (h : Located name n k met []) :
        met.contains name = true ∧ k = n := by
      rcases h with ⟨hmem, hn⟩ | ⟨-, v, hv, -⟩
      · exact ⟨by simpa using hmem, hn⟩
      · simp [member?] at hv
    obtain ⟨hcx, hxn⟩ := hlocated hfx
    obtain ⟨hcy, hyn⟩ := hlocated hfy
    rw [List.append_nil] at hread
    rw [charBytes_object_cons, read, readRecord, skipBlanks_of_head rfl]
    simp only [if_neg (by decide : ¬ (0x7b : UInt8) = 0x5b), if_true, hread, bind, Except.bind]
    have hall : [rowField, columnField].all (fun field => !field.required || met.contains field.name) = true := by
      simp only [List.all_cons, List.all_nil, Bool.and_true, rowField, columnField, RecordField.of, hcx, hcy,
        Bool.or_true]
    obtain rfl : found = m := by
      cases m
      cases found
      simp_all
    rw [if_pos hall]

/-! ## Both forms -/

/-- An array that holds a move has two items. -/
theorem ofValue_array {items : List Value} {m : Move} (h : ofValue (.array items) = .ok m) :
    ∃ v w, items = [v, w] ∧ coordinate v = .ok m.x ∧ coordinate w = .ok m.y := by
  match items with
  | [] => simp [ofValue] at h
  | [v] => cases hv : coordinate v <;> simp [ofValue, hv, bind, Except.bind] at h
  | v :: w :: rest =>
    cases hv : coordinate v with
    | error f => simp [ofValue, hv, bind, Except.bind] at h
    | ok x =>
      cases hw : coordinate w with
      | error f => simp [ofValue, hv, hw, bind, Except.bind] at h
      | ok y =>
        cases rest with
        | nil =>
          simp only [ofValue, hv, hw, bind, Except.bind, List.isEmpty_nil, if_true, Except.ok.injEq] at h
          subst h
          exact ⟨v, w, rfl, hv, hw⟩
        | cons z rest => simp [ofValue, hv, hw, bind, Except.bind] at h

/-- A coordinate that has to be there is the one of a member. -/
theorem memberCoordinate?_eq_ok {name : String} {members : List (String × Value)} {o : Option Int} {n : Int}
    (ho : memberCoordinate? name members = .ok o) (hn : require name o = .ok n) :
    ∃ v, member? name members = some v ∧ coordinate v = .ok n := by
  unfold memberCoordinate? at ho
  split at ho
  case h_1 =>
    rw [Except.ok.injEq] at ho
    simp [← ho, require] at hn
  case h_2 v hv =>
    refine ⟨v, hv, ?_⟩
    cases hc : coordinate v with
    | error f => simp [hc, Functor.map, Except.map] at ho
    | ok k =>
      simp only [hc, Functor.map, Except.map, Except.ok.injEq] at ho
      simpa [← ho, require] using hn

/-- An object that holds a move has both coordinates among its members. -/
theorem ofValue_object {members : List (String × Value)} {m : Move} (h : ofValue (.object members) = .ok m) :
    (∃ v, member? "x" members = some v ∧ coordinate v = .ok m.x) ∧
      ∃ v, member? "y" members = some v ∧ coordinate v = .ok m.y := by
  cases hx : memberCoordinate? "x" members with
  | error f => simp [ofValue, hx, bind, Except.bind] at h
  | ok x =>
    cases hy : memberCoordinate? "y" members with
    | error f => simp [ofValue, hx, hy, bind, Except.bind] at h
    | ok y =>
      cases hrow : require "x" x with
      | error f => simp [ofValue, hx, hy, hrow, bind, Except.bind] at h
      | ok a =>
        cases hcolumn : require "y" y with
        | error f => simp [ofValue, hx, hy, hrow, hcolumn, bind, Except.bind] at h
        | ok b =>
          simp only [ofValue, hx, hy, hrow, hcolumn, bind, Except.bind, Except.ok.injEq] at h
          subst h
          exact ⟨memberCoordinate?_eq_ok hx hrow, memberCoordinate?_eq_ok hy hcolumn⟩

/-- The text of a payload is read as the move that the payload holds. -/
theorem ofText_text {v : Value} {m : Move} (hmove : ofValue v = .ok m)
    (hnodup : ∀ members, v = .object members → (members.map (·.1)).Nodup) : ofText v.text = .ok m := by
  have hread : read (charBytes v.chars) = .ok (m, []) := by
    cases v with
    | array items =>
      obtain ⟨v, w, rfl, hv, hw⟩ := ofValue_array hmove
      exact read_array hv hw
    | object members =>
      obtain ⟨hx, hy⟩ := ofValue_object hmove
      exact read_object (hnodup members rfl) hx hy
    | null | bool | number | string => simp [ofValue] at hmove
  rw [ofText, Value.text, encodeUtf8_ofList, readWhole, hread]
  rfl

end Move

/-! ## Payloads of actions -/

/-- The names in the payload of a decoded action are distinct. -/
theorem Action.decode_payload {bs : Bytes} {action : Action} (h : Action.decode bs = .ok action)
    {members : List (String × Value)} (hpayload : action.payload = .object members) :
    (members.map (·.1)).Nodup := by
  have hfields : ∀ field ∈ Action.fields, Preserves
      (fun a : Action => ∀ members, a.payload = .object members → OrderedMembers members) field.read := by
    intro field hfield
    simp only [Action.fields, List.mem_cons, List.not_mem_nil, or_false] at hfield
    rcases hfield with rfl | rfl | rfl | rfl
    · exact RecordField.of_preserves _ _ fun _ _ _ _ _ hrecord => hrecord
    · exact RecordField.of_preserves _ _ fun _ _ _ _ _ hrecord => hrecord
    · exact RecordField.of_preserves _ _ fun _ _ _ _ _ hrecord => hrecord
    · refine RecordField.of_preserves _ _ fun bs v rest record hread _ members hmembers => ?_
      subst hmembers
      exact readValue_ordered hread
  unfold Action.decode readWhole at h
  cases hread : readRecord Action.fields { kind := .other "" } bs with
  | error f => simp [hread, bind, Except.bind] at h
  | ok p =>
    have hordered := readRecord_preserves hfields _ _ _ _ (by simp) hread
    cases hend : readEnd p.2 with
    | error f => simp [hread, hend, bind, Except.bind] at h
    | ok u =>
      simp only [hread, hend, bind, Except.bind, Except.ok.injEq] at h
      subst h
      exact (hordered members hpayload).nodup

end Parlor.Game
