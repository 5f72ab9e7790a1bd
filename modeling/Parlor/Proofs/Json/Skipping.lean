import Parlor.Proofs.Json.Numbers

/-!
# Passing over printed values

A reader that passes over a value stops exactly where a printed value ends, whatever follows and at
any depth. It takes at most one round a byte, so the fuel it has is enough.
-/

namespace Parlor.Json

/-- What stands in front is no blank. -/
theorem skipBlanks_of_head {b : UInt8} (h : isBlank b = false) (rest : Bytes) :
    skipBlanks (b :: rest) = b :: rest := by simp [skipBlanks, h]

/-- Behind the blanks there are none. -/
theorem skipBlanks_skipBlanks (bs : Bytes) : skipBlanks (skipBlanks bs) = skipBlanks bs := by
  induction bs with
  | nil => rfl
  | cons b rest ih =>
    rw [skipBlanks]
    split
    case isTrue => exact ih
    case isFalse hb => exact skipBlanks_of_head (Bool.eq_false_iff.mpr hb) rest

/-- A digit is neither a blank nor the beginning of anything but a number. -/
theorem head_of_isDigit {b : UInt8} (h : isDigit b = true) :
    isBlank b = false ∧ b ≠ 0x5b ∧ b ≠ 0x7b ∧ b ≠ 0x5d ∧ b ≠ 0x22 ∧ b ≠ 0x2d ∧ b ≠ 0x6e := by
  have hne (c : UInt8) (hc : isDigit c = false) : b ≠ c := by
    rintro rfl
    rw [hc] at h
    contradiction
  refine ⟨?_, hne _ rfl, hne _ rfl, hne _ rfl, hne _ rfl, hne _ rfl, hne _ rfl⟩
  simp [isBlank, hne 0x20 rfl, hne 0x0a rfl, hne 0x0d rfl, hne 0x09 rfl]

/-- The text of a value that opens with none of the two brackets is passed over. -/
structure SkippedScalar (b : UInt8) (bs : Bytes) : Prop where
  blank : isBlank b = false
  square : b ≠ 0x5b
  curly : b ≠ 0x7b
  close : b ≠ 0x5d
  letter : b ≠ 0x6e
  skip : ∀ rest, StopsNumber rest → skipScalar b (bs ++ rest) = .ok rest

/-- A printed number is passed over. -/
theorem skippedScalar_number (n : Number) :
    ∃ b bs, charBytes n.chars = b :: bs ∧ SkippedScalar b bs := by
  obtain ⟨cs, hnumeral, hchars⟩ := number_chars_cases n
  obtain ⟨b, bs, hbytes, hdigit⟩ := hnumeral.head
  have hskip (rest : Bytes) (hrest : StopsNumber rest) : skipNumber (b :: (bs ++ rest)) = .ok rest := by
    rw [← List.cons_append, ← hbytes]
    exact skipNumber_append hnumeral hrest
  rcases hchars with hchars | hchars
  · obtain ⟨hblank, hsquare, hcurly, hclose, hquote, hminus, hletter⟩ := head_of_isDigit hdigit
    refine ⟨b, bs, by rw [hchars, hbytes], hblank, hsquare, hcurly, hclose, hletter, fun rest hrest => ?_⟩
    rw [skipScalar, if_neg hquote, if_neg hminus, if_pos hdigit, hskip rest hrest]
  · refine ⟨0x2d, b :: bs, by rw [hchars, charBytes_cons, hbytes]; rfl, ?_⟩
    exact ⟨rfl, by decide, by decide, by decide, by decide, fun rest hrest => hskip rest hrest⟩

/-- A printed string is passed over. -/
theorem skippedScalar_string (s : String) :
    ∃ b bs, charBytes (quotedChars s) = b :: bs ∧ SkippedScalar b bs := by
  refine ⟨0x22, _, charBytes_quotedChars s, rfl, by decide, by decide, by decide, by decide, fun rest _ => ?_⟩
  rw [List.append_assoc]
  exact skipString_quoted s rest

/-- What a printed value starts with. -/
theorem value_head (v : Value) :
    ∃ b bs, charBytes v.chars = b :: bs ∧ isBlank b = false ∧ b ≠ 0x5d ∧ (b = 0x6e → v = .null) := by
  cases v with
  | null => exact ⟨0x6e, _, rfl, rfl, by decide, fun _ => rfl⟩
  | bool b =>
    cases b
    · exact ⟨0x66, _, rfl, rfl, by decide, by simp⟩
    · exact ⟨0x74, _, rfl, rfl, by decide, by simp⟩
  | number n =>
    obtain ⟨b, bs, hbytes, hb⟩ := skippedScalar_number n
    exact ⟨b, bs, by rw [Value.chars, hbytes], hb.blank, hb.close, fun h => absurd h hb.letter⟩
  | string s => exact ⟨0x22, _, by rw [Value.chars, charBytes_quotedChars], rfl, by decide, by simp⟩
  | array items =>
    cases items with
    | nil => exact ⟨0x5b, _, rfl, rfl, by decide, by simp⟩
    | cons v rest =>
      exact ⟨0x5b, charBytes (v.chars ++ itemsTail rest), by rw [Value.chars]; rfl, rfl, by decide, by simp⟩
  | object members =>
    cases members with
    | nil => exact ⟨0x7b, _, rfl, rfl, by decide, by simp⟩
    | cons member rest =>
      obtain ⟨name, v⟩ := member
      exact ⟨0x7b, charBytes (quotedChars name ++ ':' :: (v.chars ++ membersTail rest)),
        by rw [Value.chars]; simp; rfl, rfl, by decide, by simp⟩

/-- One round passes over a value without brackets. -/
theorem skipNested_scalar {b : UInt8} {bs : Bytes} (h : SkippedScalar b bs) (fuel : Nat) (nest : List Bracket)
    {rest : Bytes} (hrest : StopsNumber rest) :
    skipNested (fuel + 1) true nest (b :: bs ++ rest) = skipNested fuel false nest rest := by
  rw [List.cons_append, skipNested, skipBlanks_of_head h.blank]
  simp only [h.square, h.curly, or_self, if_false, h.skip rest hrest, bind, Except.bind]

/-! ## Printed members -/

/-- The bytes of a printed member. -/
def memberBytes (member : String × Value) : Bytes :=
  charBytes (quotedChars member.1) ++ 0x3a :: charBytes member.2.chars

/-- A member begins with a quote. -/
theorem memberBytes_eq (member : String × Value) :
    ∃ bs, memberBytes member = 0x22 :: bs :=
  ⟨_, by rw [memberBytes, charBytes_quotedChars, List.cons_append]⟩

/-- Each member after the first one follows a comma. -/
theorem charBytes_membersTail_cons (member : String × Value) (members : List (String × Value)) :
    charBytes (membersTail (member :: members)) =
      0x2c :: (memberBytes member ++ charBytes (membersTail members)) := by
  obtain ⟨name, v⟩ := member
  rw [membersTail, memberBytes]
  simp
  rfl

/-- An object with members opens with the first of them. -/
theorem charBytes_object_cons (member : String × Value) (members : List (String × Value)) :
    charBytes (Value.object (member :: members)).chars =
      0x7b :: (memberBytes member ++ charBytes (membersTail members)) := by
  obtain ⟨name, v⟩ := member
  rw [Value.chars, memberBytes]
  simp
  rfl

/-- A name and its colon are passed over. -/
theorem skipLead_member (member : String × Value) (rest : Bytes) :
    Bracket.curly.skipLead (memberBytes member ++ rest) = .ok (charBytes member.2.chars ++ rest) := by
  rw [Bracket.skipLead, memberBytes, charBytes_quotedChars, List.append_assoc, List.cons_append, skipName,
    skipBlanks_of_head rfl]
  simp only [if_true, List.append_assoc, List.cons_append, List.nil_append,
    skipString_quoted, bind, Except.bind]
  rfl

/-! ## Passing over values -/

/-- What follows an item or a member is no part of a number. -/
theorem stopsNumber_itemsTail (items : List Value) (rest : Bytes) :
    StopsNumber (charBytes (itemsTail items) ++ rest) := by
  cases items with
  | nil =>
    intro b hb
    obtain rfl : 0x5d = b := Option.some.inj hb
    decide
  | cons v items =>
    intro b hb
    rw [itemsTail] at hb
    obtain rfl : 0x2c = b := Option.some.inj hb
    decide

/-- What follows a member is no part of a number. -/
theorem stopsNumber_membersTail (members : List (String × Value)) (rest : Bytes) :
    StopsNumber (charBytes (membersTail members) ++ rest) := by
  cases members with
  | nil =>
    intro b hb
    obtain rfl : 0x7d = b := Option.some.inj hb
    decide
  | cons member members =>
    obtain ⟨name, v⟩ := member
    intro b hb
    rw [membersTail] at hb
    obtain rfl : 0x2c = b := Option.some.inj hb
    decide

/-- After a comma another item or member is due. -/
theorem skipNested_comma (inner : Bracket) {bs rest : Bytes} (h : inner.skipLead bs = .ok rest) (fuel : Nat)
    (nest : List Bracket) :
    skipNested (fuel + 1) false (inner :: nest) (0x2c :: bs) = skipNested fuel true (inner :: nest) rest := by
  rw [skipNested, skipBlanks_of_head rfl]
  simp only [if_true, h, bind, Except.bind]

/-- An array that is not empty is entered. -/
theorem skipNested_square {b : UInt8} (hblank : isBlank b = false) (hclose : b ≠ 0x5d) (bs : Bytes) (fuel : Nat)
    (nest : List Bracket) :
    skipNested (fuel + 1) true nest (0x5b :: b :: bs) = skipNested fuel true (.square :: nest) (b :: bs) := by
  rw [skipNested, skipBlanks_of_head rfl]
  simp only [true_or, if_true, skipBlanks_of_head hblank, Bracket.close, if_neg hclose, Bracket.skipLead,
    bind, Except.bind]

/-- An object that is not empty is entered up to its first value. -/
theorem skipNested_curly (member : String × Value) (rest : Bytes) (fuel : Nat) (nest : List Bracket) :
    skipNested (fuel + 1) true nest (0x7b :: (memberBytes member ++ rest)) =
      skipNested fuel true (.curly :: nest) (charBytes member.2.chars ++ rest) := by
  obtain ⟨bs, hbs⟩ := memberBytes_eq member
  have hlead := skipLead_member member rest
  rw [hbs, List.cons_append] at hlead ⊢
  rw [skipNested, skipBlanks_of_head rfl]
  simp only [or_true, if_true, if_neg (by decide : ¬ (0x7b : UInt8) = 0x5b),
    skipBlanks_of_head (rfl : isBlank 0x22 = false), Bracket.close,
    if_neg (by decide : ¬ (0x22 : UInt8) = 0x7d), hlead, bind, Except.bind]

mutual

/-- A printed value is passed over. -/
theorem skipNested_chars : ∀ v : Value,
    ∃ k ≤ (charBytes v.chars).length, ∀ fuel nest rest, StopsNumber rest →
      skipNested (fuel + k) true nest (charBytes v.chars ++ rest) = skipNested fuel false nest rest
  | .null => ⟨1, by decide, fun _ _ _ _ => rfl⟩
  | .bool true => ⟨1, by decide, fun _ _ _ _ => rfl⟩
  | .bool false => ⟨1, by decide, fun _ _ _ _ => rfl⟩
  | .number n => by
    obtain ⟨b, bs, hbytes, hb⟩ := skippedScalar_number n
    rw [Value.chars, hbytes]
    exact ⟨1, by simp, fun fuel nest _ hrest => skipNested_scalar hb fuel nest hrest⟩
  | .string s => by
    obtain ⟨b, bs, hbytes, hb⟩ := skippedScalar_string s
    rw [Value.chars, hbytes]
    exact ⟨1, by simp, fun fuel nest _ hrest => skipNested_scalar hb fuel nest hrest⟩
  | .array [] => ⟨1, by decide, fun _ _ _ _ => rfl⟩
  | .array (v :: items) => by
    obtain ⟨k, hk, hv⟩ := skipNested_chars v
    obtain ⟨l, hl, hitems⟩ := skipNested_itemsTail items
    refine ⟨l + k + 1, ?_, fun fuel nest rest _ => ?_⟩
    · rw [Value.chars, charBytes_append, charBytes_cons, List.length_append, List.length_append]
      exact Nat.le_trans (by omega) (Nat.add_le_add (Nat.add_le_add (Nat.le_refl 1) hk) hl)
    · obtain ⟨b, bs, hbytes, hblank, hclose, -⟩ := value_head v
      have hnested := hv (fuel + l) (.square :: nest) (charBytes (itemsTail items) ++ rest)
        (stopsNumber_itemsTail items rest)
      rw [Value.chars, charBytes_append, List.append_assoc]
      change skipNested (fuel + (l + k) + 1) true nest (0x5b :: (charBytes v.chars ++ _)) = _
      rw [hbytes, List.cons_append] at hnested ⊢
      rw [skipNested_square hblank hclose, ← Nat.add_assoc, hnested, hitems]
  | .object [] => ⟨1, by decide, fun _ _ _ _ => rfl⟩
  | .object ((name, v) :: members) => by
    obtain ⟨k, hk, hv⟩ := skipNested_chars v
    obtain ⟨l, hl, hmembers⟩ := skipNested_membersTail members
    rw [charBytes_object_cons]
    refine ⟨l + k + 1, ?_, fun fuel nest rest _ => ?_⟩
    · rw [List.length_cons, List.length_append, memberBytes, List.length_append, List.length_cons]
      dsimp only
      omega
    · have hnested := hv (fuel + l) (.curly :: nest) (charBytes (membersTail members) ++ rest)
        (stopsNumber_membersTail members rest)
      rw [List.cons_append, List.append_assoc]
      change skipNested (fuel + (l + k) + 1) true nest _ = _
      rw [skipNested_curly, ← Nat.add_assoc, hnested, hmembers]

/-- The items after the first one are passed over with the closing bracket. -/
theorem skipNested_itemsTail : ∀ items : List Value,
    ∃ k ≤ (charBytes (itemsTail items)).length, ∀ fuel nest rest,
      skipNested (fuel + k) false (.square :: nest) (charBytes (itemsTail items) ++ rest) =
        skipNested fuel false nest rest
  | [] => ⟨1, by decide, fun _ _ _ => rfl⟩
  | v :: items => by
    obtain ⟨k, hk, hv⟩ := skipNested_chars v
    obtain ⟨l, hl, hitems⟩ := skipNested_itemsTail items
    have hchars : charBytes (itemsTail (v :: items)) = 0x2c :: (charBytes v.chars ++ charBytes (itemsTail items)) := by
      rw [itemsTail, charBytes_append]
      rfl
    rw [hchars]
    refine ⟨l + k + 1, ?_, fun fuel nest rest => ?_⟩
    · simp only [List.length_cons, List.length_append]
      omega
    · rw [List.cons_append, List.append_assoc, ← Nat.add_assoc, ← Nat.add_assoc, skipNested_comma .square rfl,
        hv _ _ _ (stopsNumber_itemsTail items rest), hitems]

/-- The members after the first one are passed over with the closing brace. -/
theorem skipNested_membersTail : ∀ members : List (String × Value),
    ∃ k ≤ (charBytes (membersTail members)).length, ∀ fuel nest rest,
      skipNested (fuel + k) false (.curly :: nest) (charBytes (membersTail members) ++ rest) =
        skipNested fuel false nest rest
  | [] => ⟨1, by decide, fun _ _ _ => rfl⟩
  | (name, v) :: members => by
    obtain ⟨k, hk, hv⟩ := skipNested_chars v
    obtain ⟨l, hl, hmembers⟩ := skipNested_membersTail members
    rw [charBytes_membersTail_cons]
    refine ⟨l + k + 1, ?_, fun fuel nest rest => ?_⟩
    · rw [List.length_cons, List.length_append, memberBytes, List.length_append, List.length_cons]
      dsimp only
      omega
    · rw [List.cons_append, List.append_assoc, ← Nat.add_assoc, ← Nat.add_assoc,
        skipNested_comma .curly (skipLead_member (name, v) _),
        hv _ _ _ (stopsNumber_membersTail members rest), hmembers]

end

/-- A printed value is passed over, whatever follows. -/
theorem skipValue_chars (v : Value) {rest : Bytes} (hrest : StopsNumber rest) :
    skipValue (charBytes v.chars ++ rest) = .ok rest := by
  obtain ⟨k, hk, hv⟩ := skipNested_chars v
  obtain ⟨spare, hspare⟩ := Nat.exists_eq_add_of_le hk
  have hfuel : (charBytes v.chars ++ rest).length + 2 = spare + rest.length + 1 + 1 + k := by
    rw [List.length_append, hspare]
    omega
  rw [skipValue, hfuel, hv _ _ _ hrest, skipNested]

end Parlor.Json
