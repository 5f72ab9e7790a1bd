import Parlor.Proofs.Json.Numerals
import Parlor.Proofs.Json.Records

/-!
# Printing and reading values

A printed value is read up to its end, as the value itself if all its numbers are whole. Of a real
number the text decides what comes back, so `Value.reread` says what is left of a value. What a reader
makes of any bytes nests as deep as it was told at most, and prints and reads from then on unchanged.
-/

namespace Parlor.Json

/-! ## The shape of values -/

/-- A value that nests at most `depth` containers, with ordered members and numbers of a kind. -/
inductive Value.Within (p : Number → Prop) : (depth : Nat) → Value → Prop
  | null (depth : Nat) : Within p depth .null
  | bool (depth : Nat) (b : Bool) : Within p depth (.bool b)
  | number (depth : Nat) {n : Number} (hn : p n) : Within p depth (.number n)
  | string (depth : Nat) (s : String) : Within p depth (.string s)
  | array {depth : Nat} {items : List Value} (hitems : ∀ v ∈ items, Within p depth v) :
      Within p (depth + 1) (.array items)
  | object {depth : Nat} {members : List (String × Value)} (hordered : OrderedMembers members)
      (hmembers : ∀ m ∈ members, Within p depth m.2) : Within p (depth + 1) (.object members)

mutual

/-- Tests that no number in a value is real. -/
def Value.isWhole : Value → Bool
  | .number n => n.isWhole
  | .array items => itemsAreWhole items
  | .object members => membersAreWhole members
  | .null | .bool _ | .string _ => true

/-- Tests that no number in some items is real. -/
def itemsAreWhole : List Value → Bool
  | [] => true
  | v :: rest => v.isWhole && itemsAreWhole rest

/-- Tests that no number in some members is real. -/
def membersAreWhole : List (String × Value) → Bool
  | [] => true
  | (_, v) :: rest => v.isWhole && membersAreWhole rest

end

/-- Items are whole one by one. -/
theorem itemsAreWhole_iff (items : List Value) : itemsAreWhole items = true ↔ ∀ v ∈ items, v.isWhole = true := by
  induction items with
  | nil => simp [itemsAreWhole]
  | cons v rest ih => simp [itemsAreWhole, ih]

/-- Members are whole one by one. -/
theorem membersAreWhole_iff (members : List (String × Value)) :
    membersAreWhole members = true ↔ ∀ m ∈ members, m.2.isWhole = true := by
  induction members with
  | nil => simp [membersAreWhole]
  | cons m rest ih =>
    obtain ⟨name, v⟩ := m
    simp [membersAreWhole, ih]

/-- A whole number that fits a signed or an unsigned word. -/
def Number.IsWord (n : Number) : Prop := n.Fits ∧ n.isWhole = true

/-- A value that holds whole numbers of the signed or unsigned range only. -/
abbrev Value.IsPlain (depth : Nat) (v : Value) : Prop := v.Within Number.IsWord depth

namespace Value.Within

variable {depth : Nat} {v : Value}

/-- Where no number is real, all numbers that fit are words. -/
theorem isPlain (h : v.Within Number.Fits depth) (hwhole : v.isWhole = true) : v.IsPlain depth := by
  induction h with
  | null depth => exact .null depth
  | bool depth b => exact .bool depth b
  | number depth hn => exact .number depth ⟨hn, by simpa [Value.isWhole] using hwhole⟩
  | string depth s => exact .string depth s
  | array hitems ih =>
    rw [Value.isWhole, itemsAreWhole_iff] at hwhole
    exact .array fun v hv => ih v hv (hwhole v hv)
  | object hordered hmembers ih =>
    rw [Value.isWhole, membersAreWhole_iff] at hwhole
    exact .object hordered fun m hm => ih m hm (hwhole m hm)

end Value.Within

/-! ## What is left of a value -/

/-- What is read of a printed number. -/
def Number.reread (n : Number) : Except Fault Value := (readValue 0 (charBytes n.chars)).map (·.1)

mutual

/-- What is read of a printed value. -/
def Value.reread : Value → Except Fault Value
  | .number n => n.reread
  | .array items => (rereadItems [] items).map .array
  | .object members => (rereadMembers [] members).map .object
  | .null => .ok .null
  | .bool b => .ok (.bool b)
  | .string s => .ok (.string s)

/-- What is read of printed items, after others held in reverse. -/
def rereadItems (acc : List Value) : List Value → Except Fault (List Value)
  | [] => .ok acc.reverse
  | v :: rest => v.reread.bind fun w => rereadItems (w :: acc) rest

/-- What is read of printed members, put in among others. -/
def rereadMembers (acc : List (String × Value)) : List (String × Value) → Except Fault (List (String × Value))
  | [] => .ok acc
  | (name, v) :: rest => v.reread.bind fun w => rereadMembers (insertMember name w acc) rest

end

/-! ## Entries of containers -/

section Entries

variable {σ β : Type} {close : UInt8} {entry : σ → Bytes → Except Fault (σ × Bytes)} {bytes : β → Bytes}
  {step : σ → β → Except Fault σ}

/-- The bytes of the entries after the first one, each after a comma, and the closing bracket. -/
def entriesTail (close : UInt8) (bytes : β → Bytes) : List β → Bytes
  | [] => [close]
  | x :: xs => 0x2c :: (bytes x ++ entriesTail close bytes xs)

/-- An entry that neither a blank nor the closing bracket opens. -/
def Opens (close : UInt8) (bs : Bytes) : Prop := ∃ b rest, bs = b :: rest ∧ isBlank b = false ∧ b ≠ close

/-- What follows an entry is no part of a number. -/
theorem stopsNumber_entriesTail (hclose : close = 0x5d ∨ close = 0x7d) (xs : List β) (rest : Bytes) :
    StopsNumber (entriesTail close bytes xs ++ rest) := by
  intro b hb
  cases xs with
  | nil =>
    obtain rfl : close = b := Option.some.inj hb
    rcases hclose with rfl | rfl
    · decide
    · decide
  | cons x xs =>
    obtain rfl : 0x2c = b := Option.some.inj hb
    decide

/-- Entries are read one after the other up to the closing bracket. -/
theorem foldEntries_entriesTail (hclose : close = 0x5d ∨ close = 0x7d) {xs : List β}
    (hopens : ∀ x ∈ xs, Opens close (bytes x))
    (hentry : ∀ acc, ∀ x ∈ xs, Yields (entry acc) (bytes x) (step acc x)) (acc : σ) (rest : Bytes) {fuel : Nat}
    (hfuel : xs.length < fuel) :
    foldEntries close entry fuel false acc (entriesTail close bytes xs ++ rest) =
      (xs.foldlM step acc).map fun final => (final, rest) := by
  have hblank : isBlank close = false ∧ (0x2c : UInt8) ≠ close := by
    rcases hclose with rfl | rfl
    · decide
    · decide
  induction xs generalizing acc fuel with
  | nil =>
    obtain ⟨fuel, rfl⟩ := Nat.exists_eq_succ_of_ne_zero (Nat.ne_zero_of_lt hfuel)
    rw [entriesTail, List.singleton_append, foldEntries, skipBlanks_of_head hblank.1]
    simp only [if_true]
    rfl
  | cons x xs ih =>
    obtain ⟨fuel, rfl⟩ := Nat.exists_eq_succ_of_ne_zero (Nat.ne_zero_of_lt hfuel)
    obtain ⟨b, bs, hbytes, hb, hne⟩ := hopens x List.mem_cons_self
    have hread := hentry acc x List.mem_cons_self (entriesTail close bytes xs ++ rest)
      (stopsNumber_entriesTail hclose xs rest)
    rw [entriesTail, List.cons_append, List.append_assoc, foldEntries, skipBlanks_of_head rfl]
    rw [hbytes, List.cons_append] at hread ⊢
    simp only [if_neg hblank.2, Bool.false_eq_true, if_false, if_true, skipBlanks_of_head hb, if_neg hne, hread,
      List.foldlM_cons]
    cases step acc x with
    | error f => rfl
    | ok acc' =>
      exact ih (fun y hy => hopens y (List.mem_cons_of_mem x hy))
        (fun acc y hy => hentry acc y (List.mem_cons_of_mem x hy)) acc' (by simpa using hfuel)

/-- Each entry takes a byte at least. -/
theorem length_entriesTail (xs : List β) : xs.length < (entriesTail close bytes xs).length := by
  induction xs with
  | nil => exact Nat.one_pos
  | cons x xs ih =>
    rw [entriesTail, List.length_cons, List.length_cons, List.length_append]
    omega

/-- A container without entries closes at once. -/
theorem readEntries_nil (hclose : close = 0x5d ∨ close = 0x7d) (start : σ) (rest : Bytes) :
    readEntries close entry start (close :: rest) = .ok (start, rest) := by
  have hblank : isBlank close = false := by
    rcases hclose with rfl | rfl
    · rfl
    · rfl
  rw [readEntries, foldEntries, skipBlanks_of_head hblank]
  simp only [if_true]

/-- All entries of a container are read. -/
theorem readEntries_cons (hclose : close = 0x5d ∨ close = 0x7d) {x : β} {xs : List β}
    (hopens : ∀ y ∈ x :: xs, Opens close (bytes y))
    (hentry : ∀ acc, ∀ y ∈ x :: xs, Yields (entry acc) (bytes y) (step acc y)) (start : σ) (rest : Bytes) :
    readEntries close entry start (bytes x ++ (entriesTail close bytes xs ++ rest)) =
      ((x :: xs).foldlM step start).map fun final => (final, rest) := by
  obtain ⟨b, bs, hbytes, hb, hne⟩ := hopens x List.mem_cons_self
  have hread := hentry start x List.mem_cons_self (entriesTail close bytes xs ++ rest)
    (stopsNumber_entriesTail hclose xs rest)
  have hlength : xs.length < (bytes x ++ (entriesTail close bytes xs ++ rest)).length := by
    rw [List.length_append, List.length_append]
    have hshort : xs.length < (entriesTail close bytes xs).length := length_entriesTail xs
    omega
  rw [readEntries]
  rw [hbytes, List.cons_append] at hread hlength ⊢
  rw [foldEntries, skipBlanks_of_head hb]
  simp only [if_neg hne, if_true, hread, List.foldlM_cons]
  cases step start x with
  | error f => rfl
  | ok acc =>
    exact foldEntries_entriesTail hclose (fun y hy => hopens y (List.mem_cons_of_mem x hy))
      (fun acc y hy => hentry acc y (List.mem_cons_of_mem x hy)) acc rest hlength

end Entries

/-- The items after the first one as entries. -/
theorem charBytes_itemsTail (items : List Value) :
    charBytes (itemsTail items) = entriesTail 0x5d (fun v : Value => charBytes v.chars) items := by
  induction items with
  | nil => rfl
  | cons v rest ih =>
    rw [itemsTail, entriesTail, charBytes_append, charBytes_cons, ih]
    rfl

/-- The members after the first one as entries. -/
theorem charBytes_membersTail (members : List (String × Value)) :
    charBytes (membersTail members) = entriesTail 0x7d memberBytes members := by
  induction members with
  | nil => rfl
  | cons m rest ih => rw [charBytes_membersTail_cons, entriesTail, ih]

/-- A printed value opens an item. -/
theorem opens_value (v : Value) : Opens 0x5d (charBytes v.chars) := by
  obtain ⟨b, bs, hbytes, hblank, hclose, -⟩ := value_head v
  exact ⟨b, bs, hbytes, hblank, hclose⟩

/-- A printed member opens with a quote. -/
theorem opens_member (m : String × Value) : Opens 0x7d (memberBytes m) := by
  obtain ⟨bs, hbytes⟩ := memberBytes_eq m
  exact ⟨0x22, bs, hbytes, rfl, by decide⟩

/-! ## Reading printed values -/

/-- A value without brackets is read as a scalar. -/
theorem readValue_scalar {b : UInt8} (hblank : isBlank b = false) (hsquare : b ≠ 0x5b) (hcurly : b ≠ 0x7b)
    (depth : Nat) (rest : Bytes) : readValue depth (b :: rest) = readScalar b rest := by
  rw [readValue.eq_def]
  simp only [skipBlanks_of_head hblank, if_neg hsquare, if_neg hcurly]

/-- What opens with a bracket is read item by item, one level deeper. -/
theorem readValue_square (depth : Nat) (rest : Bytes) :
    readValue (depth + 1) (0x5b :: rest) =
      (readEntries 0x5d (readItem (readValue depth)) [] rest).map fun p => (.array p.1.reverse, p.2) := by
  rw [readValue.eq_def]
  change (readEntries 0x5d (readItem (readValue depth)) [] rest >>= _) = _
  cases readEntries 0x5d (readItem (readValue depth)) [] rest <;> rfl

/-- What opens with a brace is read member by member, one level deeper. -/
theorem readValue_curly (depth : Nat) (rest : Bytes) :
    readValue (depth + 1) (0x7b :: rest) =
      (readEntries 0x7d (readMember (readValue depth)) [] rest).map fun p => (.object p.1, p.2) := by
  rw [readValue.eq_def]
  change (readEntries 0x7d (readMember (readValue depth)) [] rest >>= _) = _
  cases readEntries 0x7d (readMember (readValue depth)) [] rest <;> rfl

/-- A printed number is read at any depth. -/
theorem Number.yields (n : Number) (depth : Nat) : Yields (readValue depth) (charBytes n.chars) n.reread := by
  obtain ⟨b, bs, hbytes, hb, result, hresult⟩ := readScalar_number n
  have hread (depth : Nat) (rest : Bytes) (hrest : StopsNumber rest) :
      readValue depth (charBytes n.chars ++ rest) = result.map fun v => (v, rest) := by
    rw [hbytes, List.cons_append, ← hresult rest hrest]
    rcases hb with hb | rfl
    · obtain ⟨hblank, hsquare, hcurly, -⟩ := head_of_isDigit hb
      exact readValue_scalar hblank hsquare hcurly depth _
    · exact readValue_scalar rfl (by decide) (by decide) depth _
  have hnone : n.reread = result := by
    have hempty := hread 0 [] fun b hb => by simp at hb
    rw [List.append_nil] at hempty
    rw [Number.reread, hempty]
    cases result <;> rfl
  rw [hnone]
  exact hread depth

/-- A whole number that fits a word comes back. -/
theorem Number.IsWord.reread {n : Number} (h : n.IsWord) : n.reread = .ok (.number n) := by
  obtain ⟨hfits, hwhole⟩ := h
  cases n with
  | real x => simp [Number.isWhole] at hwhole
  | integer n =>
    obtain ⟨b, bs, hbytes, hb, hread⟩ := readScalar_integerChars hfits.1 hfits.2
    have hempty := hread [] fun b hb => by simp at hb
    rw [List.append_nil] at hempty
    have hvalue : readValue 0 (b :: bs) = .ok (.number (.integer n), []) := by
      rw [← hempty]
      rcases hb with hb | rfl
      · obtain ⟨hblank, hsquare, hcurly, -⟩ := head_of_isDigit hb
        exact readValue_scalar hblank hsquare hcurly 0 _
      · exact readValue_scalar rfl (by decide) (by decide) 0 _
    rw [Number.reread, Number.chars, hbytes, hvalue]
    rfl

/-- A printed string is read as a string. -/
theorem yields_string (depth : Nat) (s : String) :
    Yields (readValue depth) (charBytes (quotedChars s)) (.ok (.string s)) := by
  intro rest _
  rw [charBytes_quotedChars, List.cons_append, readValue_scalar rfl (by decide) (by decide), List.append_assoc,
    List.singleton_append, readScalar, if_pos rfl, readString_quoted]
  rfl

/-- The items of an array are read in their order. -/
theorem foldlM_reread_items (items acc : List Value) :
    (items.foldlM (fun acc (v : Value) => v.reread.map (· :: acc)) acc).map List.reverse = rereadItems acc items := by
  induction items generalizing acc with
  | nil => rfl
  | cons v rest ih =>
    rw [List.foldlM_cons, rereadItems]
    cases v.reread with
    | error f => rfl
    | ok w => exact ih (w :: acc)

/-- The members of an object are put in one by one. -/
theorem foldlM_reread_members (members acc : List (String × Value)) :
    members.foldlM (fun acc m => m.2.reread.map fun v => insertMember m.1 v acc) acc =
      rereadMembers acc members := by
  induction members generalizing acc with
  | nil => rfl
  | cons m rest ih =>
    obtain ⟨name, v⟩ := m
    rw [List.foldlM_cons, rereadMembers]
    dsimp only
    cases v.reread with
    | error f => rfl
    | ok w => exact ih (insertMember name w acc)

/-- A printed member is read as its name and what is left of its value. -/
theorem readMember_yields {read : Bytes → Except Fault (Value × Bytes)} {m : String × Value}
    (hvalue : Yields read (charBytes m.2.chars) m.2.reread) (acc : List (String × Value)) :
    Yields (readMember read acc) (memberBytes m) (m.2.reread.map fun v => insertMember m.1 v acc) := by
  intro rest hrest
  rw [readMember, readName_memberBytes]
  change (read (charBytes m.2.chars ++ rest) >>= _) = _
  rw [hvalue rest hrest]
  cases m.2.reread <;> rfl

/-- The members of a printed object are read up to the closing brace. -/
theorem readEntries_members {read : Bytes → Except Fault (Value × Bytes)} {members : List (String × Value)}
    (hmembers : ∀ m ∈ members, Yields read (charBytes m.2.chars) m.2.reread) :
    ∃ bs, charBytes (Value.object members).chars = 0x7b :: bs ∧
      Yields (readEntries 0x7d (readMember read) []) bs (rereadMembers [] members) := by
  cases members with
  | nil => exact ⟨[0x7d], rfl, fun rest _ => readEntries_nil (.inr rfl) [] rest⟩
  | cons m rest =>
    refine ⟨_, charBytes_object_cons m rest, fun after _ => ?_⟩
    rw [List.append_assoc, charBytes_membersTail,
      readEntries_cons (.inr rfl) (fun m _ => opens_member m)
        (fun acc y hy => readMember_yields (hmembers y hy) acc), foldlM_reread_members]

/-- A printed value is read up to its end. -/
theorem Value.Within.yields {p : Number → Prop} {depth : Nat} {v : Value} (h : v.Within p depth) :
    Yields (readValue depth) (charBytes v.chars) v.reread := by
  induction h with
  | null depth => exact fun rest _ => readValue_scalar rfl (by decide) (by decide) depth _
  | bool depth b =>
    cases b
    · exact fun rest _ => readValue_scalar rfl (by decide) (by decide) depth _
    · exact fun rest _ => readValue_scalar rfl (by decide) (by decide) depth _
  | @number depth n _ => exact n.yields depth
  | string depth s => exact yields_string depth s
  | @array depth items _ ih =>
    intro rest _
    rw [Value.reread]
    cases items with
    | nil =>
      change readValue (depth + 1) (0x5b :: 0x5d :: rest) = _
      rw [readValue_square, readEntries_nil (.inl rfl)]
      rfl
    | cons v items =>
      have hitem : ∀ acc, ∀ w ∈ v :: items, Yields (readItem (readValue depth) acc) (charBytes w.chars)
          (w.reread.map (· :: acc)) := by
        intro acc w hw rest hrest
        rw [readItem, ih w hw rest hrest]
        cases w.reread <;> rfl
      have hbytes : charBytes (Value.array (v :: items)).chars ++ rest =
          0x5b :: (charBytes v.chars ++ (entriesTail 0x5d (fun v => charBytes v.chars) items ++ rest)) := by
        rw [Value.chars, charBytes_append, charBytes_cons, charBytes_itemsTail, List.append_assoc]
        rfl
      rw [hbytes, readValue_square, readEntries_cons (.inl rfl) (fun w _ => opens_value w) hitem,
        ← foldlM_reread_items]
      cases (v :: items).foldlM (fun acc v => v.reread.map (· :: acc)) [] <;> rfl
  | @object depth members _ _ ih =>
    intro rest hrest
    obtain ⟨bs, hbytes, hread⟩ := readEntries_members ih
    rw [hbytes, List.cons_append, readValue_curly, hread rest hrest, Value.reread]
    cases rereadMembers [] members <;> rfl

/-! ## Values that come back -/

/-- A member of a greater name goes to the end. -/
theorem insertMember_last {α : Type} {name : String} {value : α} {members : List (String × α)}
    (h : ∀ m ∈ members, m.1 < name) : insertMember name value members = members ++ [(name, value)] := by
  induction members with
  | nil => rfl
  | cons m rest ih =>
    obtain ⟨key, old⟩ := m
    have hlt : key < name := h _ List.mem_cons_self
    have hne : name ≠ key := fun heq => String.lt_irrefl _ (heq ▸ hlt)
    rw [insertMember, if_neg hne, if_neg (String.lt_asymm hlt), ih fun m hm => h m (List.mem_cons_of_mem _ hm),
      List.cons_append]

/-- Items that come back do so together. -/
theorem rereadItems_eq_ok {items : List Value} (h : ∀ v ∈ items, v.reread = .ok v) (acc : List Value) :
    rereadItems acc items = .ok (acc.reverse ++ items) := by
  induction items generalizing acc with
  | nil => rw [rereadItems, List.append_nil]
  | cons v rest ih =>
    rw [rereadItems, h v List.mem_cons_self]
    refine (ih (fun w hw => h w (List.mem_cons_of_mem v hw)) (v :: acc)).trans ?_
    rw [List.reverse_cons, List.append_assoc, List.singleton_append]

/-- Ordered members that come back do so together and in their order. -/
theorem rereadMembers_eq_ok {members acc : List (String × Value)} (hordered : OrderedMembers (acc ++ members))
    (h : ∀ m ∈ members, m.2.reread = .ok m.2) : rereadMembers acc members = .ok (acc ++ members) := by
  induction members generalizing acc with
  | nil => rw [rereadMembers, List.append_nil]
  | cons m rest ih =>
    obtain ⟨name, v⟩ := m
    have hbefore : ∀ m ∈ acc, m.1 < name :=
      fun m hm => (List.pairwise_append.mp hordered).2.2 m hm _ List.mem_cons_self
    rw [rereadMembers, h (name, v) List.mem_cons_self]
    change rereadMembers (insertMember name v acc) rest = _
    rw [insertMember_last hbefore, ih (by rwa [List.append_assoc])
      fun m hm => h m (List.mem_cons_of_mem _ hm), List.append_assoc, List.singleton_append]

/-- A value without real numbers comes back. -/
theorem Value.IsPlain.reread {depth : Nat} {v : Value} (h : v.IsPlain depth) : v.reread = .ok v := by
  induction h with
  | null | bool | string => rfl
  | number _ hn => exact hn.reread
  | array _ ih => rw [Value.reread, rereadItems_eq_ok ih]; rfl
  | object hordered _ ih => rw [Value.reread, rereadMembers_eq_ok (show OrderedMembers ([] ++ _) from hordered) ih]; rfl

/-! ## Values that were read -/

/-- What is read of a scalar. -/
theorem readScalar_within {b : UInt8} {bs rest : Bytes} {v : Value} (h : readScalar b bs = .ok (v, rest))
    (depth : Nat) : v.Within Number.Fits depth := by
  have hnumber {negative : Bool} {bs : Bytes}
      (h : (readNumber negative bs >>= fun p => .ok (Value.number p.1, p.2)) = Except.ok (v, rest)) :
      v.Within Number.Fits depth := by
    cases hn : readNumber negative bs with
    | error f => simp [hn, bind, Except.bind] at h
    | ok p =>
      simp only [hn, bind, Except.bind, Except.ok.injEq, Prod.mk.injEq] at h
      obtain ⟨rfl, -⟩ := h
      exact .number depth (readNumber_fits _ _ _ _ hn)
  unfold readScalar at h
  split at h
  · cases hs : readString bs with
    | error f => simp [hs, bind, Except.bind] at h
    | ok p =>
      simp only [hs, bind, Except.bind, Except.ok.injEq, Prod.mk.injEq] at h
      exact h.1 ▸ .string depth p.1
  · split at h
    · exact hnumber h
    · split at h
      · exact hnumber h
      · simp only [bind, Except.bind] at h
        repeat' split at h
        all_goals first | contradiction | skip
        all_goals
          simp only [Except.ok.injEq, Prod.mk.injEq] at h
          obtain ⟨rfl, -⟩ := h
        · exact .null depth
        · exact .bool depth true
        · exact .bool depth false

/-- The members of a list hold values of a shape and are ordered. -/
def MembersWithin (p : Number → Prop) (depth : Nat) (members : List (String × Value)) : Prop :=
  OrderedMembers members ∧ ∀ m ∈ members, m.2.Within p depth

/-- A value that is put in is one of the new members, and the others were there before. -/
theorem MembersWithin.insert {p : Number → Prop} {depth : Nat} {members : List (String × Value)}
    (h : MembersWithin p depth members) (name : String) {v : Value} (hv : v.Within p depth) :
    MembersWithin p depth (insertMember name v members) := by
  refine ⟨h.1.insert name v, fun m hm => ?_⟩
  rcases mem_insertMember hm with rfl | hm
  · exact hv
  · exact h.2 m hm

/-- Reading a member keeps the shape of the members. -/
theorem readMember_membersWithin {p : Number → Prop} {depth : Nat} {read : Bytes → Except Fault (Value × Bytes)}
    (hread : Gives (Value.Within p depth) read) : Preserves (MembersWithin p depth) (readMember read) := by
  intro acc bs acc' rest hacc h
  simp only [readMember, bind, Except.bind] at h
  repeat' split at h
  all_goals first | contradiction | skip
  rename_i hvalue
  simp only [Except.ok.injEq, Prod.mk.injEq] at h
  exact h.1 ▸ hacc.insert _ (hread _ _ _ hvalue)

/-- A value that was read nests as deep as the reader was told at most, and its numbers fit. -/
theorem readValue_within (depth : Nat) : Gives (Value.Within Number.Fits depth) (readValue depth) := by
  induction depth with
  | zero =>
    intro bs v rest h
    rw [readValue.eq_def] at h
    dsimp only at h
    repeat' split at h
    all_goals first | contradiction | exact readScalar_within h 0
  | succ depth ih =>
    intro bs v rest h
    rw [readValue.eq_def] at h
    dsimp only at h
    split at h
    · contradiction
    · split at h
      · have hitems : Preserves (fun items => ∀ v ∈ items, v.Within Number.Fits depth)
            (readItem (readValue depth)) := by
          intro acc bs acc' rest hacc h
          cases hv : readValue depth bs with
          | error f => simp [readItem, hv, bind, Except.bind] at h
          | ok p =>
            simp only [readItem, hv, bind, Except.bind, Except.ok.injEq, Prod.mk.injEq] at h
            rw [← h.1]
            exact List.forall_mem_cons.mpr ⟨ih _ _ _ hv, hacc⟩
        simp only [bind, Except.bind] at h
        split at h
        · contradiction
        · rename_i hread
          simp only [Except.ok.injEq, Prod.mk.injEq] at h
          rw [← h.1]
          refine .array fun v hv => ?_
          exact readEntries_preserves hitems (by simp) hread v (List.mem_reverse.mp hv)
      · split at h
        · simp only [bind, Except.bind] at h
          split at h
          · contradiction
          · rename_i hread
            simp only [Except.ok.injEq, Prod.mk.injEq] at h
            have hmembers := readEntries_preserves (readMember_membersWithin ih)
              (⟨List.Pairwise.nil, by simp⟩ : MembersWithin Number.Fits depth []) hread
            exact h.1 ▸ .object hmembers.1 hmembers.2
        · exact readScalar_within h _

/-- The members of an object that was read nest less deep than the object. -/
theorem readMembers_within (depth : Nat) :
    Gives (fun members => (Value.object members).Within Number.Fits depth) (readMembers depth) := by
  intro bs members rest h
  unfold readMembers at h
  split at h
  · contradiction
  · split at h
    · split at h
      · contradiction
      · have hmembers := readEntries_preserves (readMember_membersWithin (readValue_within _))
          (⟨List.Pairwise.nil, by simp⟩ : MembersWithin Number.Fits _ []) h
        exact .object hmembers.1 hmembers.2
    · contradiction

/-- Only a text that begins like null is read as null. -/
theorem readValue_null {depth : Nat} {bs rest : Bytes} (h : readValue depth bs = .ok (.null, rest)) :
    ∃ after, skipBlanks bs = 0x6e :: after := by
  rw [readValue.eq_def] at h
  dsimp only at h
  split at h
  · contradiction
  · rename_i b after hskip
    have hscalar (h : readScalar b after = .ok (.null, rest)) : b = 0x6e := by
      simp only [readScalar, bind, Except.bind] at h
      repeat' split at h
      all_goals simp_all
    split at h
    · split at h
      · contradiction
      · simp only [bind, Except.bind] at h
        split at h <;> simp at h
    · split at h
      · split at h
        · contradiction
        · simp only [bind, Except.bind] at h
          split at h <;> simp at h
      · exact ⟨after, by rw [hskip, hscalar h]⟩

end Parlor.Json
