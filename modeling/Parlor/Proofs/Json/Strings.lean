import Parlor.Json.Printer
import Parlor.Json.Reader

/-!
# Strings between quotes

A printed text as bytes, and what the readers of strings make of it. Quotes, backslashes and control
characters are escaped; every other character is written as it is encoded, and none of its bytes is
a quote, a backslash or a control character. So reading goes on character by character.
-/

namespace Parlor.Json

/-! ## Texts as bytes -/

/-- The bytes of characters. -/
def charBytes (cs : List Char) : Bytes := cs.flatMap String.utf8EncodeChar

@[simp] theorem charBytes_nil : charBytes [] = [] := rfl

@[simp] theorem charBytes_cons (c : Char) (cs : List Char) :
    charBytes (c :: cs) = String.utf8EncodeChar c ++ charBytes cs := rfl

@[simp] theorem charBytes_append (cs ds : List Char) :
    charBytes (cs ++ ds) = charBytes cs ++ charBytes ds := List.flatMap_append

/-- The bytes of an array from a place on, after those that were listed before. -/
theorem toList_loop (bs : ByteArray) (i : Nat) (r : List UInt8) :
    ByteArray.toList.loop bs i r = r.reverse ++ bs.data.toList.drop i := by
  fun_induction ByteArray.toList.loop bs i r with
  | case1 i r hlt ih =>
    have hdata : i < bs.data.toList.length := by simpa using hlt
    rw [ih, List.drop_eq_getElem_cons hdata]
    have hget : bs.get! i = bs.data.toList[i] := by
      rw [ByteArray.get!, Array.getElem_toList]
      exact getElem!_pos bs.data i (by simpa using hdata)
    simp [hget]
  | case2 i r hge =>
    have hdata : bs.data.toList.length ≤ i := by simpa using hge
    rw [List.drop_eq_nil_of_le hdata, List.append_nil]

/-- A text is encoded character by character. -/
theorem encodeUtf8_ofList (cs : List Char) : encodeUtf8 (String.ofList cs) = charBytes cs := by
  rw [encodeUtf8, String.toUTF8_eq_toByteArray, String.toByteArray_ofList, ByteArray.toList, toList_loop,
    List.utf8Encode, List.toList_data_toByteArray]
  rfl

/-- The bytes of characters encode their text. -/
theorem decodeUtf8_charBytes (cs : List Char) : decodeUtf8 (charBytes cs) = some (String.ofList cs) := by
  have hbytes : (⟨(charBytes cs).toArray⟩ : ByteArray) = cs.utf8Encode := by
    apply ByteArray.ext
    rw [List.utf8Encode, List.data_toByteArray]
    rfl
  have hvalid : ByteArray.IsValidUTF8 ⟨(charBytes cs).toArray⟩ := ⟨cs, hbytes⟩
  rw [decodeUtf8, String.fromUTF8?, dif_pos hvalid, Option.some.injEq, ← String.toByteArray_inj,
    String.toByteArray_ofList]
  exact hbytes

/-- A character of one byte. -/
theorem utf8EncodeChar_ascii {c : Char} (h : c.toNat < 0x80) : String.utf8EncodeChar c = [UInt8.ofNat c.toNat] := by
  have hle : c.val.toNat ≤ 0x7f := Nat.le_of_lt_succ h
  simp only [String.utf8EncodeChar, if_pos hle]
  rfl

/-- A character of several bytes has no byte below those of several. -/
theorem utf8EncodeChar_wide {c : Char} (h : 0x80 ≤ c.toNat) : ∀ b ∈ String.utf8EncodeChar c, 0x80 ≤ b := by
  have hbyte (n k : Nat) (hk : 0x80 ≤ k) (hn : n + k < 256) : (0x80 : UInt8) ≤ UInt8.ofNat (n + k) := by
    rw [UInt8.le_iff_toNat_le, UInt8.toNat_ofNat_of_lt' (by simpa using hn)]
    exact Nat.le_trans hk (Nat.le_add_left k n)
  have hval : 0x80 ≤ c.val.toNat := h
  fun_cases String.utf8EncodeChar with
  | case1 v hle => omega
  | case2 v h1 h2 =>
    simp only [List.mem_cons, List.not_mem_nil, or_false, forall_eq_or_imp, forall_eq]
    exact ⟨hbyte _ _ (by omega) (by omega), hbyte _ _ (by omega) (by omega)⟩
  | case3 v h1 h2 h3 =>
    simp only [List.mem_cons, List.not_mem_nil, or_false, forall_eq_or_imp, forall_eq]
    exact ⟨hbyte _ _ (by omega) (by omega), hbyte _ _ (by omega) (by omega),
      hbyte _ _ (by omega) (by omega)⟩
  | case4 v h1 h2 h3 =>
    simp only [List.mem_cons, List.not_mem_nil, or_false, forall_eq_or_imp, forall_eq]
    exact ⟨hbyte _ _ (by omega) (by omega), hbyte _ _ (by omega) (by omega),
      hbyte _ _ (by omega) (by omega), hbyte _ _ (by omega) (by omega)⟩

/-! ## Single steps of the readers -/

/-- A byte that stands for itself between quotes. -/
def IsPlain (b : UInt8) : Prop := b ≠ 0x22 ∧ b ≠ 0x5c ∧ ¬ b < 0x20

/-- A plain byte is kept. -/
theorem readQuoted_plain {b : UInt8} (h : IsPlain b) (acc rest : Bytes) :
    readQuoted none acc (b :: rest) = readQuoted none (b :: acc) rest := by
  obtain ⟨hquote, hslash, hcontrol⟩ := h
  simp [readQuoted, hquote, hslash, hcontrol]

/-- A plain byte is passed over. -/
theorem skipString_plain {b : UInt8} (h : IsPlain b) (rest : Bytes) :
    skipString (b :: rest) = skipString rest := by
  obtain ⟨hquote, hslash, hcontrol⟩ := h
  simp [skipString, hquote, hslash, hcontrol]

/-- Plain bytes are kept one by one. -/
theorem readQuoted_plains {bs : Bytes} (h : ∀ b ∈ bs, IsPlain b) (acc rest : Bytes) :
    readQuoted none acc (bs ++ rest) = readQuoted none (bs.reverse ++ acc) rest := by
  induction bs generalizing acc with
  | nil => rfl
  | cons b bs ih =>
    rw [List.cons_append, readQuoted_plain (h b List.mem_cons_self),
      ih (fun c hc => h c (List.mem_cons_of_mem b hc)), List.reverse_cons, List.append_assoc]
    rfl

/-- Plain bytes are passed over one by one. -/
theorem skipString_plains {bs : Bytes} (h : ∀ b ∈ bs, IsPlain b) (rest : Bytes) :
    skipString (bs ++ rest) = skipString rest := by
  induction bs with
  | nil => rfl
  | cons b bs ih =>
    rw [List.cons_append, skipString_plain (h b List.mem_cons_self),
      ih fun c hc => h c (List.mem_cons_of_mem b hc)]

/-- The closing quote ends a string. -/
theorem readQuoted_close (acc rest : Bytes) :
    readQuoted none acc (0x22 :: rest) = .ok (acc.reverse, rest) := by simp [readQuoted]

/-- The closing quote ends a string that is passed over. -/
theorem skipString_close (rest : Bytes) : skipString (0x22 :: rest) = .ok rest := by simp [skipString]

/-- An escape of one letter stands for one byte. -/
theorem readQuoted_escape {e b : UInt8} (h : escapeByte? e = some b) (hletter : e ≠ 0x75) (acc rest : Bytes) :
    readQuoted none acc (0x5c :: e :: rest) = readQuoted none (b :: acc) rest := by
  simp [readQuoted, h, hletter]

/-- An escape of one letter is passed over. -/
theorem skipString_escape {e b : UInt8} (h : escapeByte? e = some b) (hletter : e ≠ 0x75) (rest : Bytes) :
    skipString (0x5c :: e :: rest) = skipString rest := by simp [skipString, h, hletter]

/-- An escape of four digits stands for a code point, unless it is half of a surrogate pair. -/
theorem readQuoted_hex {a b c d : UInt8} {n : Nat} (h : hexWord? a b c d = some n) (hn : n < 0xd800)
    (acc rest : Bytes) :
    readQuoted none acc (0x5c :: 0x75 :: a :: b :: c :: d :: rest) =
      readQuoted none (pushCodePoint n acc) rest := by
  have hlow : isLowSurrogate n = false := by
    simp only [isLowSurrogate, Bool.and_eq_false_iff, decide_eq_false_iff_not]
    exact .inl (by omega)
  have hhigh : isHighSurrogate n = false := by
    simp only [isHighSurrogate, Bool.and_eq_false_iff, decide_eq_false_iff_not]
    exact .inl (by omega)
  simp [readQuoted, h, hlow, hhigh]

/-- An escape of four digits is passed over. -/
theorem skipString_hex {a b c d : UInt8} {n : Nat} (h : hexWord? a b c d = some n) (rest : Bytes) :
    skipString (0x5c :: 0x75 :: a :: b :: c :: d :: rest) = skipString rest := by
  simp [skipString, h]

/-! ## Characters between quotes -/

/-- The character whose code point is known. -/
theorem char_eq_of_toNat {c : Char} {n : Nat} (h : c.toNat = n) : Char.ofNat n = c := by
  rw [← h, Char.ofNat_toNat]

/-- The four digits that escape a control character. -/
theorem hexWord?_control {n : Nat} (h : n < 0x20) :
    hexWord? 0x30 0x30 (UInt8.ofNat (hexDigit (n / 16)).toNat) (UInt8.ofNat (hexDigit (n % 16)).toNat) =
      some n := by
  have hall : ∀ k < 0x20,
      hexWord? 0x30 0x30 (UInt8.ofNat (hexDigit (k / 16)).toNat) (UInt8.ofNat (hexDigit (k % 16)).toNat) =
        some k := by decide
  exact hall n h

/-- A character that needs no escape is written as bytes that need none. -/
theorem isPlain_utf8EncodeChar {c : Char} (hquote : c ≠ '"') (hslash : c ≠ '\\') (hcontrol : ¬ c.toNat < 0x20) :
    ∀ b ∈ String.utf8EncodeChar c, IsPlain b := by
  intro b hb
  by_cases hascii : c.toNat < 0x80
  · rw [utf8EncodeChar_ascii hascii, List.mem_singleton] at hb
    have hnat : b.toNat = c.toNat := by
      rw [hb, UInt8.toNat_ofNat_of_lt' (Nat.lt_trans hascii (by decide))]
    refine ⟨fun h => hquote ?_, fun h => hslash ?_, fun h => hcontrol ?_⟩
    · rw [← char_eq_of_toNat (hnat.symm.trans (congrArg UInt8.toNat h))]
      rfl
    · rw [← char_eq_of_toNat (hnat.symm.trans (congrArg UInt8.toNat h))]
      rfl
    · rwa [UInt8.lt_iff_toNat_lt, hnat] at h
  · have hwide := utf8EncodeChar_wide (Nat.le_of_not_lt hascii) b hb
    rw [UInt8.le_iff_toNat_le] at hwide
    have hge : 0x80 ≤ b.toNat := hwide
    refine ⟨fun h => ?_, fun h => ?_, fun h => ?_⟩
    · simp [h] at hge
    · simp [h] at hge
    · rw [UInt8.lt_iff_toNat_lt] at h
      exact absurd (Nat.lt_trans h (by decide : (0x20 : UInt8).toNat < 0x80)) (Nat.not_lt.mpr hge)

/-- What stands for a character: a letter after a backslash, the digits of a control character, or itself. -/
theorem escapeChar_cases (c : Char) :
    (∃ e b, charBytes (escapeChar c) = [0x5c, e] ∧ escapeByte? e = some b ∧ e ≠ 0x75 ∧
        String.utf8EncodeChar c = [b]) ∨
      (∃ a b, charBytes (escapeChar c) = [0x5c, 0x75, 0x30, 0x30, a, b] ∧
        hexWord? 0x30 0x30 a b = some c.toNat ∧ c.toNat < 0x20) ∨
      charBytes (escapeChar c) = String.utf8EncodeChar c ∧ ∀ b ∈ String.utf8EncodeChar c, IsPlain b := by
  by_cases hquote : c = '"'
  · subst hquote
    exact .inl ⟨0x22, 0x22, by decide⟩
  by_cases hslash : c = '\\'
  · subst hslash
    exact .inl ⟨0x5c, 0x5c, by decide⟩
  by_cases hline : c = '\n'
  · subst hline
    exact .inl ⟨0x6e, 0x0a, by decide⟩
  by_cases hreturn : c = '\r'
  · subst hreturn
    exact .inl ⟨0x72, 0x0d, by decide⟩
  by_cases htab : c = '\t'
  · subst htab
    exact .inl ⟨0x74, 0x09, by decide⟩
  by_cases hback : c = '\x08'
  · subst hback
    exact .inl ⟨0x62, 0x08, by decide⟩
  by_cases hfeed : c = '\x0c'
  · subst hfeed
    exact .inl ⟨0x66, 0x0c, by decide⟩
  have hescape : escapeChar c =
      if c.toNat < 0x20 then ['\\', 'u', '0', '0', hexDigit (c.toNat / 16), hexDigit (c.toNat % 16)]
      else [c] := by
    simp only [escapeChar, if_neg hquote, if_neg hslash, if_neg hline, if_neg hreturn, if_neg htab,
      if_neg hback, if_neg hfeed]
  by_cases hcontrol : c.toNat < 0x20
  · refine .inr (.inl ⟨_, _, ?_, hexWord?_control hcontrol, hcontrol⟩)
    have hdigits : ∀ k < 0x20,
        charBytes ['\\', 'u', '0', '0', hexDigit (k / 16), hexDigit (k % 16)] =
          [0x5c, 0x75, 0x30, 0x30, UInt8.ofNat (hexDigit (k / 16)).toNat,
            UInt8.ofNat (hexDigit (k % 16)).toNat] := by decide
    rw [hescape, if_pos hcontrol]
    exact hdigits _ hcontrol
  · refine .inr (.inr ⟨?_, isPlain_utf8EncodeChar hquote hslash hcontrol⟩)
    rw [hescape, if_neg hcontrol, charBytes_cons, charBytes_nil, List.append_nil]

/-- A character that was written between quotes is kept as it is encoded. -/
theorem readQuoted_escapeChar (c : Char) (acc rest : Bytes) :
    readQuoted none acc (charBytes (escapeChar c) ++ rest) =
      readQuoted none ((String.utf8EncodeChar c).reverse ++ acc) rest := by
  rcases escapeChar_cases c with ⟨e, b, hbytes, he, hletter, hc⟩ | ⟨a, b, hbytes, hn, hlt⟩ | ⟨hbytes, hplain⟩
  · rw [hbytes, hc]
    exact readQuoted_escape he hletter acc rest
  · have hread := readQuoted_hex hn (Nat.lt_trans hlt (by decide)) acc rest
    rw [pushCodePoint, Char.ofNat_toNat] at hread
    rw [hbytes]
    exact hread
  · rw [hbytes, readQuoted_plains hplain]

/-- A character that was written between quotes is passed over. -/
theorem skipString_escapeChar (c : Char) (rest : Bytes) :
    skipString (charBytes (escapeChar c) ++ rest) = skipString rest := by
  rcases escapeChar_cases c with ⟨e, b, hbytes, he, hletter, -⟩ | ⟨a, b, hbytes, hn, -⟩ | ⟨hbytes, hplain⟩
  · rw [hbytes]
    exact skipString_escape he hletter rest
  · rw [hbytes]
    exact skipString_hex hn rest
  · rw [hbytes, skipString_plains hplain]

/-! ## Whole strings -/

/-- The bytes of a string between quotes. -/
theorem charBytes_quotedChars (s : String) :
    charBytes (quotedChars s) = 0x22 :: (charBytes (s.toList.flatMap escapeChar) ++ [0x22]) := by
  rw [quotedChars, charBytes_append]
  rfl

/-- Characters that were written between quotes are kept as they are encoded. -/
theorem readQuoted_escapeChars (cs : List Char) (acc rest : Bytes) :
    readQuoted none acc (charBytes (cs.flatMap escapeChar) ++ rest) =
      readQuoted none ((charBytes cs).reverse ++ acc) rest := by
  induction cs generalizing acc with
  | nil => rfl
  | cons c cs ih =>
    rw [List.flatMap_cons, charBytes_append, List.append_assoc, readQuoted_escapeChar, ih, charBytes_cons,
      List.reverse_append, List.append_assoc]

/-- A string that was written between quotes is read back. -/
theorem readString_quoted (s : String) (rest : Bytes) :
    readString (charBytes (s.toList.flatMap escapeChar) ++ 0x22 :: rest) = .ok (s, rest) := by
  rw [readString, readQuoted_escapeChars, readQuoted_close, List.append_nil, List.reverse_reverse]
  simp only [bind, Except.bind, decodeUtf8_charBytes, String.ofList_toList]

/-- A string that was written between quotes is passed over. -/
theorem skipString_quoted (s : String) (rest : Bytes) :
    skipString (charBytes (s.toList.flatMap escapeChar) ++ 0x22 :: rest) = .ok rest := by
  induction s.toList with
  | nil => exact skipString_close rest
  | cons c cs ih => rw [List.flatMap_cons, charBytes_append, List.append_assoc, skipString_escapeChar, ih]

end Parlor.Json
