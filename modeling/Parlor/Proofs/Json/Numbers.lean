import Parlor.Proofs.Json.Strings

/-!
# Numbers in JSON text

Every number is written as digits, with a fraction and an exponent perhaps, and a reader that passes
over numbers ends where the number does. Of whole numbers more is needed: those that fit a word are
read back. A number has no closing mark of its own, so what follows must not go on with it.
-/

namespace Parlor.Json

open Parlor.Decimal

/-! ## Digits -/

/-- Digits, of which there is at least one. -/
def IsDigits (cs : List Char) : Prop := cs ≠ [] ∧ ∀ c ∈ cs, c.isDigit = true

/-- A single zero is made of digits. -/
theorem isDigits_zero : IsDigits ['0'] := by
  refine ⟨by simp, fun c hc => ?_⟩
  rw [List.mem_singleton.mp hc]
  rfl

/-- No digit comes first. -/
def StopsDigits (rest : Bytes) : Prop := ∀ b ∈ rest.head?, isDigit b = false

/-- Nothing comes first that would go on with a number. -/
def StopsNumber (rest : Bytes) : Prop :=
  ∀ b ∈ rest.head?, isDigit b = false ∧ b ≠ 0x2e ∧ isExponentMark b = false

/-- The code point of a digit. -/
theorem toNat_of_isDigit {c : Char} (h : c.isDigit = true) : 0x30 ≤ c.toNat ∧ c.toNat ≤ 0x39 := by
  simp only [Char.isDigit, Bool.and_eq_true, decide_eq_true_eq, ge_iff_le, UInt32.le_iff_toNat_le] at h
  exact h

/-- A digit is one byte, which has the same value. -/
theorem digit_bytes {c : Char} (h : c.isDigit = true) :
    ∃ b, String.utf8EncodeChar c = [b] ∧ isDigit b = true ∧ b.toNat = c.toNat ∧
      digitValue b = c.toNat - '0'.toNat ∧ (b = 0x30 ↔ c = '0') := by
  obtain ⟨hlow, hhigh⟩ := toNat_of_isDigit h
  have hnat : (UInt8.ofNat c.toNat).toNat = c.toNat :=
    UInt8.toNat_ofNat_of_lt' (Nat.lt_of_le_of_lt hhigh (by decide))
  refine ⟨UInt8.ofNat c.toNat, utf8EncodeChar_ascii (Nat.lt_of_le_of_lt hhigh (by decide)), ?_, hnat, ?_, ?_⟩
  · simp only [isDigit, Bool.and_eq_true, decide_eq_true_eq, UInt8.le_iff_toNat_le, hnat]
    exact ⟨hlow, hhigh⟩
  · rw [digitValue, hnat]
    rfl
  · constructor
    · intro hb
      rw [← char_eq_of_toNat (hnat.symm.trans (congrArg UInt8.toNat hb))]
      rfl
    · rintro rfl
      rfl

/-- The bytes of digits start with a digit. -/
theorem charBytes_digits {cs : List Char} (h : IsDigits cs) :
    ∃ b bs, charBytes cs = b :: bs ∧ isDigit b = true := by
  obtain ⟨hne, hall⟩ := h
  cases cs with
  | nil => exact absurd rfl hne
  | cons c cs =>
    obtain ⟨b, hb, hdigit, -⟩ := digit_bytes (hall c List.mem_cons_self)
    exact ⟨b, charBytes cs, by rw [charBytes_cons, hb]; rfl, hdigit⟩

/-- All digits are dropped, and nothing else. -/
theorem dropDigits_append {cs : List Char} (h : ∀ c ∈ cs, c.isDigit = true) {rest : Bytes}
    (hrest : StopsDigits rest) (n : Nat) :
    dropDigits n (charBytes cs ++ rest) = (n + cs.length, rest) := by
  induction cs generalizing n with
  | nil =>
    cases rest with
    | nil => rfl
    | cons b rest => simp [dropDigits, hrest b rfl]
  | cons c cs ih =>
    obtain ⟨b, hb, hdigit, -⟩ := digit_bytes (h c List.mem_cons_self)
    rw [charBytes_cons, hb]
    simp only [List.cons_append, List.nil_append, dropDigits, hdigit, if_true]
    rw [ih (fun d hd => h d (List.mem_cons_of_mem c hd)), List.length_cons]
    congr 1
    omega

/-- Digits are passed over, and nothing else. -/
theorem skipDigits_append {cs : List Char} (h : IsDigits cs) {rest : Bytes} (hrest : StopsDigits rest) :
    skipDigits (charBytes cs ++ rest) = .ok rest := by
  obtain ⟨b, bs, hbytes, hdigit⟩ := charBytes_digits h
  have hdrop := dropDigits_append h.2 hrest 0
  rw [hbytes, List.cons_append] at hdrop ⊢
  rw [dropDigits, if_pos hdigit] at hdrop
  have hcount (m n : Nat) (cs : Bytes) : (dropDigits m cs).2 = (dropDigits n cs).2 := by
    induction cs generalizing m n with
    | nil => rfl
    | cons c cs ih =>
      rw [dropDigits, dropDigits]
      split
      · exact ih _ _
      · rfl
  rw [skipDigits, if_pos hdigit, hcount 0 (0 + 1), hdrop]

/-! ## Numerals -/

/-- A number in digits: a whole part without needless zeros, then perhaps a fraction and an exponent. -/
def IsNumeral (cs : List Char) : Prop :=
  ∃ whole fraction exponent, cs = whole ++ (fraction ++ exponent) ∧
    (IsDigits whole ∧ (whole.head? = some '0' → whole = ['0'])) ∧
    (fraction = [] ∨ ∃ ds, fraction = '.' :: ds ∧ IsDigits ds) ∧
    (exponent = [] ∨ ∃ sign ds, exponent = 'e' :: sign :: ds ∧ (sign = '+' ∨ sign = '-') ∧ IsDigits ds)

/-- What stops a number stops its digits. -/
theorem StopsNumber.digits {rest : Bytes} (h : StopsNumber rest) : StopsDigits rest :=
  fun b hb => (h b hb).1

/-- The exponent of a number is passed over. -/
theorem skipExponent_append {exponent : List Char}
    (h : exponent = [] ∨ ∃ sign ds, exponent = 'e' :: sign :: ds ∧ (sign = '+' ∨ sign = '-') ∧ IsDigits ds)
    {rest : Bytes} (hrest : StopsNumber rest) :
    skipExponent (charBytes exponent ++ rest) = .ok rest := by
  rcases h with rfl | ⟨sign, ds, rfl, hsign, hds⟩
  · cases rest with
    | nil => rfl
    | cons b rest => simp [skipExponent, (hrest b rfl).2.2]
  · have hskip := skipDigits_append hds hrest.digits
    rcases hsign with rfl | rfl
    · exact hskip
    · exact hskip

/-- An exponent does not begin with what goes on with digits or opens a fraction. -/
theorem exponent_head {exponent : List Char}
    (h : exponent = [] ∨ ∃ sign ds, exponent = 'e' :: sign :: ds ∧ (sign = '+' ∨ sign = '-') ∧ IsDigits ds)
    {rest : Bytes} (hrest : StopsNumber rest) :
    ∀ b ∈ (charBytes exponent ++ rest).head?, isDigit b = false ∧ b ≠ 0x2e := by
  rcases h with rfl | ⟨sign, ds, rfl, -, -⟩
  · exact fun b hb => ⟨(hrest b hb).1, (hrest b hb).2.1⟩
  · intro b hb
    obtain rfl : 0x65 = b := Option.some.inj hb
    decide

/-- The fraction and the exponent of a number are passed over. -/
theorem skipNumberTail_append {fraction exponent : List Char}
    (hfraction : fraction = [] ∨ ∃ ds, fraction = '.' :: ds ∧ IsDigits ds)
    (hexponent : exponent = [] ∨
      ∃ sign ds, exponent = 'e' :: sign :: ds ∧ (sign = '+' ∨ sign = '-') ∧ IsDigits ds)
    {rest : Bytes} (hrest : StopsNumber rest) :
    skipNumberTail (charBytes fraction ++ (charBytes exponent ++ rest)) = .ok rest := by
  have hhead := exponent_head hexponent hrest
  have hskip := skipExponent_append hexponent hrest
  rcases hfraction with rfl | ⟨ds, rfl, hds⟩
  · rw [charBytes_nil, List.nil_append]
    generalize charBytes exponent ++ rest = bs at hhead hskip ⊢
    cases bs with
    | nil => exact hskip
    | cons b bs => rw [skipNumberTail.eq_2 _ fun tail htail => (hhead b rfl).2 (List.cons.inj htail).1, hskip]
  · have hdigits := skipDigits_append hds fun b hb => (hhead b hb).1
    change (skipDigits (charBytes ds ++ (charBytes exponent ++ rest)) >>= skipExponent) = _
    rw [hdigits]
    exact hskip

/-- A number is passed over, and nothing else. -/
theorem skipNumber_append {cs : List Char} (h : IsNumeral cs) {rest : Bytes} (hrest : StopsNumber rest) :
    skipNumber (charBytes cs ++ rest) = .ok rest := by
  obtain ⟨whole, fraction, exponent, rfl, ⟨hdigits, hzero⟩, hfraction, hexponent⟩ := h
  have htail := skipNumberTail_append hfraction hexponent hrest
  have hstop : StopsDigits (charBytes fraction ++ (charBytes exponent ++ rest)) := by
    rcases hfraction with rfl | ⟨ds, rfl, -⟩
    · exact fun b hb => (exponent_head hexponent hrest b hb).1
    · intro b hb
      obtain rfl : 0x2e = b := Option.some.inj hb
      decide
  rw [charBytes_append, charBytes_append, List.append_assoc, List.append_assoc]
  generalize charBytes fraction ++ (charBytes exponent ++ rest) = tail at htail hstop ⊢
  cases whole with
  | nil => exact absurd rfl hdigits.1
  | cons c cs =>
    obtain ⟨b, hb, hdigit, -, -, hiff⟩ := digit_bytes (hdigits.2 c List.mem_cons_self)
    rw [charBytes_cons, hb, List.append_assoc, List.singleton_append]
    by_cases hc : c = '0'
    · obtain rfl : cs = [] := by
        have hwhole := hzero (by rw [List.head?_cons, hc])
        exact (List.cons.inj hwhole).2
      rw [charBytes_nil, List.nil_append, hiff.mpr hc]
      cases tail with
      | nil => exact htail
      | cons d tail =>
        have hd := hstop d rfl
        simp only [skipNumber, if_true, hd, Bool.false_eq_true, if_false]
        exact htail
    · have hne : b ≠ 0x30 := fun hb => hc (hiff.mp hb)
      simp only [skipNumber, if_neg hne, hdigit, if_true]
      rw [dropDigits_append (fun d hd => hdigits.2 d (List.mem_cons_of_mem c hd)) hstop 0]
      exact htail

/-! ## Printed numbers -/

/-- Digits are what a number is written with. -/
theorem isDigits_toDigits (n : Nat) : IsDigits (Nat.toDigits 10 n) :=
  ⟨Nat.toDigits_ne_nil, fun _ hc => Nat.isDigit_of_mem_toDigits (by decide) (by decide) hc⟩

/-- The first digit is the same with more digits after it. -/
theorem head?_append_digits {cs : List Char} (h : IsDigits cs) (ds : List Char) :
    (cs ++ ds).head? = cs.head? := by
  cases cs with
  | nil => exact absurd rfl h.1
  | cons c cs => rfl

/-- Only zero is written with a zero in front. -/
theorem toDigits_head_zero {n : Nat} (h : (Nat.toDigits 10 n).head? = some '0') : n = 0 := by
  induction n using Nat.strongRecOn with
  | ind n ih =>
    by_cases hlt : n < 10
    · rw [Nat.toDigits_of_lt_base hlt] at h
      simpa using h
    · rw [Nat.toDigits_of_base_le (by decide) (Nat.le_of_not_lt hlt),
        head?_append_digits (isDigits_toDigits _)] at h
      have hzero := ih (n / 10) (by omega) h
      omega

/-- The digits of a number make a numeral. -/
theorem isNumeral_toDigits (n : Nat) : IsNumeral (Nat.toDigits 10 n) := by
  refine ⟨Nat.toDigits 10 n, [], [], by simp, ⟨isDigits_toDigits n, fun h => ?_⟩, .inl rfl, .inl rfl⟩
  rw [toDigits_head_zero h, Nat.toDigits_zero]

/-- Zeros are digits. -/
theorem isDigit_replicate_zero (n : Nat) : ∀ c ∈ List.replicate n '0', c.isDigit = true := by
  intro c hc
  rw [List.eq_of_mem_replicate hc]
  rfl

/-- Digits next to digits are digits. -/
theorem IsDigits.append {cs ds : List Char} (h : IsDigits cs) (hds : ∀ c ∈ ds, c.isDigit = true) :
    IsDigits (cs ++ ds) := by
  refine ⟨by simp [h.1], fun c hc => ?_⟩
  rcases List.mem_append.mp hc with hc | hc
  · exact h.2 c hc
  · exact hds c hc

/-- The first of some digits, and those that are left, are digits. -/
theorem IsDigits.split {cs : List Char} (h : IsDigits cs) {n : Nat} (hn : 0 < n) (hlen : n < cs.length) :
    IsDigits (cs.take n) ∧ IsDigits (cs.drop n) := by
  refine ⟨⟨?_, fun c hc => h.2 c (List.mem_of_mem_take hc)⟩, ⟨?_, fun c hc => h.2 c (List.mem_of_mem_drop hc)⟩⟩
  · rw [Ne, List.take_eq_nil_iff]
    rintro (rfl | rfl)
    · exact absurd hn (by decide)
    · exact h.1 rfl
  · rw [Ne, List.drop_eq_nil_iff]
    omega

/-- Digits with a point after the first one, if there are more, and an exponent make a numeral. -/
theorem isNumeral_exponent {sign : Char} (hsign : sign = '+' ∨ sign = '-') (n : Nat) (cs : List Char) :
    IsDigits cs → IsNumeral ((match cs with
      | [] => []
      | [d] => [d]
      | d :: rest => d :: '.' :: rest) ++ 'e' :: sign :: Nat.toDigits 10 n) := by
  intro h
  match cs, h with
  | [], h => exact absurd rfl h.1
  | [d], h =>
    exact ⟨[d], [], _, rfl, ⟨h, fun hd => by simpa using hd⟩, .inl rfl,
      .inr ⟨_, _, rfl, hsign, isDigits_toDigits n⟩⟩
  | d :: e :: rest, h =>
    have hfirst : IsDigits [d] := ⟨by simp, by simpa using h.2 d List.mem_cons_self⟩
    have hrest : IsDigits (e :: rest) := ⟨by simp, fun c hc => h.2 c (List.mem_cons_of_mem d hc)⟩
    exact ⟨[d], '.' :: e :: rest, _, rfl, ⟨hfirst, fun hd => by simpa using hd⟩, .inr ⟨_, rfl, hrest⟩,
      .inr ⟨_, _, rfl, hsign, isDigits_toDigits n⟩⟩

/-- A positive decimal is written as a numeral. -/
theorem isNumeral_scientificChars (s : Scientific) (hzero : s.digits = 0 → s.exponent = 0) :
    IsNumeral (scientificChars s) := by
  have hdigits := isDigits_toDigits s.digits
  have hhead : (Nat.toDigits 10 s.digits).head? = some '0' → s.digits = 0 := toDigits_head_zero
  have hpos : 0 < (Nat.toDigits 10 s.digits).length := List.length_pos_iff.mpr hdigits.1
  unfold scientificChars
  dsimp only
  split
  case isTrue hlead =>
    split
    case isTrue hexp =>
      -- all digits stand before the point
      refine ⟨Nat.toDigits 10 s.digits ++ List.replicate s.exponent.toNat '0', ['.', '0'], [], by simp,
        ⟨hdigits.append (isDigit_replicate_zero _), fun h => ?_⟩, .inr ⟨['0'], rfl, isDigits_zero⟩, .inl rfl⟩
      rw [head?_append_digits hdigits] at h
      rw [hzero (hhead h), hhead h]
      rfl
    case isFalse hexp =>
      -- the point stands among the digits
      obtain ⟨htake, hdrop⟩ := hdigits.split (n := (s.exponent + (Nat.toDigits 10 s.digits).length - 1 + 1).toNat)
        (by omega) (by omega)
      refine ⟨_, _, [], by rw [List.append_nil], ⟨htake, fun h => ?_⟩, .inr ⟨_, rfl, hdrop⟩, .inl rfl⟩
      rw [List.head?_take, if_neg (by omega)] at h
      exact absurd (hzero (hhead h)) (by omega)
  case isFalse hlead =>
    split
    case isTrue hsmall =>
      -- all digits stand after the point
      refine ⟨['0'], _, [], by rw [List.append_nil]; rfl, ⟨isDigits_zero, fun _ => rfl⟩,
        .inr ⟨_, rfl, ?_, ?_⟩, .inl rfl⟩
      · simp [hdigits.1]
      · intro c hc
        rcases List.mem_append.mp hc with hc | hc
        · exact isDigit_replicate_zero _ c hc
        · exact hdigits.2 c hc
    case isFalse hsmall =>
      -- one digit stands before the point
      refine isNumeral_exponent ?_ _ _ hdigits
      split
      · exact .inr rfl
      · exact .inl rfl

/-! ## Shortest decimals -/

/-- An interval of positive numbers. -/
def IsPositive (i : Interval) : Prop := 0 < i.low

/-- The interval around a positive number has positive ends. -/
theorem isPositive_ofBinary64 {x : Binary64} (h : x.significand ≠ 0) : IsPositive (Interval.ofBinary64 x) := by
  refine Nat.mul_pos ?_ (Nat.pow_pos (by decide))
  split <;> omega

/-- Scaling keeps an interval positive. -/
theorem IsPositive.scaled {i : Interval} (h : IsPositive i) (k : Int) : IsPositive (i.scaled k) :=
  Nat.mul_pos h (Nat.pow_pos (by decide))

/-- A whole number in a positive interval is not zero. -/
theorem IsPositive.pos_of_contains {i : Interval} (h : IsPositive i) {d : Nat} (hd : i.contains d = true) :
    d ≠ 0 := by
  rintro rfl
  have hlow : 0 < i.low := h
  unfold Interval.contains at hd
  simp only [Nat.zero_mul] at hd
  split at hd
  · have hbounds := of_decide_eq_true hd
    omega
  · have hbounds := of_decide_eq_true hd
    omega

/-- The whole number next to the middle of a positive interval is not zero. -/
theorem IsPositive.pos_of_nearest? {i : Interval} (h : IsPositive i) {d : Nat} (hd : i.nearest? = some d) :
    d ≠ 0 := by
  unfold Interval.nearest? at hd
  dsimp only at hd
  cases hbelow : i.contains (i.middle / i.denominator) <;>
    cases habove : i.contains (i.middle / i.denominator + 1) <;>
    simp only [hbelow, habove, Option.some.injEq, reduceCtorEq] at hd
  · exact hd ▸ Nat.succ_ne_zero _
  · exact hd ▸ h.pos_of_contains hbelow
  · split at hd <;> rw [Option.some.injEq] at hd
    · exact hd ▸ h.pos_of_contains hbelow
    · exact hd ▸ Nat.succ_ne_zero _

/-- The grids of a positive interval hold no zero. -/
theorem searchGrids_pos {i : Interval} (h : IsPositive i) {lead : Int} {count fuel : Nat} {s : Scientific}
    (hs : searchGrids i lead count fuel = some s) : s.digits ≠ 0 := by
  induction fuel generalizing count with
  | zero => simp [searchGrids] at hs
  | succ fuel ih =>
    simp only [searchGrids] at hs
    cases hnear : (i.scaled (-(lead - ((count : Int) - 1)))).nearest? with
    | none => exact ih (by simpa only [hnear] using hs)
    | some d =>
      simp only [hnear, Option.some.injEq] at hs
      exact hs ▸ (h.scaled _).pos_of_nearest? hnear

/-- Dropping zeros at the end leaves other digits. -/
theorem trim_pos {s : Scientific} (h : s.digits ≠ 0) (fuel : Nat) : (s.trim fuel).digits ≠ 0 := by
  induction fuel generalizing s with
  | zero => exact h
  | succ fuel ih =>
    rw [Scientific.trim]
    split
    · exact ih (by dsimp only; omega)
    · exact h

/-- Only the decimal zero has no digits, and it has no exponent either. -/
theorem shortest_exponent {x : Binary64} (h : (shortest x).digits = 0) : (shortest x).exponent = 0 := by
  unfold shortest at h ⊢
  dsimp only at h ⊢
  split at h
  case isTrue hzero => rw [if_pos hzero]
  case isFalse hne =>
    rw [if_neg hne]
    split at h
    case h_1 s hs => exact absurd h (trim_pos (searchGrids_pos (isPositive_ofBinary64 hne) hs) 20)
    case h_2 hs => rfl

/-- A number is written as a numeral, after a sign perhaps. -/
theorem number_chars_cases (n : Number) :
    ∃ cs, IsNumeral cs ∧ (n.chars = cs ∨ n.chars = '-' :: cs) := by
  cases n with
  | integer n =>
    cases n with
    | ofNat n => exact ⟨_, isNumeral_toDigits n, .inl rfl⟩
    | negSucc n => exact ⟨_, isNumeral_toDigits (n + 1), .inr rfl⟩
  | real x =>
    refine ⟨if x.significand = 0 then ['0', '.', '0'] else scientificChars (shortest x), ?_, ?_⟩
    · split
      · exact ⟨['0'], ['.', '0'], [], rfl, ⟨isDigits_zero, fun _ => rfl⟩, .inr ⟨_, rfl, isDigits_zero⟩, .inl rfl⟩
      · exact isNumeral_scientificChars _ shortest_exponent
    · rw [Number.chars, realChars]
      cases x.isNegative
      · exact .inl rfl
      · exact .inr rfl

/-- A numeral starts with a digit. -/
theorem IsNumeral.head {cs : List Char} (h : IsNumeral cs) :
    ∃ b bs, charBytes cs = b :: bs ∧ isDigit b = true := by
  obtain ⟨whole, fraction, exponent, rfl, ⟨hdigits, -⟩, -, -⟩ := h
  obtain ⟨b, bs, hbytes, hdigit⟩ := charBytes_digits hdigits
  exact ⟨b, bs ++ charBytes (fraction ++ exponent), by rw [charBytes_append, hbytes]; rfl, hdigit⟩

/-! ## Whole numbers -/

/-- Digits that are appended make a number no less. -/
theorem le_ofDigitChars (cs : List Char) (acc : Nat) : acc ≤ Nat.ofDigitChars 10 cs acc := by
  rw [Nat.ofDigitChars_eq_ofDigitChars_zero]
  exact Nat.le_trans (Nat.le_mul_of_pos_left _ (Nat.pow_pos (by decide))) (Nat.le_add_right _ _)

/-- Digits are read into the number that they stand for, as long as it fits a word. -/
theorem absorbDigits_append {cs : List Char} (h : ∀ c ∈ cs, c.isDigit = true) {rest : Bytes}
    (hrest : StopsDigits rest) (acc count : Nat) (hfit : Nat.ofDigitChars 10 cs acc < UInt64.size) :
    absorbDigits acc count (charBytes cs ++ rest) =
      (Nat.ofDigitChars 10 cs acc, count + cs.length, rest) := by
  induction cs generalizing acc count with
  | nil =>
    cases rest with
    | nil => simp [absorbDigits]
    | cons b rest => simp [absorbDigits, hrest b rfl]
  | cons c cs ih =>
    obtain ⟨b, hb, hdigit, -, hvalue, -⟩ := digit_bytes (h c List.mem_cons_self)
    rw [Nat.ofDigitChars_cons] at hfit ⊢
    have hlt : acc * 10 + digitValue b < UInt64.size := by
      rw [hvalue, Nat.mul_comm]
      exact Nat.lt_of_le_of_lt (le_ofDigitChars cs _) hfit
    rw [charBytes_cons, hb, List.singleton_append, List.cons_append, absorbDigits, hdigit, decide_eq_true hlt,
      Bool.and_self, if_pos rfl, hvalue, Nat.mul_comm acc 10,
      ih (fun d hd => h d (List.mem_cons_of_mem c hd)) _ _ hfit, List.length_cons]
    congr 2
    omega

/-- The digits of a number that fits a word are read as that number. -/
theorem readNumber_toDigits {n : Nat} (hfit : n < UInt64.size) (negative : Bool) {rest : Bytes}
    (hrest : StopsNumber rest) :
    readNumber negative (charBytes (Nat.toDigits 10 n) ++ rest) =
      (Number.ofDigits negative n).map fun m => (m, rest) := by
  have htail : readNumberTail negative n 0 rest = (Number.ofDigits negative n).map fun m => (m, rest) := by
    cases rest with
    | nil => cases hn : Number.ofDigits negative n <;> simp [readNumberTail, hn, bind, Except.bind, Except.map]
    | cons b rest =>
      obtain ⟨-, hpoint, hmark⟩ := hrest b rfl
      cases hn : Number.ofDigits negative n <;>
        simp [readNumberTail, hpoint, hmark, hn, bind, Except.bind, Except.map]
  have habsorb := absorbDigits_append (isDigits_toDigits n).2 hrest.digits 0 0
    (by rwa [Nat.ofDigitChars_ten_toDigits])
  rw [Nat.ofDigitChars_ten_toDigits] at habsorb
  cases hcs : Nat.toDigits 10 n with
  | nil => exact absurd hcs Nat.toDigits_ne_nil
  | cons c cs =>
    have hdigits := isDigits_toDigits n
    rw [hcs] at hdigits habsorb
    obtain ⟨b, hb, hdigit, -, -, hiff⟩ := digit_bytes (hdigits.2 c List.mem_cons_self)
    rw [charBytes_cons, hb, List.singleton_append, List.cons_append] at habsorb ⊢
    by_cases hc : c = '0'
    · obtain rfl : n = 0 := toDigits_head_zero (by rw [hcs, List.head?_cons, hc])
      obtain rfl : cs = [] := (List.cons.inj ((Nat.toDigits_zero 10).symm.trans hcs)).2.symm
      rw [charBytes_nil, List.nil_append, hiff.mpr hc]
      cases rest with
      | nil => exact htail
      | cons d rest =>
        simp only [readNumber, if_true, (hrest d rfl).1, Bool.false_eq_true, if_false]
        exact htail
    · have hne : b ≠ 0x30 := fun hb => hc (hiff.mp hb)
      have hnone : ∀ c ∈ ([] : List Char), c.isDigit = true := by simp
      have hdrop := dropDigits_append hnone hrest.digits 0
      simp only [readNumber, if_neg hne, hdigit, if_true, habsorb]
      rw [charBytes_nil, List.nil_append] at hdrop
      rw [hdrop]
      exact htail

/-- A whole number that fits a signed or an unsigned word is read back. -/
theorem readScalar_integerChars {n : Int} (hlow : Word.signedLow ≤ n) (hhigh : n ≤ Word.unsignedHigh) :
    ∃ b bs, charBytes (integerChars n) = b :: bs ∧ (isDigit b = true ∨ b = 0x2d) ∧
      ∀ rest, StopsNumber rest → readScalar b (bs ++ rest) = .ok (.number (.integer n), rest) := by
  rw [Word.signedLow] at hlow
  rw [Word.unsignedHigh] at hhigh
  cases n with
  | ofNat n =>
    obtain ⟨b, bs, hbytes, hdigit⟩ := charBytes_digits (isDigits_toDigits n)
    refine ⟨b, bs, hbytes, .inl hdigit, fun rest hrest => ?_⟩
    have hfit : n < UInt64.size := by
      rw [Int.ofNat_eq_natCast] at hhigh
      exact Nat.lt_of_le_of_lt (by omega : n ≤ 18446744073709551615) (by decide)
    have hread := readNumber_toDigits hfit false hrest
    rw [hbytes, List.cons_append] at hread
    have hquote : b ≠ 0x22 := by rintro rfl; simp [isDigit] at hdigit
    have hminus : b ≠ 0x2d := by rintro rfl; simp [isDigit] at hdigit
    rw [readScalar, if_neg hquote, if_neg hminus, if_pos hdigit, hread]
    rfl
  | negSucc n =>
    obtain ⟨b, bs, hbytes, hdigit⟩ := charBytes_digits (isDigits_toDigits (n + 1))
    refine ⟨0x2d, b :: bs, by rw [integerChars, charBytes_cons, hbytes]; rfl, .inr rfl, fun rest hrest => ?_⟩
    have hread := readNumber_toDigits (n := n + 1) (Nat.lt_of_le_of_lt (by omega) (by decide : 2 ^ 63 < UInt64.size))
      true hrest
    have hfit : ¬ (n + 1 = 0 ∨ n + 1 > 9223372036854775808) := by omega
    rw [hbytes] at hread
    rw [readScalar, if_neg (by decide), if_pos rfl, hread, Number.ofDigits, Bool.not_true, if_neg (by decide),
      if_neg hfit]
    rfl

end Parlor.Json
