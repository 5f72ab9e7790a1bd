import Parlor.Proofs.Json.Numbers

/-!
# What is read of a numeral

Whatever a numeral stands for, and even if it has no value, reading it neither looks at what follows
nor leaves a part of it. And a whole number that was read fits a signed or an unsigned word.
-/

namespace Parlor.Json

open Parlor.Decimal

/-- Some bytes are read with a result that does not depend on what follows them. -/
def Yields {α : Type} (read : Bytes → Except Fault (α × Bytes)) (bs : Bytes) (result : Except Fault α) : Prop :=
  ∀ rest, StopsNumber rest → read (bs ++ rest) = result.map fun a => (a, rest)

/-! ## Digits and exponents -/

/-- Digits take one byte each. -/
theorem length_charBytes_digits {cs : List Char} (h : ∀ c ∈ cs, c.isDigit = true) :
    (charBytes cs).length = cs.length := by
  induction cs with
  | nil => rfl
  | cons c cs ih =>
    obtain ⟨b, hb, -⟩ := digit_bytes (h c List.mem_cons_self)
    rw [charBytes_cons, hb, List.length_append, List.length_singleton, List.length_cons,
      ih fun d hd => h d (List.mem_cons_of_mem c hd), Nat.add_comm]

/-- What is absorbed of digits leaves digits, and nothing else is looked at. -/
theorem absorbDigits_split {cs : List Char} (h : ∀ c ∈ cs, c.isDigit = true) (acc count : Nat) :
    ∃ acc' count' ds, (∀ d ∈ ds, d.isDigit = true) ∧ ∀ rest, StopsDigits rest →
      absorbDigits acc count (charBytes cs ++ rest) = (acc', count', charBytes ds ++ rest) := by
  induction cs generalizing acc count with
  | nil =>
    refine ⟨acc, count, [], by simp, fun rest hrest => ?_⟩
    cases rest with
    | nil => rfl
    | cons b rest => simp [absorbDigits, hrest b rfl]
  | cons c cs ih =>
    obtain ⟨b, hb, hdigit, -⟩ := digit_bytes (h c List.mem_cons_self)
    have htail : ∀ d ∈ cs, d.isDigit = true := fun d hd => h d (List.mem_cons_of_mem c hd)
    by_cases hfit : acc * 10 + digitValue b < UInt64.size
    · obtain ⟨acc', count', ds, hds, habsorb⟩ := ih htail (acc * 10 + digitValue b) (count + 1)
      refine ⟨acc', count', ds, hds, fun rest hrest => ?_⟩
      rw [charBytes_cons, hb, List.singleton_append, List.cons_append, absorbDigits, hdigit,
        decide_eq_true hfit, Bool.and_self, if_pos rfl]
      exact habsorb rest hrest
    · refine ⟨acc, count, c :: cs, h, fun rest _ => ?_⟩
      rw [charBytes_cons, hb, List.singleton_append, List.cons_append, absorbDigits, hdigit,
        decide_eq_false hfit, Bool.and_false, if_neg Bool.false_ne_true]

/-- The digits of an exponent are read up to their end. -/
theorem readExponentDigits_append {ds : List Char} (h : IsDigits ds) :
    ∃ n, ∀ rest, StopsDigits rest → readExponentDigits (charBytes ds ++ rest) = .ok (n, rest) := by
  obtain ⟨b, bs, hbytes, hdigit⟩ := charBytes_digits h
  refine ⟨(charBytes ds).foldl (fun acc d => acc * 10 + digitValue d) 0, fun rest hrest => ?_⟩
  have hdrop := dropDigits_append h.2 hrest 0
  have htake : (charBytes ds ++ rest).take ds.length = charBytes ds := by
    rw [← length_charBytes_digits h.2, List.take_left]
  rw [Nat.zero_add] at hdrop
  rw [hbytes, List.cons_append] at hdrop htake ⊢
  simp only [readExponentDigits, hdigit, if_true, hdrop, htake]

/-- A real number is completed at the end of its exponent. -/
theorem readRealTail_yields {exponent : List Char}
    (h : exponent = [] ∨ ∃ sign ds, exponent = 'e' :: sign :: ds ∧ (sign = '+' ∨ sign = '-') ∧ IsDigits ds)
    (negative : Bool) (significand : Nat) (scale : Int) :
    ∃ result, Yields (readRealTail negative significand scale) (charBytes exponent) result := by
  rcases h with rfl | ⟨sign, ds, rfl, hsign, hds⟩
  · refine ⟨realOfDecimal negative significand scale, fun rest hrest => ?_⟩
    cases rest with
    | nil =>
      cases hreal : realOfDecimal negative significand scale <;>
        simp [readRealTail, hreal, bind, Except.bind, Except.map]
    | cons b rest =>
      cases hreal : realOfDecimal negative significand scale <;>
        simp [readRealTail, (hrest b rfl).2.2, hreal, bind, Except.bind, Except.map]
  · obtain ⟨n, hread⟩ := readExponentDigits_append hds
    rcases hsign with rfl | rfl
    · refine ⟨realOfDecimal negative significand (scale + n), fun rest hrest => ?_⟩
      change (readExponentDigits (charBytes ds ++ rest) >>= _ >>= _) = _
      rw [hread rest hrest.digits]
      cases hreal : realOfDecimal negative significand (scale + n) <;>
        simp [hreal, bind, Except.bind, Except.map]
    · refine ⟨realOfDecimal negative significand (scale + -n), fun rest hrest => ?_⟩
      change (readExponentDigits (charBytes ds ++ rest) >>= _ >>= _) = _
      rw [hread rest hrest.digits]
      cases hreal : realOfDecimal negative significand (scale + -n) <;>
        simp [hreal, bind, Except.bind, Except.map]

/-! ## Numerals -/

/-- The digits after the point are read with the exponent. -/
theorem readFraction_yields {ds exponent : List Char} (hds : IsDigits ds)
    (h : exponent = [] ∨ ∃ sign ds, exponent = 'e' :: sign :: ds ∧ (sign = '+' ∨ sign = '-') ∧ IsDigits ds)
    (negative : Bool) (significand : Nat) (scale : Int) :
    ∃ result, Yields (readFraction negative significand scale) (charBytes ds ++ charBytes exponent) result := by
  obtain ⟨significand', count, left, hleft, habsorb⟩ := absorbDigits_split hds.2 significand 0
  obtain ⟨result, hresult⟩ := readRealTail_yields h negative significand' (scale - count)
  refine ⟨result, fun rest hrest => ?_⟩
  have hstops : StopsDigits (charBytes exponent ++ rest) := fun b hb => (exponent_head h hrest b hb).1
  obtain ⟨b, bs, hbytes, hdigit⟩ := charBytes_digits hds
  have hread := habsorb _ hstops
  rw [List.append_assoc]
  rw [hbytes, List.cons_append] at hread ⊢
  simp only [readFraction, hdigit, if_true, hread, dropDigits_append hleft hstops]
  exact hresult rest hrest

/-- What follows the whole digits of a numeral is read. -/
theorem readNumberTail_yields {fraction exponent : List Char}
    (hfraction : fraction = [] ∨ ∃ ds, fraction = '.' :: ds ∧ IsDigits ds)
    (hexponent : exponent = [] ∨
      ∃ sign ds, exponent = 'e' :: sign :: ds ∧ (sign = '+' ∨ sign = '-') ∧ IsDigits ds)
    (negative : Bool) (significand dropped : Nat) :
    ∃ result, Yields (readNumberTail negative significand dropped) (charBytes fraction ++ charBytes exponent)
      result := by
  rcases hfraction with rfl | ⟨ds, rfl, hds⟩
  · obtain ⟨result, hresult⟩ := readRealTail_yields hexponent negative significand dropped
    rcases hexponent with rfl | ⟨sign, ds, rfl, hsign, hds⟩
    · by_cases hdropped : dropped = 0
      · -- the number is whole
        refine ⟨Number.ofDigits negative significand, fun rest hrest => ?_⟩
        cases rest with
        | nil =>
          cases hn : Number.ofDigits negative significand <;>
            simp [readNumberTail, hdropped, hn, bind, Except.bind, Except.map]
        | cons b rest =>
          obtain ⟨-, hpoint, hmark⟩ := hrest b rfl
          cases hn : Number.ofDigits negative significand <;>
            simp [readNumberTail, hpoint, hmark, hdropped, hn, bind, Except.bind, Except.map]
      · refine ⟨result, fun rest hrest => ?_⟩
        rw [← hresult rest hrest]
        cases rest with
        | nil => simp [readNumberTail, hdropped]
        | cons b rest => simp [readNumberTail, (hrest b rfl).2.1, hdropped]
    · refine ⟨result, fun rest hrest => ?_⟩
      rw [← hresult rest hrest, charBytes_cons]
      rfl
  · obtain ⟨result, hresult⟩ := readFraction_yields hds hexponent negative significand dropped
    exact ⟨result, hresult⟩

/-- A numeral is read up to its end. -/
theorem readNumber_yields {cs : List Char} (h : IsNumeral cs) (negative : Bool) :
    ∃ result, Yields (readNumber negative) (charBytes cs) result := by
  obtain ⟨whole, fraction, exponent, rfl, ⟨hdigits, hzero⟩, hfraction, hexponent⟩ := h
  obtain ⟨significand, count, left, hleft, habsorb⟩ := absorbDigits_split hdigits.2 0 0
  have hstops (rest : Bytes) (hrest : StopsNumber rest) :
      StopsDigits (charBytes fraction ++ charBytes exponent ++ rest) := by
    rw [List.append_assoc]
    rcases hfraction with rfl | ⟨ds, rfl, -⟩
    · exact fun b hb => (exponent_head hexponent hrest b hb).1
    · intro b hb
      obtain rfl : 0x2e = b := Option.some.inj hb
      decide
  rw [charBytes_append, charBytes_append]
  cases hwhole : whole with
  | nil => exact absurd hwhole hdigits.1
  | cons c cs =>
    rw [hwhole] at hdigits hzero habsorb
    obtain ⟨b, hb, hdigit, -, -, hiff⟩ := digit_bytes (hdigits.2 c List.mem_cons_self)
    by_cases hc : c = '0'
    · obtain rfl : cs = [] := (List.cons.inj (hzero (by rw [List.head?_cons, hc]))).2
      obtain ⟨result, hresult⟩ := readNumberTail_yields hfraction hexponent negative 0 0
      refine ⟨result, fun rest hrest => ?_⟩
      rw [← hresult rest hrest, charBytes_cons, hb, hiff.mpr hc, charBytes_nil, List.append_nil, List.append_assoc,
        List.singleton_append]
      have hstop := hstops rest hrest
      generalize charBytes fraction ++ charBytes exponent ++ rest = tail at hstop
      cases tail with
      | nil => rfl
      | cons d tail => simp only [readNumber, if_true, hstop d rfl, Bool.false_eq_true, if_false]
    · obtain ⟨result, hresult⟩ := readNumberTail_yields hfraction hexponent negative significand left.length
      refine ⟨result, fun rest hrest => ?_⟩
      have hne : b ≠ 0x30 := fun hb => hc (hiff.mp hb)
      have hread := habsorb _ (hstops rest hrest)
      have hdrop := dropDigits_append hleft (hstops rest hrest) 0
      rw [Nat.zero_add] at hdrop
      rw [List.append_assoc]
      rw [charBytes_cons, hb, List.singleton_append, List.cons_append] at hread ⊢
      simp only [readNumber, if_neg hne, hdigit, if_true, hread, hdrop]
      exact hresult rest hrest

/-- A printed number is read up to its end. -/
theorem readScalar_number (n : Number) :
    ∃ b bs, charBytes n.chars = b :: bs ∧ (isDigit b = true ∨ b = 0x2d) ∧
      ∃ result, Yields (readScalar b) bs result := by
  obtain ⟨cs, hnumeral, hchars⟩ := number_chars_cases n
  obtain ⟨b, bs, hbytes, hdigit⟩ := hnumeral.head
  rcases hchars with hchars | hchars
  · obtain ⟨result, hresult⟩ := readNumber_yields hnumeral false
    refine ⟨b, bs, by rw [hchars, hbytes], .inl hdigit, result.map .number, fun rest hrest => ?_⟩
    have hread := hresult rest hrest
    have hquote : b ≠ 0x22 := by rintro rfl; simp [isDigit] at hdigit
    have hminus : b ≠ 0x2d := by rintro rfl; simp [isDigit] at hdigit
    rw [hbytes, List.cons_append] at hread
    rw [readScalar, if_neg hquote, if_neg hminus, if_pos hdigit, hread]
    cases result <;> rfl
  · obtain ⟨result, hresult⟩ := readNumber_yields hnumeral true
    refine ⟨0x2d, b :: bs, by rw [hchars, charBytes_cons, hbytes]; rfl, .inr rfl, result.map .number,
      fun rest hrest => ?_⟩
    have hread := hresult rest hrest
    rw [hbytes] at hread
    rw [readScalar, if_neg (by decide), if_pos rfl, hread]
    cases result <;> rfl

/-! ## The range of whole numbers -/

/-- A whole number that has to fit a signed or an unsigned word; a real number always fits. -/
def Number.Fits : Number → Prop
  | .integer n => Word.signedLow ≤ n ∧ n ≤ Word.unsignedHigh
  | .real _ => True

/-- A number that is not real. -/
def Number.isWhole : Number → Bool
  | .integer _ => true
  | .real _ => false

/-- What is read to the end by a reader has a property. -/
def Gives {α : Type} (P : α → Prop) (read : Bytes → Except Fault (α × Bytes)) : Prop :=
  ∀ bs a rest, read bs = .ok (a, rest) → P a

/-- A decimal with a fraction or an exponent is real. -/
theorem realOfDecimal_fits {negative : Bool} {significand : Nat} {scale : Int} {n : Number}
    (h : realOfDecimal negative significand scale = .ok n) : n.Fits := by
  unfold realOfDecimal at h
  split at h
  · rw [Except.ok.injEq] at h
    subst h
    trivial
  · contradiction

/-- What is completed as a real number fits. -/
theorem readRealTail_fits (negative : Bool) (significand : Nat) (scale : Int) :
    Gives Number.Fits (readRealTail negative significand scale) := by
  intro bs n rest h
  simp only [readRealTail, bind, Except.bind] at h
  repeat' split at h
  all_goals first | contradiction | skip
  all_goals
    simp only [Except.ok.injEq, Prod.mk.injEq] at h
    obtain ⟨rfl, -⟩ := h
    exact realOfDecimal_fits ‹_›

/-- What is read with a fraction fits. -/
theorem readFraction_fits (negative : Bool) (significand : Nat) (scale : Int) :
    Gives Number.Fits (readFraction negative significand scale) := by
  intro bs n rest h
  unfold readFraction at h
  split at h
  · contradiction
  · split at h
    · exact readRealTail_fits _ _ _ _ _ _ h
    · contradiction

/-- Digits that fit a word make a number that fits. -/
theorem Number.ofDigits_fits {negative : Bool} {significand : Nat} {n : Number} (hfit : significand < UInt64.size)
    (h : Number.ofDigits negative significand = .ok n) : n.Fits := by
  have hsize : UInt64.size = 18446744073709551616 := rfl
  unfold Number.ofDigits at h
  split at h
  · rw [Except.ok.injEq] at h
    subst h
    simp only [Number.Fits, Word.signedLow, Word.unsignedHigh]
    omega
  · split at h
    · exact realOfDecimal_fits h
    · rw [Except.ok.injEq] at h
      subst h
      simp only [Number.Fits, Word.signedLow, Word.unsignedHigh]
      omega

/-- What is absorbed fits a word. -/
theorem absorbDigits_lt {acc : Nat} (h : acc < UInt64.size) (count : Nat) (bs : Bytes) :
    (absorbDigits acc count bs).1 < UInt64.size := by
  induction bs generalizing acc count with
  | nil => exact h
  | cons b bs ih =>
    rw [absorbDigits]
    split
    case isTrue hdigit =>
      rw [Bool.and_eq_true, decide_eq_true_eq] at hdigit
      exact ih hdigit.2 _
    case isFalse => exact h

/-- What is completed after whole digits that fit a word fits. -/
theorem readNumberTail_fits {significand : Nat} (hfit : significand < UInt64.size) (negative : Bool)
    (dropped : Nat) : Gives Number.Fits (readNumberTail negative significand dropped) := by
  intro bs n rest h
  unfold readNumberTail at h
  split at h
  · exact readFraction_fits _ _ _ _ _ _ h
  · have hwhole (h : (do .ok (← Number.ofDigits negative significand, bs)) = Except.ok (n, rest)) : n.Fits := by
      cases hn : Number.ofDigits negative significand with
      | error f => simp [hn, bind, Except.bind] at h
      | ok m =>
        simp only [hn, bind, Except.bind, Except.ok.injEq, Prod.mk.injEq] at h
        exact h.1 ▸ Number.ofDigits_fits hfit hn
    dsimp only at h
    split at h <;> split at h
    · exact readRealTail_fits _ _ _ _ _ _ h
    · exact hwhole h
    · exact readRealTail_fits _ _ _ _ _ _ h
    · exact hwhole h

/-- A number that was read fits. -/
theorem readNumber_fits (negative : Bool) : Gives Number.Fits (readNumber negative) := by
  have hzero : 0 < UInt64.size := by decide
  intro bs n rest h
  cases bs with
  | nil => contradiction
  | cons b bs =>
    simp only [readNumber] at h
    split at h
    · split at h
      · exact readNumberTail_fits hzero _ _ _ _ _ h
      · split at h
        · contradiction
        · exact readNumberTail_fits hzero _ _ _ _ _ h
    · split at h
      · have hlt := absorbDigits_lt hzero 0 (b :: bs)
        generalize absorbDigits 0 0 (b :: bs) = absorbed at h hlt
        exact readNumberTail_fits hlt _ _ _ _ _ h
      · contradiction

end Parlor.Json
