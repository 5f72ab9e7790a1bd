import Mathlib.Algebra.GroupWithZero.Nat
import Parlor.Game.Stats

/-!
# Rounding to 53 binary digits

A sum of points that does not fit a signed word is kept as a real number. Rounding does not bring it back
into the range: the numbers of 53 binary digits next to the end of the range are even ones, and half the
distance between them is rounded up to the end.
-/

namespace Parlor.Game

/-- The distance between the numbers of 53 binary digits around a number. -/
def roundingUnit (m : Nat) : Nat := Nat.pow 2 (m.log2 + 1 - 53)

theorem roundingUnit_pos (m : Nat) : 0 < roundingUnit m := Nat.two_pow_pos _

/-- A number is rounded to the number of units that is nearest, and to the even one of two. -/
theorem roundMagnitude_eq (m : Nat) : roundMagnitude m =
    if roundingUnit m < 2 * (m % roundingUnit m) ∨
        roundingUnit m = 2 * (m % roundingUnit m) ∧ m / roundingUnit m % 2 = 1 then
      (m / roundingUnit m + 1) * roundingUnit m
    else m / roundingUnit m * roundingUnit m := rfl

/-- Rounding gives a whole number of units. -/
theorem roundingUnit_dvd (m : Nat) : roundingUnit m ∣ roundMagnitude m := by
  rw [roundMagnitude_eq]
  split <;> exact Nat.dvd_mul_left _ _

/-- Rounding takes away half a unit at most. -/
theorem two_mul_le_roundMagnitude (m : Nat) : 2 * m ≤ 2 * roundMagnitude m + roundingUnit m := by
  have hsplit := Nat.div_add_mod' m (roundingUnit m)
  have hrest := Nat.mod_lt m (roundingUnit_pos m)
  rw [roundMagnitude_eq]
  split
  case isTrue hup =>
    rw [Nat.add_mul, Nat.one_mul]
    omega
  case isFalse hdown => omega

/-- Rounding does not fall below a power of two. -/
theorem pow_le_roundMagnitude {m k : Nat} (h : 2 ^ k ≤ m) : 2 ^ k ≤ roundMagnitude m := by
  have hpos : m ≠ 0 := Nat.ne_of_gt (Nat.lt_of_lt_of_le (Nat.two_pow_pos k) h)
  have hunits : 2 ^ m.log2 ≤ m / roundingUnit m * roundingUnit m := by
    have hself := Nat.log2_self_le hpos
    by_cases hdigits : m.log2 < 53
    · have hone : roundingUnit m = 1 := by
        rw [roundingUnit, Nat.sub_eq_zero_of_le hdigits]
      rwa [hone, Nat.div_one, Nat.mul_one]
    · -- all leading digits but the last 52 make up whole units
      have hpow : 2 ^ 52 * roundingUnit m = 2 ^ m.log2 := by
        change 2 ^ 52 * 2 ^ (m.log2 + 1 - 53) = _
        rw [← Nat.pow_add]
        congr 1
        omega
      rw [← hpow] at hself ⊢
      exact Nat.mul_le_mul_right _ ((Nat.le_div_iff_mul_le (roundingUnit_pos m)).mpr hself)
  refine Nat.le_trans (Nat.pow_le_pow_right (by decide) ((Nat.le_log2 hpos).mpr h)) (Nat.le_trans hunits ?_)
  rw [roundMagnitude_eq]
  split
  · exact Nat.mul_le_mul_right _ (Nat.le_succ _)
  · exact Nat.le_refl _

/-- The units of a number in the upper half of the range. -/
theorem roundingUnit_upper {m : Nat} (hlow : 2 ^ 62 ≤ m) (hhigh : m < 2 ^ 63) : roundingUnit m = 1024 := by
  rw [roundingUnit, (Nat.log2_eq_iff (by omega)).mpr ⟨hlow, hhigh⟩]

/-- Half a unit below the end of the range is rounded up to the end, as the end is even. -/
theorem roundMagnitude_near_end {m : Nat} (hnear : 2 ^ 63 - 512 ≤ m) (hbelow : m < 2 ^ 63) :
    roundMagnitude m = 2 ^ 63 := by
  rw [roundMagnitude_eq, roundingUnit_upper (by omega) hbelow]
  split <;> omega

/-- In the lower half of the range the units are at most half as long. -/
theorem roundingUnit_dvd_of_lower {m : Nat} (h : m < 2 ^ 62) : roundingUnit m ∣ 512 := by
  have hdigits : m.log2 + 1 - 53 ≤ 9 := by
    by_cases hpos : m = 0
    · rw [hpos]
      decide
    · have hlog := (Nat.log2_lt hpos).mpr h
      omega
  exact Nat.pow_dvd_pow 2 hdigits

/--
A number in the upper half of the range and a smaller one whose sum leaves the range are rounded to numbers
whose sum is rounded to the end of the range at least.
-/
theorem le_roundMagnitude_add_of_upper {a b : Nat} (hlow : 2 ^ 62 ≤ a) (hhigh : a < 2 ^ 63) (h : 2 ^ 63 ≤ a + b) :
    2 ^ 63 ≤ roundMagnitude (roundMagnitude a + roundMagnitude b) := by
  by_cases hupper : 2 ^ 62 ≤ b
  · refine pow_le_roundMagnitude ?_
    have ha := pow_le_roundMagnitude hlow
    have hb := pow_le_roundMagnitude hupper
    omega
  · have hdvd := roundingUnit_dvd_of_lower (Nat.lt_of_not_le hupper)
    have hpos := roundingUnit_pos b
    have ha := two_mul_le_roundMagnitude a
    have hb := two_mul_le_roundMagnitude b
    have hasum := roundingUnit_dvd a
    have hbsum := roundingUnit_dvd b
    rw [roundingUnit_upper hlow hhigh] at ha hasum
    -- both the sum and the last number that is rounded up to the end are whole numbers of the smaller units
    have hsum : roundingUnit b ∣ roundMagnitude a + roundMagnitude b :=
      Nat.dvd_add (Nat.dvd_trans (Nat.dvd_trans hdvd (by decide)) hasum) hbsum
    have hedge : roundingUnit b ∣ 2 ^ 63 - 512 := Nat.dvd_trans hdvd (by decide)
    have hnear : 2 ^ 63 - 512 ≤ roundMagnitude a + roundMagnitude b := by
      refine Nat.le_of_not_lt fun hfar => ?_
      have hgap := Nat.le_of_dvd (Nat.sub_pos_of_lt hfar) (Nat.dvd_sub hedge hsum)
      omega
    by_cases hbelow : roundMagnitude a + roundMagnitude b < 2 ^ 63
    · exact Nat.le_of_eq (roundMagnitude_near_end hnear hbelow).symm
    · exact pow_le_roundMagnitude (Nat.le_of_not_lt hbelow)

/-- Two numbers whose sum leaves the range are rounded to numbers whose sum is rounded to one that has left it. -/
theorem le_roundMagnitude_add {a b : Nat} (h : 2 ^ 63 ≤ a + b) :
    2 ^ 63 ≤ roundMagnitude (roundMagnitude a + roundMagnitude b) := by
  by_cases ha : 2 ^ 63 ≤ a
  · exact pow_le_roundMagnitude (Nat.le_trans (pow_le_roundMagnitude ha) (Nat.le_add_right _ _))
  by_cases hb : 2 ^ 63 ≤ b
  · exact pow_le_roundMagnitude (Nat.le_trans (pow_le_roundMagnitude hb) (Nat.le_add_left _ _))
  -- one of the two is in the upper half
  by_cases hupper : 2 ^ 62 ≤ a
  · exact le_roundMagnitude_add_of_upper hupper (Nat.lt_of_not_le ha) h
  · rw [Nat.add_comm (roundMagnitude a)]
    exact le_roundMagnitude_add_of_upper (by omega) (Nat.lt_of_not_le hb) (by omega)

/-- A real number is nearest to the opposite of a number if its own opposite is nearest to the number. -/
theorem nearestReal_neg (n : Int) : nearestReal (-n) = -nearestReal n := by
  rw [nearestReal, nearestReal, Int.sign_neg, Int.natAbs_neg, Int.neg_mul]

/-- A number that is not negative is rounded by its magnitude. -/
theorem nearestReal_natCast (m : Nat) : nearestReal m = roundMagnitude m := by
  cases m with
  | zero => rfl
  | succ m => rw [nearestReal, Int.sign_eq_one_of_pos (by omega), Int.one_mul, Int.natAbs_natCast]

end Parlor.Game
