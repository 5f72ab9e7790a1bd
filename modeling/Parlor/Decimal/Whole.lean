import Parlor.Decimal.Shortest

/-!
# Binary fractions as whole numbers and as plain decimals

Rounding to a whole number, where a half goes away from zero, and the shortest decimal written out
without an exponent.
-/

namespace Parlor.Decimal

namespace Binary64

/-- Tests for the exponent field of the infinities and of what is no number. -/
def isSpecial (b : Binary64) : Bool := b.exponentField = 2047

/-- Tests for what is no number. -/
def isNaN (b : Binary64) : Bool := b.isSpecial && b.fraction ≠ 0

/-- The whole number next to the magnitude of a finite number, a half going up. -/
def roundMagnitude (b : Binary64) : Nat :=
  let unit := Nat.pow 2 (-b.scale).toNat
  (2 * b.significand * Nat.pow 2 b.scale.toNat + unit) / (2 * unit)

/-- The whole number between two bounds next to a number; what is no number counts as zero. -/
def toIntWithin (low high : Int) (b : Binary64) : Int :=
  if b.isNaN then 0
  else
    let n : Int := if b.isSpecial then Nat.pow 2 1024 else b.roundMagnitude
    max low (min high (if b.isNegative then -n else n))

/-- The shortest decimal of a finite magnitude without an exponent. -/
def plainChars (b : Binary64) : List Char :=
  let s := shortest b
  let digits := Nat.toDigits 10 s.digits
  if 0 ≤ s.exponent then digits ++ List.replicate s.exponent.toNat '0'
  else
    let places := (-s.exponent).toNat
    let padded := List.replicate (places + 1 - digits.length) '0' ++ digits
    padded.take (padded.length - places) ++ '.' :: padded.drop (padded.length - places)

/-- A number as text, without an exponent. -/
def plainText (b : Binary64) : String :=
  if b.isNaN then "NaN"
  else
    let magnitude := if b.isSpecial then ['i', 'n', 'f'] else b.plainChars
    String.ofList (if b.isNegative then '-' :: magnitude else magnitude)

end Binary64

end Parlor.Decimal
