import Parlor.Decimal.Shortest

/-!
# Binary fractions next to decimals
-/

namespace Parlor.Decimal

namespace Binary64

/-- The positive infinity. -/
def infinity : Binary64 := ⟨0x7ff0000000000000⟩

/-- A number that is none. -/
def notANumber : Binary64 := ⟨0x7ff8000000000000⟩

/-- The number of the opposite sign. -/
def negate (b : Binary64) : Binary64 := ⟨b.bits ^^^ 0x8000000000000000⟩

end Binary64

/-- The number next to `n * 10 ^ e`, which is infinite where all others are too small. -/
def nearest (n : Nat) (e : Int) : Binary64 :=
  let lead := (digitCount n : Int) + e
  if n = 0 ∨ lead < -330 then .ofFloat 0.0
  else if 310 < lead then Binary64.infinity
  else .ofFloat (Float.ofScientific n (decide (e < 0)) e.natAbs)

end Parlor.Decimal
