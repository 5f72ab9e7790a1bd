/-!
# Ranges of words

The whole numbers that fit a word of 64 bits.
-/

namespace Parlor.Word

/-- The least signed word. -/
def signedLow : Int := -9223372036854775808

/-- The greatest signed word. -/
def signedHigh : Int := 9223372036854775807

/-- The greatest unsigned word. -/
def unsignedHigh : Int := 18446744073709551615

/-- Tests for a whole number that is a signed word. -/
def isSigned (n : Int) : Bool := decide (signedLow ≤ n ∧ n ≤ signedHigh)

end Parlor.Word
