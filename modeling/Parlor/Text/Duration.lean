/-!
# Durations in messages

A duration is a number of nanoseconds.  It is written in the largest of the units second,
millisecond, microsecond and nanosecond of which it holds at least one, with as many decimals as it
needs.
-/

namespace Parlor.Text

/-- A number of nanoseconds. -/
abbrev Nanos := Nat

/-- The nanoseconds of a number of milliseconds. -/
def millis (n : Nat) : Nanos := n * 1000000

/-- The nanoseconds of a number of seconds. -/
def seconds (n : Nat) : Nanos := n * 1000000000

/-- The digits of a fraction of a unit of `10 ^ width` parts, without trailing zeros. -/
def fractionDigits (width part : Nat) : List Char :=
  let digits := Nat.toDigits 10 part
  let padded := List.replicate (width - digits.length) '0' ++ digits
  (padded.reverse.dropWhile (· == '0')).reverse

/-- A duration in a unit of `10 ^ width` nanoseconds. -/
def inUnit (d : Nanos) (width : Nat) (unit : String) : String :=
  let whole := toString (d / Nat.pow 10 width)
  let part := d % Nat.pow 10 width
  if part = 0 then whole ++ unit
  else whole ++ "." ++ String.ofList (fractionDigits width part) ++ unit

/-- The text of a duration. -/
def durationText (d : Nanos) : String :=
  if 1000000000 ≤ d then inUnit d 9 "s"
  else if 1000000 ≤ d then inUnit d 6 "ms"
  else if 1000 ≤ d then inUnit d 3 "µs"
  else inUnit d 0 "ns"

end Parlor.Text
