/-!
# Shortest decimals of binary fractions

A positive binary64 number is `m * 2 ^ q` with a whole `m`.  Every real number of a small interval
around it is rounded to it.  The shortest decimal of the number is the decimal with the fewest
digits inside that interval, and the nearest of those where there are several.

Everything is exact arithmetic on natural numbers; no floating point operation is involved.
-/

namespace Parlor.Decimal

/-- The bits of a binary64 number: sign, exponent and fraction packed into one word. -/
structure Binary64 where
  bits : UInt64
  deriving DecidableEq, Inhabited, Repr

namespace Binary64

/-- Packs a machine float. -/
def ofFloat (x : Float) : Binary64 := ⟨x.toBits⟩

/-- Unpacks to a machine float. -/
def toFloat (b : Binary64) : Float := Float.ofBits b.bits

/-- Tests the sign bit, so that the negative zero counts as negative. -/
def isNegative (b : Binary64) : Bool := decide (Nat.pow 2 63 ≤ b.bits.toNat)

/-- The exponent field, between 0 and 2047. -/
def exponentField (b : Binary64) : Nat := b.bits.toNat / Nat.pow 2 52 % Nat.pow 2 11

/-- The fraction field, below `2 ^ 52`. -/
def fraction (b : Binary64) : Nat := b.bits.toNat % Nat.pow 2 52

/-- The whole number `m` of `m * 2 ^ q`. -/
def significand (b : Binary64) : Nat :=
  if b.exponentField = 0 then b.fraction else b.fraction + Nat.pow 2 52

/-- The power `q` of `m * 2 ^ q`. -/
def scale (b : Binary64) : Int :=
  if b.exponentField = 0 then -1074 else (b.exponentField : Int) - 1075

/-- Tests whether the gap below the number is half the gap above it. -/
def hasNarrowLowerGap (b : Binary64) : Bool := b.fraction = 0 && 1 < b.exponentField

end Binary64

/-- An interval of positive fractions over one denominator, around a middle point. -/
structure Interval where
  low : Nat
  middle : Nat
  high : Nat
  denominator : Nat
  /-- Whether the two ends belong to the interval. -/
  closed : Bool

namespace Interval

/-- The interval of reals that are rounded to the magnitude of `b`. -/
def ofBinary64 (b : Binary64) : Interval :=
  let m := b.significand
  let up := Nat.pow 2 (b.scale - 2).toNat
  { low := (4 * m - (if b.hasNarrowLowerGap then 1 else 2)) * up
    middle := 4 * m * up
    high := (4 * m + 2) * up
    denominator := Nat.pow 2 (2 - b.scale).toNat
    closed := m % 2 = 0 }

/-- Multiplies the interval by `10 ^ k`. -/
def scaled (i : Interval) (k : Int) : Interval :=
  let up := Nat.pow 10 k.toNat
  { low := i.low * up
    middle := i.middle * up
    high := i.high * up
    denominator := i.denominator * Nat.pow 10 (-k).toNat
    closed := i.closed }

/-- Tests whether the whole number `d` lies in the interval. -/
def contains (i : Interval) (d : Nat) : Bool :=
  let x := d * i.denominator
  if i.closed then decide (i.low ≤ x ∧ x ≤ i.high) else decide (i.low < x ∧ x < i.high)

/-- The whole number of the interval next to its middle, a tie going to the even one. -/
def nearest? (i : Interval) : Option Nat :=
  let below := i.middle / i.denominator
  let above := below + 1
  match i.contains below, i.contains above with
  | true, true =>
    let rest := 2 * (i.middle % i.denominator)
    if rest < i.denominator ∨ (rest = i.denominator ∧ below % 2 = 0) then some below else some above
  | true, false => some below
  | false, true => some above
  | false, false => none

end Interval

/-- The number of decimal digits of `n`. -/
def digitCount (n : Nat) : Nat := (Nat.toDigits 10 n).length

/-- The exponent of the leading digit of the fraction `n / d`. -/
def leadingExponent (n d : Nat) : Int :=
  if d ≤ n then (digitCount (n / d) : Int) - 1 else -(digitCount ((d - 1) / n) : Int)

/-- A decimal `digits * 10 ^ exponent`. -/
structure Scientific where
  digits : Nat
  exponent : Int
  deriving DecidableEq, Repr

/-- Drops the trailing zeros of a decimal, at most `fuel` of them. -/
def Scientific.trim (s : Scientific) : Nat → Scientific
  | 0 => s
  | fuel + 1 =>
    if s.digits ≠ 0 ∧ s.digits % 10 = 0 then
      Scientific.trim { digits := s.digits / 10, exponent := s.exponent + 1 } fuel
    else s

/-- Tries the grids of `count`, `count + 1`, … digits until one has a point in the interval. -/
def searchGrids (i : Interval) (lead : Int) (count : Nat) : Nat → Option Scientific
  | 0 => none
  | fuel + 1 =>
    let step := lead - ((count : Int) - 1)
    match (i.scaled (-step)).nearest? with
    | some d => some { digits := d, exponent := step }
    | none => searchGrids i lead (count + 1) fuel

/-- The shortest decimal of the magnitude of a finite number. -/
def shortest (b : Binary64) : Scientific :=
  if b.significand = 0 then { digits := 0, exponent := 0 }
  else
    let i := Interval.ofBinary64 b
    match searchGrids i (leadingExponent i.middle i.denominator) 1 17 with
    | some s => s.trim 20
    | none => { digits := 0, exponent := 0 }

end Parlor.Decimal
