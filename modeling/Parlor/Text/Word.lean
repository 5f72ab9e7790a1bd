/-!
# Numbers in texts

A number is written with decimal digits, after a sign perhaps.
-/

namespace Parlor.Text

/-- The value of a decimal digit. -/
def digit? (c : Char) : Option Nat := if c.isDigit then some (c.toNat - 48) else none

/-- Appends decimal digits to a number that stays below a bound. -/
def appendDigits (bound acc : Nat) : List Char → Option Nat
  | [] => some acc
  | c :: rest =>
    match digit? c with
    | some d => if acc * 10 + d < bound then appendDigits bound (acc * 10 + d) rest else none
    | none => none

/-- The number below a bound that a text writes in decimal digits, after a plus sign perhaps. -/
def parseNat? (bound : Nat) (cs : List Char) : Option Nat :=
  match cs with
  | [] => none
  | ['+'] => none
  | '+' :: digits => appendDigits bound 0 digits
  | digits => appendDigits bound 0 digits

/-- The unsigned 64-bit word that a text writes. -/
def parseWord? (s : String) : Option UInt64 := (parseNat? UInt64.size s.toList).map UInt64.ofNat

/--
The whole number between two bounds that a text writes in decimal digits, after a sign perhaps.  A minus
is a sign only where there are negative numbers.
-/
def parseInt? (low high : Int) (s : String) : Option Int := do
  let n : Int ← match s.toList with
    | '-' :: '+' :: _ => none
    | '-' :: digits => if low < 0 then (parseNat? ((-low).toNat + 1) digits).map fun n => -(n : Int) else none
    | cs => (parseNat? (high.toNat + 1) cs).map Int.ofNat
  if low ≤ n ∧ n ≤ high then some n else none

/-- The decimal digits of a word. -/
def wordText (w : UInt64) : String := String.ofList (Nat.toDigits 10 w.toNat)

end Parlor.Text
