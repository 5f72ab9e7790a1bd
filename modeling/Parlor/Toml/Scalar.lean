import Parlor.Decimal.Nearest
import Parlor.Text.Split
import Parlor.Text.Word
import Parlor.Toml.Item
import Parlor.Word

/-!
# Plain scalars of TOML

Numbers, truth values, dates and times, each given as the word that writes it.  Digits may be grouped
by single underscores.
-/

namespace Parlor.Toml

open Decimal (Binary64)

/-! ## Numbers -/

/-- The digits of groups that are joined by underscores. -/
def ungroup? (isDigit : Char → Bool) (cs : List Char) : Option (List Char) :=
  let groups := Text.split '_' cs
  if groups.all fun g => !g.isEmpty && g.all isDigit then some groups.flatten else none

/-- The value of a hexadecimal digit. -/
def hexDigit? (c : Char) : Option Nat :=
  if c.isDigit then some (c.toNat - 48)
  else if 'a' ≤ c ∧ c ≤ 'f' then some (c.toNat - 87)
  else if 'A' ≤ c ∧ c ≤ 'F' then some (c.toNat - 55)
  else none

/-- The number that digits write in a base. -/
def ofDigits (base : Nat) (digits : List Char) : Nat :=
  digits.foldl (fun n c => n * base + (hexDigit? c).getD 0) 0

/-- A whole number of the signed 64-bit range. -/
def integerItem? (n : Int) : Option Item :=
  if Word.isSigned n then some (.integer n) else none

/-- A whole number in a base other than ten, which has no sign. -/
def basedItem? (base : Nat) (cs : List Char) : Option Item := do
  let digits ← ungroup? (fun c => (hexDigit? c).any (· < base)) cs
  integerItem? (ofDigits base digits)

/-- The digits of a number without needless zeros in front. -/
def wholeDigits? (cs : List Char) : Option (List Char) := do
  let digits ← ungroup? Char.isDigit cs
  if digits.length > 1 && digits.head? = some '0' then none else some digits

/-- A sign, true for minus, and what follows it. -/
def splitSign : List Char → Bool × List Char
  | '-' :: rest => (true, rest)
  | '+' :: rest => (false, rest)
  | cs => (false, cs)

/-- The whole number with a sign. -/
def signed (isNegative : Bool) (n : Nat) : Int := if isNegative then -n else n

/-- The exponent after its mark; an absent one is zero. -/
def exponent? : Option (List Char) → Option Int
  | none => some 0
  | some cs => do
    let (isNegative, cs) := splitSign cs
    some (signed isNegative (ofDigits 10 (← ungroup? Char.isDigit cs)))

/-- Tests for either letter of the exponent mark. -/
def isMark (c : Char) : Bool := c = 'e' || c = 'E'

/-- A real number after its sign, which has a fraction or an exponent and is not too large. -/
def realItem? (isNegative : Bool) (cs : List Char) : Option Item := do
  let decimal := cs.takeWhile fun c => !isMark c
  let mark := cs.dropWhile fun c => !isMark c
  let whole ← wholeDigits? (decimal.takeWhile (· ≠ '.'))
  let fraction ← match decimal.dropWhile (· ≠ '.') with
    | [] => some []
    | _ :: digits => ungroup? Char.isDigit digits
  let e ← exponent? mark.tail?
  let x := Decimal.nearest (ofDigits 10 (whole ++ fraction)) (e - fraction.length)
  if x = Binary64.infinity then none else some (.real (if isNegative then x.negate else x))

/-- A number with a sign perhaps. -/
def numberItem? (cs : List Char) : Option Item :=
  let (isNegative, body) := splitSign cs
  match body with
  | ['i', 'n', 'f'] => some (.real (if isNegative then Binary64.infinity.negate else Binary64.infinity))
  | ['n', 'a', 'n'] => some (.real (if isNegative then Binary64.notANumber.negate else Binary64.notANumber))
  | body =>
    if body.any fun c => c = '.' || isMark c then realItem? isNegative body
    else do integerItem? (signed isNegative (ofDigits 10 (← wholeDigits? body)))

/-! ## Dates and times -/

/-- The number that two digits write, if it is at most `last`. -/
def twoDigits? (first last : Nat) (a b : Char) : Option Nat := do
  let n := 10 * (← Text.digit? a) + (← Text.digit? b)
  if first ≤ n ∧ n ≤ last then some n else none

/-- Tests for a year whose second month has one more day. -/
def isLeapYear (year : Nat) : Bool := year % 4 = 0 && (year % 100 ≠ 0 || year % 400 = 0)

/-- The number of days of a month. -/
def daysOf (year month : Nat) : Nat :=
  if month = 2 then (if isLeapYear year then 29 else 28)
  else if [4, 6, 9, 11].contains month then 30 else 31

/-- Reads a date, and gives back its text. -/
def date? : List Char → Option (List Char)
  | [a, b, c, d, '-', e, f, '-', g, h] => do
    let year := 100 * (← twoDigits? 0 99 a b) + (← twoDigits? 0 99 c d)
    let month ← twoDigits? 1 12 e f
    let _ ← twoDigits? 1 (daysOf year month) g h
    some [a, b, c, d, '-', e, f, '-', g, h]
  | _ => none

/-- The fraction of a second, without needless zeros at its end and what is below a billionth. -/
def secondFraction (digits : List Char) : List Char :=
  match ((digits.take 9).reverse.dropWhile (· = '0')).reverse with
  | [] => ['.', '0']
  | kept => '.' :: kept

/--
Reads a time of day without an offset, and gives back its text in normal form.  Seconds that are left
out stay so.
-/
def clock? : List Char → Option (List Char)
  | [a, b, ':', c, d] => do
    let _ ← twoDigits? 0 23 a b
    let _ ← twoDigits? 0 59 c d
    some [a, b, ':', c, d]
  | a :: b :: ':' :: c :: d :: ':' :: e :: f :: rest => do
    let _ ← twoDigits? 0 23 a b
    let _ ← twoDigits? 0 59 c d
    let _ ← twoDigits? 0 60 e f
    let shown := [a, b, ':', c, d, ':', e, f]
    match rest with
    | [] => some shown
    | '.' :: digits =>
      if digits.isEmpty || !digits.all Char.isDigit then none else some (shown ++ secondFraction digits)
    | _ => none
  | _ => none

/-- Reads the offset of a time zone, and gives back its text in normal form. -/
def offset? : List Char → Option (List Char)
  | [] => some []
  | ['Z'] | ['z'] => some ['Z']
  | [sign, a, b, ':', c, d] => do
    let hours ← twoDigits? 0 23 a b
    let minutes ← twoDigits? 0 59 c d
    if sign = '+' ∨ (sign = '-' ∧ hours + minutes = 0) then some ['+', a, b, ':', c, d]
    else if sign = '-' then some ['-', a, b, ':', c, d]
    else none
  | _ => none

/-- Tests for a character that a time of day without an offset is written with. -/
def isClockChar (c : Char) : Bool := c.isDigit || c = ':' || c = '.'

/-- A date with a time of day. -/
def dateTimeItem? (date time : List Char) : Option Item := do
  let day ← date? date
  let clock ← clock? (time.takeWhile isClockChar)
  let zone ← offset? (time.dropWhile isClockChar)
  some (.moment (String.ofList (day ++ 'T' :: clock ++ zone)))

/-- A date, a time of day, or both. -/
def momentItem? (cs : List Char) : Option Item :=
  match cs.drop 10 with
  | [] =>
    match date? cs with
    | some day => some (.moment (String.ofList day))
    | none => (clock? cs).map fun clock => .moment (String.ofList clock)
  | separator :: time =>
    if separator = 'T' ∨ separator = 't' then dateTimeItem? (cs.take 10) time
    else (clock? cs).map fun clock => .moment (String.ofList clock)

/-! ## Words -/

/-- Tests for a character of a word. -/
def isWordChar (c : Char) : Bool := c.isAlphanum || "+-_.:".contains c

/-- What a word writes. -/
def wordItem? (cs : List Char) : Option Item :=
  match cs with
  | ['t', 'r', 'u', 'e'] => some (.bool true)
  | ['f', 'a', 'l', 's', 'e'] => some (.bool false)
  | '0' :: 'x' :: digits => basedItem? 16 digits
  | '0' :: 'o' :: digits => basedItem? 8 digits
  | '0' :: 'b' :: digits => basedItem? 2 digits
  | cs => (numberItem? cs).or (momentItem? cs)

/-- Reads a plain scalar.  A space may stand between a date and a time of day. -/
def readPlain (cs : List Char) : Option (Item × List Char) :=
  let word := cs.takeWhile isWordChar
  match (date? word).isSome, cs.dropWhile isWordChar with
  | true, ' ' :: c :: rest =>
    if c.isDigit then
      (dateTimeItem? word ((c :: rest).takeWhile isWordChar)).map fun item =>
        (item, (c :: rest).dropWhile isWordChar)
    else (wordItem? word).map fun item => (item, ' ' :: c :: rest)
  | _, rest => (wordItem? word).map fun item => (item, rest)

end Parlor.Toml
