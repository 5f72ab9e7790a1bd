import Parlor.Json.Value

/-!
# JSON text

`Value.text` writes a value without any blanks, the members of an object in their stored order.
`Value.prettyText` writes one member or item a line, indented by two blanks a level.

A string escapes its quotes, its backslashes and its control characters only.  A real number is
written with its shortest digits: positionally while its leading digit stands for a power of ten
between `10 ^ -5` and `10 ^ 15`, and with an exponent otherwise.
-/

namespace Parlor.Json

open Parlor.Decimal

/-- A hexadecimal digit in lower case. -/
def hexDigit (n : Nat) : Char := if n < 10 then Char.ofNat (48 + n) else Char.ofNat (87 + n)

/-- The characters that stand for `c` inside a quoted string. -/
def escapeChar (c : Char) : List Char :=
  if c = '"' then ['\\', '"']
  else if c = '\\' then ['\\', '\\']
  else if c = '\n' then ['\\', 'n']
  else if c = '\r' then ['\\', 'r']
  else if c = '\t' then ['\\', 't']
  else if c = '\x08' then ['\\', 'b']
  else if c = '\x0c' then ['\\', 'f']
  else if c.toNat < 0x20 then ['\\', 'u', '0', '0', hexDigit (c.toNat / 16), hexDigit (c.toNat % 16)]
  else [c]

/-- A string between quotes. -/
def quotedChars (s : String) : List Char :=
  '"' :: s.toList.flatMap escapeChar ++ ['"']

/-- The decimal digits of a whole number, after its sign. -/
def integerChars : Int → List Char
  | .ofNat n => Nat.toDigits 10 n
  | .negSucc n => '-' :: Nat.toDigits 10 (n + 1)

/-- A positive decimal in positional or exponent notation. -/
def scientificChars (s : Scientific) : List Char :=
  let digits := Nat.toDigits 10 s.digits
  let lead := s.exponent + digits.length - 1
  if 0 ≤ lead ∧ lead ≤ 15 then
    if 0 ≤ s.exponent then digits ++ List.replicate s.exponent.toNat '0' ++ ['.', '0']
    else digits.take (lead + 1).toNat ++ '.' :: digits.drop (lead + 1).toNat
  else if -5 ≤ lead ∧ lead < 0 then
    '0' :: '.' :: List.replicate (-lead - 1).toNat '0' ++ digits
  else
    let mantissa := match digits with
      | [] => []
      | [d] => [d]
      | d :: rest => d :: '.' :: rest
    mantissa ++ 'e' :: (if lead < 0 then '-' else '+') :: Nat.toDigits 10 lead.natAbs

/-- A real number, with a sign if its sign bit is set. -/
def realChars (x : Binary64) : List Char :=
  let body := if x.significand = 0 then ['0', '.', '0'] else scientificChars (shortest x)
  if x.isNegative then '-' :: body else body

/-- A number. -/
def Number.chars : Number → List Char
  | .integer n => integerChars n
  | .real x => realChars x

mutual

/-- The compact text of a value. -/
def Value.chars : Value → List Char
  | .null => ['n', 'u', 'l', 'l']
  | .bool true => ['t', 'r', 'u', 'e']
  | .bool false => ['f', 'a', 'l', 's', 'e']
  | .number n => n.chars
  | .string s => quotedChars s
  | .array [] => ['[', ']']
  | .array (v :: rest) => '[' :: v.chars ++ itemsTail rest
  | .object [] => ['\x7b', '\x7d']
  | .object ((name, v) :: rest) => '\x7b' :: quotedChars name ++ ':' :: v.chars ++ membersTail rest

/-- The items after the first one, and the closing bracket. -/
def itemsTail : List Value → List Char
  | [] => [']']
  | v :: rest => ',' :: v.chars ++ itemsTail rest

/-- The members after the first one, and the closing brace. -/
def membersTail : List (String × Value) → List Char
  | [] => ['\x7d']
  | (name, v) :: rest => ',' :: quotedChars name ++ ':' :: v.chars ++ membersTail rest

end

/-- The compact text of a value. -/
def Value.text (v : Value) : String := String.ofList v.chars

/-- A new line, indented by `depth` levels. -/
def newLine (depth : Nat) : List Char := '\n' :: List.replicate (2 * depth) ' '

mutual

/-- The text of a value with one item or member a line, nested `depth` levels deep. -/
def Value.prettyChars (depth : Nat) : Value → List Char
  | .array (v :: rest) =>
    '[' :: newLine (depth + 1) ++ v.prettyChars (depth + 1) ++ prettyItemsTail depth rest
  | .object ((name, v) :: rest) =>
    '\x7b' :: newLine (depth + 1) ++ quotedChars name ++ ':' :: ' ' :: v.prettyChars (depth + 1)
      ++ prettyMembersTail depth rest
  | .array [] => ['[', ']']
  | .object [] => ['\x7b', '\x7d']
  | .null => Value.chars .null
  | .bool b => Value.chars (.bool b)
  | .number n => Value.chars (.number n)
  | .string s => Value.chars (.string s)

/-- The items after the first one, a line each, and the closing bracket. -/
def prettyItemsTail (depth : Nat) : List Value → List Char
  | [] => newLine depth ++ [']']
  | v :: rest =>
    ',' :: newLine (depth + 1) ++ v.prettyChars (depth + 1) ++ prettyItemsTail depth rest

/-- The members after the first one, a line each, and the closing brace. -/
def prettyMembersTail (depth : Nat) : List (String × Value) → List Char
  | [] => newLine depth ++ ['\x7d']
  | (name, v) :: rest =>
    ',' :: newLine (depth + 1) ++ quotedChars name ++ ':' :: ' ' :: v.prettyChars (depth + 1)
      ++ prettyMembersTail depth rest

end

/-- The text of a value with one item or member a line. -/
def Value.prettyText (v : Value) : String := String.ofList (v.prettyChars 0)

end Parlor.Json
