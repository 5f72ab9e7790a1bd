import Parlor.Json.Value

/-!
# Reading JSON bytes

The readers consume a list of bytes from the left and stop at the first fault, so that of two faults
the leftmost decides.  `readValue` keeps what it reads; containers nest at most as deep as it is
told.  `skipValue` passes over a value that nobody looks at, at any depth: it checks brackets and
tokens, but neither the encoding of strings nor the range of numbers.
-/

namespace Parlor.Json

open Parlor.Decimal

/-- Bytes still to be read. -/
abbrev Bytes := List UInt8

/-- Why a text is refused. -/
inductive Fault where
  /-- The text is not JSON, nests too deeply, or holds a number or string that has no value. -/
  | malformed
  /-- The text ends too early. -/
  | truncated
  /-- The text is JSON, but of another shape than the one asked for. -/
  | mistyped
  deriving DecidableEq, Repr

/-- The name of the kind of fault. -/
def Fault.name : Fault → String
  | .malformed => "syntax"
  | .truncated => "eof"
  | .mistyped => "data"

/-- Tests for one of the four blanks that may stand between tokens. -/
def isBlank (b : UInt8) : Bool := b == 0x20 || b == 0x0a || b == 0x0d || b == 0x09

/-- Drops the blanks in front. -/
def skipBlanks : Bytes → Bytes
  | [] => []
  | b :: rest => if isBlank b then skipBlanks rest else b :: rest

/-- Tests for a decimal digit. -/
def isDigit (b : UInt8) : Bool := 0x30 ≤ b && b ≤ 0x39

/-- The value of a decimal digit. -/
def digitValue (b : UInt8) : Nat := b.toNat - 0x30

/-- Reads the rest of a word, letter by letter. -/
def readWord : List UInt8 → Bytes → Except Fault Bytes
  | [], bs => .ok bs
  | _ :: _, [] => .error .truncated
  | w :: word, b :: rest => if w = b then readWord word rest else .error .malformed

/-- The letters of `null` after the first. -/
def nullTail : List UInt8 := [0x75, 0x6c, 0x6c]

/-- The letters of `true` after the first. -/
def trueTail : List UInt8 := [0x72, 0x75, 0x65]

/-- The letters of `false` after the first. -/
def falseTail : List UInt8 := [0x61, 0x6c, 0x73, 0x65]

/-! ## Strings -/

/-- The value of a hexadecimal digit of either case. -/
def hexValue? (b : UInt8) : Option Nat :=
  if isDigit b then some (digitValue b)
  else if 0x61 ≤ b && b ≤ 0x66 then some (b.toNat - 0x57)
  else if 0x41 ≤ b && b ≤ 0x46 then some (b.toNat - 0x37)
  else none

/-- The value of four hexadecimal digits. -/
def hexWord? (a b c d : UInt8) : Option Nat :=
  match hexValue? a, hexValue? b, hexValue? c, hexValue? d with
  | some a, some b, some c, some d => some (((a * 16 + b) * 16 + c) * 16 + d)
  | _, _, _, _ => none

/-- The byte that a one-letter escape stands for. -/
def escapeByte? (b : UInt8) : Option UInt8 :=
  if b = 0x22 ∨ b = 0x5c ∨ b = 0x2f then some b
  else if b = 0x62 then some 0x08
  else if b = 0x66 then some 0x0c
  else if b = 0x6e then some 0x0a
  else if b = 0x72 then some 0x0d
  else if b = 0x74 then some 0x09
  else none

/-- Tests for the first half of a surrogate pair. -/
def isHighSurrogate (n : Nat) : Bool := 0xd800 ≤ n && n < 0xdc00

/-- Tests for the second half of a surrogate pair. -/
def isLowSurrogate (n : Nat) : Bool := 0xdc00 ≤ n && n < 0xe000

/-- Puts the encoding of a code point in front of bytes held in reverse. -/
def pushCodePoint (n : Nat) (acc : Bytes) : Bytes :=
  (String.utf8EncodeChar (Char.ofNat n)).reverse ++ acc

/--
Reads a string up to its closing quote into the reversed bytes `acc`.  After the first half of a
surrogate pair, held in `high`, only the escape of the second half may follow.
-/
def readQuoted (high : Option Nat) (acc : Bytes) : Bytes → Except Fault (Bytes × Bytes)
  | [] => .error .truncated
  | 0x5c :: 0x75 :: a :: b :: c :: d :: rest =>
    match hexWord? a b c d, high with
    | none, _ => .error .malformed
    | some n, none =>
      if isLowSurrogate n then .error .malformed
      else if isHighSurrogate n then readQuoted (some n) acc rest
      else readQuoted none (pushCodePoint n acc) rest
    | some n, some h =>
      if isLowSurrogate n then
        readQuoted none (pushCodePoint ((h - 0xd800) * 0x400 + (n - 0xdc00) + 0x10000) acc) rest
      else .error .malformed
  | 0x5c :: 0x75 :: _ => .error .truncated
  | 0x5c :: [] => .error .truncated
  | 0x5c :: e :: rest =>
    match escapeByte? e, high with
    | some b, none => readQuoted none (b :: acc) rest
    | _, _ => .error .malformed
  | b :: rest =>
    if high.isSome then .error .malformed
    else if b = 0x22 then .ok (acc.reverse, rest)
    else if b < 0x20 then .error .malformed
    else readQuoted none (b :: acc) rest

/-- The text that bytes encode, if they are UTF-8. -/
def decodeUtf8 (bs : Bytes) : Option String := String.fromUTF8? ⟨bs.toArray⟩

/-- The UTF-8 bytes of a text. -/
def encodeUtf8 (s : String) : Bytes := s.toUTF8.toList

/-- Reads a string after its opening quote. -/
def readString (bs : Bytes) : Except Fault (String × Bytes) := do
  let (raw, rest) ← readQuoted none [] bs
  match decodeUtf8 raw with
  | some s => .ok (s, rest)
  | none => .error .malformed

/-- Passes over a string after its opening quote. -/
def skipString : Bytes → Except Fault Bytes
  | [] => .error .truncated
  | 0x5c :: 0x75 :: a :: b :: c :: d :: rest =>
    if (hexWord? a b c d).isSome then skipString rest else .error .malformed
  | 0x5c :: 0x75 :: _ => .error .truncated
  | 0x5c :: [] => .error .truncated
  | 0x5c :: e :: rest => if (escapeByte? e).isSome then skipString rest else .error .malformed
  | b :: rest =>
    if b = 0x22 then .ok rest
    else if b < 0x20 then .error .malformed
    else skipString rest

/-! ## Numbers -/

/-- Drops the digits in front and counts them. -/
def dropDigits (count : Nat) : Bytes → Nat × Bytes
  | [] => (count, [])
  | b :: rest => if isDigit b then dropDigits (count + 1) rest else (count, b :: rest)

/--
Appends the digits in front to `acc` and counts them, up to the first digit with which the result
would no longer fit an unsigned 64-bit word.
-/
def absorbDigits (acc count : Nat) : Bytes → Nat × Nat × Bytes
  | [] => (acc, count, [])
  | b :: rest =>
    if isDigit b && acc * 10 + digitValue b < UInt64.size then
      absorbDigits (acc * 10 + digitValue b) (count + 1) rest
    else (acc, count, b :: rest)

/-- The power of ten nearest to `10 ^ n` that a machine float can hold. -/
def powerOfTen (n : Nat) : Float := Float.ofScientific 1 false n

/--
Scales `x` by `10 ^ e`, by one multiplication or division where the power of ten is itself a float.
The result is `none` if it would be infinite.  Below `10 ^ -308` the scaling takes several divisions,
at most `fuel`, after which nothing but zero can be left.
-/
def scaleReal (x : Float) (e : Int) : Nat → Option Float
  | 0 => some 0.0
  | fuel + 1 =>
    if e.natAbs ≤ 308 then
      if 0 ≤ e then
        let y := x * powerOfTen e.toNat
        if y.isInf then none else some y
      else some (x / powerOfTen e.natAbs)
    else if x == 0.0 then some x
    else if 0 ≤ e then none
    else scaleReal (x / powerOfTen 308) (e + 308) fuel

/-- The real number `± significand * 10 ^ exponent`. -/
def realOfDecimal (negative : Bool) (significand : Nat) (exponent : Int) : Except Fault Number :=
  match scaleReal significand.toUInt64.toFloat exponent 4 with
  | some x => .ok (.real (.ofFloat (if negative then -x else x)))
  | none => .error .malformed

/-- Reads the digits after an exponent mark and its sign. -/
def readExponentDigits : Bytes → Except Fault (Nat × Bytes)
  | [] => .error .truncated
  | b :: rest =>
    if isDigit b then
      let (count, after) := dropDigits 0 (b :: rest)
      .ok (((b :: rest).take count).foldl (fun acc d => acc * 10 + digitValue d) 0, after)
    else .error .malformed

/-- Reads the exponent after its mark. -/
def readExponent : Bytes → Except Fault (Int × Bytes)
  | 0x2b :: rest => do
    let (n, rest) ← readExponentDigits rest
    .ok (n, rest)
  | 0x2d :: rest => do
    let (n, rest) ← readExponentDigits rest
    .ok (-n, rest)
  | bs => do
    let (n, rest) ← readExponentDigits bs
    .ok (n, rest)

/-- Tests for either letter of the exponent mark. -/
def isExponentMark (b : UInt8) : Bool := b == 0x65 || b == 0x45

/-- Completes a real number after its digits, of which `exponent` gives the scale. -/
def readRealTail (negative : Bool) (significand : Nat) (exponent : Int) : Bytes → Except Fault (Number × Bytes)
  | [] => do .ok (← realOfDecimal negative significand exponent, [])
  | b :: rest => do
    if isExponentMark b then
      let (e, rest) ← readExponent rest
      .ok (← realOfDecimal negative significand (exponent + e), rest)
    else .ok (← realOfDecimal negative significand exponent, b :: rest)

/-- Reads the digits after a decimal point.  Digits beyond the range of a word change nothing. -/
def readFraction (negative : Bool) (significand : Nat) (exponent : Int) : Bytes → Except Fault (Number × Bytes)
  | [] => .error .truncated
  | b :: rest =>
    if isDigit b then
      let (significand, count, rest) := absorbDigits significand 0 (b :: rest)
      readRealTail negative significand (exponent - count) (dropDigits 0 rest).2
    else .error .malformed

/-- The number whose digits are a whole number that fits an unsigned word. -/
def Number.ofDigits (negative : Bool) (n : Nat) : Except Fault Number :=
  if !negative then .ok (.integer n)
  else if n = 0 ∨ n > 9223372036854775808 then realOfDecimal true n 0
  else .ok (.integer (-n))

/-- Completes a number after its whole digits, `dropped` of which did not fit a word. -/
def readNumberTail (negative : Bool) (significand dropped : Nat) : Bytes → Except Fault (Number × Bytes)
  | 0x2e :: rest => readFraction negative significand dropped rest
  | bs =>
    let marked := match bs with
      | [] => false
      | b :: _ => isExponentMark b
    if marked || dropped ≠ 0 then readRealTail negative significand dropped bs
    else do .ok (← Number.ofDigits negative significand, bs)

/-- Reads a number after its sign. -/
def readNumber (negative : Bool) : Bytes → Except Fault (Number × Bytes)
  | [] => .error .truncated
  | b :: rest =>
    if b = 0x30 then
      match rest with
      | [] => readNumberTail negative 0 0 []
      | c :: rest => if isDigit c then .error .malformed else readNumberTail negative 0 0 (c :: rest)
    else if isDigit b then
      let (significand, _, rest) := absorbDigits 0 0 (b :: rest)
      let (dropped, rest) := dropDigits 0 rest
      readNumberTail negative significand dropped rest
    else .error .malformed

/-- Passes over the digits of which there has to be one. -/
def skipDigits : Bytes → Except Fault Bytes
  | [] => .error .malformed
  | b :: rest => if isDigit b then .ok (dropDigits 0 rest).2 else .error .malformed

/-- Passes over an exponent, if one follows. -/
def skipExponent : Bytes → Except Fault Bytes
  | [] => .ok []
  | b :: rest =>
    if isExponentMark b then
      match rest with
      | 0x2b :: rest => skipDigits rest
      | 0x2d :: rest => skipDigits rest
      | rest => skipDigits rest
    else .ok (b :: rest)

/-- Passes over a fraction and an exponent, if they follow. -/
def skipNumberTail : Bytes → Except Fault Bytes
  | 0x2e :: rest => do skipExponent (← skipDigits rest)
  | bs => skipExponent bs

/-- Passes over a number after its sign. -/
def skipNumber : Bytes → Except Fault Bytes
  | [] => .error .malformed
  | b :: rest =>
    if b = 0x30 then
      match rest with
      | [] => .ok []
      | c :: rest => if isDigit c then .error .malformed else skipNumberTail (c :: rest)
    else if isDigit b then skipNumberTail (dropDigits 0 rest).2
    else .error .malformed

/-! ## Containers -/

/--
Reads the entries of a container up to its closing bracket, folding them into `acc`.  Each entry
takes at least one byte, so `fuel` is the number of bytes.
-/
def foldEntries {σ : Type} (close : UInt8) (entry : σ → Bytes → Except Fault (σ × Bytes)) :
    (fuel : Nat) → (first : Bool) → σ → Bytes → Except Fault (σ × Bytes)
  | 0, _, _, _ => .error .malformed
  | fuel + 1, first, acc, bs =>
    match skipBlanks bs with
    | [] => .error .truncated
    | b :: rest =>
      if b = close then .ok (acc, rest)
      else if first then do
        let (acc, rest) ← entry acc (b :: rest)
        foldEntries close entry fuel false acc rest
      else if b = 0x2c then
        match skipBlanks rest with
        | [] => .error .truncated
        | c :: rest =>
          if c = close then .error .malformed
          else do
            let (acc, rest) ← entry acc (c :: rest)
            foldEntries close entry fuel false acc rest
      else .error .malformed

/-- Reads all entries of a container after its opening bracket. -/
def readEntries {σ : Type} (close : UInt8) (entry : σ → Bytes → Except Fault (σ × Bytes)) (start : σ)
    (bs : Bytes) : Except Fault (σ × Bytes) :=
  foldEntries close entry (bs.length + 1) true start bs

/-- Reads the colon between a name and its value. -/
def readColon (bs : Bytes) : Except Fault Bytes :=
  match skipBlanks bs with
  | [] => .error .truncated
  | b :: rest => if b = 0x3a then .ok rest else .error .malformed

/-- Reads the name of a member. -/
def readName : Bytes → Except Fault (String × Bytes)
  | 0x22 :: rest => readString rest
  | _ => .error .malformed

/-- Reads an item in front of the items read before, held in reverse. -/
def readItem (value : Bytes → Except Fault (Value × Bytes)) (acc : List Value) (bs : Bytes) :
    Except Fault (List Value × Bytes) := do
  let (v, rest) ← value bs
  .ok (v :: acc, rest)

/-- Reads a member into the members read before. -/
def readMember (value : Bytes → Except Fault (Value × Bytes)) (acc : List (String × Value)) (bs : Bytes) :
    Except Fault (List (String × Value) × Bytes) := do
  let (name, rest) ← readName bs
  let (v, rest) ← value (← readColon rest)
  .ok (insertMember name v acc, rest)

/-- Reads a value that opens with none of the two brackets, given its first byte. -/
def readScalar (b : UInt8) (rest : Bytes) : Except Fault (Value × Bytes) :=
  if b = 0x22 then do
    let (s, rest) ← readString rest
    .ok (.string s, rest)
  else if b = 0x2d then do
    let (n, rest) ← readNumber true rest
    .ok (.number n, rest)
  else if isDigit b then do
    let (n, rest) ← readNumber false (b :: rest)
    .ok (.number n, rest)
  else if b = 0x6e then do .ok (.null, ← readWord nullTail rest)
  else if b = 0x74 then do .ok (.bool true, ← readWord trueTail rest)
  else if b = 0x66 then do .ok (.bool false, ← readWord falseTail rest)
  else .error .malformed

/-- Reads a value whose containers nest at most `depth` deep. -/
def readValue : (depth : Nat) → Bytes → Except Fault (Value × Bytes)
  | depth, bs =>
    match skipBlanks bs with
    | [] => .error .truncated
    | b :: rest =>
      if b = 0x5b then
        match depth with
        | 0 => .error .malformed
        | depth + 1 => do
          let (items, rest) ← readEntries 0x5d (readItem (readValue depth)) [] rest
          .ok (.array items.reverse, rest)
      else if b = 0x7b then
        match depth with
        | 0 => .error .malformed
        | depth + 1 => do
          let (members, rest) ← readEntries 0x7d (readMember (readValue depth)) [] rest
          .ok (.object members, rest)
      else readScalar b rest

/-- A container that is being skipped. -/
inductive Bracket where
  | square
  | curly

/-- The byte that closes a container. -/
def Bracket.close : Bracket → UInt8
  | .square => 0x5d
  | .curly => 0x7d

/-- Passes over a value that opens with none of the two brackets, given its first byte. -/
def skipScalar (b : UInt8) (rest : Bytes) : Except Fault Bytes :=
  if b = 0x22 then skipString rest
  else if b = 0x2d then skipNumber rest
  else if isDigit b then skipNumber (b :: rest)
  else if b = 0x6e then readWord nullTail rest
  else if b = 0x74 then readWord trueTail rest
  else if b = 0x66 then readWord falseTail rest
  else .error .malformed

/-- Passes over the name of a member and its colon. -/
def skipName (bs : Bytes) : Except Fault Bytes :=
  match skipBlanks bs with
  | [] => .error .truncated
  | b :: rest => if b = 0x22 then do readColon (← skipString rest) else .error .malformed

/-- Passes over what has to stand in front of a value in a container. -/
def Bracket.skipLead : Bracket → Bytes → Except Fault Bytes
  | .square, bs => .ok bs
  | .curly, bs => skipName bs

/--
Passes over what is left of nested containers, the innermost first.  A value is due if `due` is set;
otherwise one has just ended.  Every round takes at least one byte, which bounds `fuel`.
-/
def skipNested : (fuel : Nat) → (due : Bool) → List Bracket → Bytes → Except Fault Bytes
  | 0, _, _, _ => .error .malformed
  | _ + 1, false, [], bs => .ok bs
  | fuel + 1, false, inner :: outer, bs =>
    match skipBlanks bs with
    | [] => .error .truncated
    | b :: rest =>
      if b = 0x2c then do skipNested fuel true (inner :: outer) (← inner.skipLead rest)
      else if b = inner.close then skipNested fuel false outer rest
      else .error .malformed
  | fuel + 1, true, nest, bs =>
    match skipBlanks bs with
    | [] => .error .truncated
    | b :: rest =>
      if b = 0x5b ∨ b = 0x7b then
        let inner : Bracket := if b = 0x5b then .square else .curly
        match skipBlanks rest with
        | [] => .error .truncated
        | c :: rest =>
          if c = inner.close then skipNested fuel false nest rest
          else do skipNested fuel true (inner :: nest) (← inner.skipLead (c :: rest))
      else do skipNested fuel false nest (← skipScalar b rest)

/-- Passes over a value of any depth. -/
def skipValue (bs : Bytes) : Except Fault Bytes := skipNested (bs.length + 2) true [] bs

/-- Requires that nothing but blanks is left. -/
def readEnd (bs : Bytes) : Except Fault Unit :=
  match skipBlanks bs with
  | [] => .ok ()
  | _ :: _ => .error .malformed

/-- Reads a whole text with one of the readers. -/
def readWhole {α : Type} (read : Bytes → Except Fault (α × Bytes)) (bs : Bytes) : Except Fault α := do
  let (a, rest) ← read bs
  readEnd rest
  .ok a

/-- The number of containers that may be nested in a text, the outermost one included. -/
def maxDepth : Nat := 127

/-- Reads a text that is one value. -/
def Value.read (bs : Bytes) : Except Fault Value := readWhole (readValue maxDepth) bs

end Parlor.Json
