import Parlor.Decimal.Nearest
import Parlor.Text.Word
import Parlor.Toml.Printer
import Parlor.Toml.Scalar

/-!
# Texts as scalars of YAML

A text is written without quotes unless it would be read as something else, and then in single quotes.
Texts of several lines are written as blocks, and those with characters that cannot be shown are
escaped in double quotes.
-/

namespace Parlor.Yaml

/-! ## What a text would be read as -/

/-- Drops one of the given signs. -/
def dropSign (signs : List Char) : List Char → List Char
  | [] => []
  | c :: rest => if signs.contains c then rest else c :: rest

/-- Tests for digits with a needless zero in front, after a sign perhaps. -/
def isPaddedNumber (cs : List Char) : Bool :=
  let digits := dropSign ['-', '+'] cs
  decide (1 < digits.length) && digits.head? = some '0' && digits.all Char.isDigit

/-- The digits after the mark of a base, with the base. -/
def based? : List Char → Option (Nat × List Char)
  | '0' :: 'x' :: digits => some (16, digits)
  | '0' :: 'o' :: digits => some (8, digits)
  | '0' :: 'b' :: digits => some (2, digits)
  | _ => none

/-- Tests for a whole number in a base other than ten that fits 128 bits. -/
def isBasedNumber (cs : List Char) : Bool :=
  let isNegative := cs.head? = some '-'
  match based? (dropSign ['-', '+'] cs) with
  | some (base, digits) =>
    !digits.isEmpty && digits.all (fun c => (Toml.hexDigit? c).any (· < base))
      && decide (Toml.ofDigits base digits < Nat.pow 2 127 + if isNegative then 1 else Nat.pow 2 127)
  | none => false

/-- Tests for decimal digits, of which there is at least one. -/
def isDigits (cs : List Char) : Bool := !cs.isEmpty && cs.all Char.isDigit

/-- Tests for a decimal number, with a fraction or an exponent perhaps, that is not too large. -/
def isDecimalNumber (cs : List Char) : Bool :=
  let body := dropSign ['-', '+'] cs
  let decimal := body.takeWhile fun c => !Toml.isMark c
  let whole := decimal.takeWhile (· ≠ '.')
  let fraction := (decimal.dropWhile (· ≠ '.')).drop 1
  let exponent := (body.dropWhile fun c => !Toml.isMark c).tail?
  let value := Decimal.nearest (Toml.ofDigits 10 (whole ++ fraction))
    ((Toml.exponent? exponent).getD 0 - fraction.length)
  isDigits (whole ++ fraction) && (exponent.all fun e => isDigits (dropSign ['-', '+'] e))
    && decide (value ≠ Decimal.Binary64.infinity)

/-- The words for infinities and for what is no number. -/
def realWords : List String :=
  [".inf", ".Inf", ".INF", "+.inf", "+.Inf", "+.INF", "-.inf", "-.Inf", "-.INF", ".nan", ".NaN", ".NAN"]

/-- The words for the truth values and for the absence of a value. -/
def reservedWords : List String :=
  ["true", "True", "TRUE", "false", "False", "FALSE", "null", "Null", "NULL", "~", ""]

/-- Tests for a text that would be read as something else. -/
def isMisread (s : String) : Bool :=
  reservedWords.contains s || realWords.contains s || isPaddedNumber s.toList || isBasedNumber s.toList
    || isDecimalNumber s.toList

/-! ## What a text may be written as -/

/-- Tests for a character that ends a line. -/
def isBreak (c : Char) : Bool :=
  c = '\n' || c = '\r' || c = '\u0085' || c = '\u2028' || c = '\u2029'

/-- Tests for a blank, an end of a line or an end of the text. -/
def isGap : Option Char → Bool
  | none => true
  | some c => c = ' ' || c = '\t' || c = '\x00' || isBreak c

/-- Tests for a character that may be shown. -/
def isShown (c : Char) : Bool :=
  c = '\n' || (0x20 ≤ c.toNat && c.toNat ≤ 0x7e) || (0xa0 ≤ c.toNat && c.toNat ≠ 0xfeff
    && c.toNat ≠ 0xfffe && c.toNat ≠ 0xffff)

/-- Tests for a character that cannot start a text without quotes. -/
def isIndicator (c : Char) : Bool := "#,[]&*!|>'\"%@\x60\x7b\x7d".contains c

/-- Tests for a mark inside a text, which is given from the character before it on. -/
def hasInnerMark : (before : Char) → List Char → Bool
  | _, [] => false
  | before, c :: rest =>
    (c = ':' && isGap rest.head?) || (c = '#' && isGap (some before)) || hasInnerMark c rest

/-- Tests for a text that would be read as structure. -/
def hasMarks (cs : List Char) : Bool :=
  match cs with
  | [] => false
  | c :: rest =>
    ['-', '-', '-'].isPrefixOf cs || ['.', '.', '.'].isPrefixOf cs || isIndicator c
      || (['?', ':', '-'].contains c && isGap rest.head?) || hasInnerMark c rest

/-- Tests for two neighbours that pass a test each. -/
def hasPair (first second : Char → Bool) : List Char → Bool
  | a :: b :: rest => (first a && second b) || hasPair first second (b :: rest)
  | _ => false

/-- Tests for a space. -/
def isSpace (c : Char) : Bool := c = ' '

/-- Tests for a text that can only be written with escapes. -/
def needsEscapes (cs : List Char) : Bool := !cs.all isShown || hasPair isSpace isBreak cs

/-- The ways to write a text. -/
inductive Style where
  | plain
  | single
  | double
  | block
  deriving DecidableEq, Repr

/-- The way to write a text. -/
def Style.choose (s : String) : Style :=
  let cs := s.toList
  let quotes := if needsEscapes cs || hasPair isBreak isSpace cs then Style.double else .single
  if cs.contains '\n' then
    if needsEscapes cs || cs.getLast? = some ' ' then .double else .block
  else if isMisread s then quotes
  else if hasMarks cs || cs.any isBreak || needsEscapes cs || cs.head? = some ' '
    || cs.getLast? = some ' ' then quotes
  else .plain

/-! ## Writing -/

/-- The digits of a number in base sixteen, of a fixed width. -/
def hexChars : (width : Nat) → Nat → List Char
  | 0, _ => []
  | width + 1, n => hexChars width (n / 16) ++ [Toml.upperHexDigit (n % 16)]

/-- The escape of a character in double quotes; most characters stand for themselves. -/
def escapeChar (c : Char) : List Char :=
  match c with
  | '\x00' => ['\\', '0']
  | '\x07' => ['\\', 'a']
  | '\x08' => ['\\', 'b']
  | '\t' => ['\\', 't']
  | '\n' => ['\\', 'n']
  | '\x0b' => ['\\', 'v']
  | '\x0c' => ['\\', 'f']
  | '\r' => ['\\', 'r']
  | '\x1b' => ['\\', 'e']
  | '"' => ['\\', '"']
  | '\\' => ['\\', '\\']
  | '\u0085' => ['\\', 'N']
  | '\u2028' => ['\\', 'L']
  | '\u2029' => ['\\', 'P']
  | c =>
    if isShown c then [c]
    else if c.toNat ≤ 0xff then '\\' :: 'x' :: hexChars 2 c.toNat
    else if c.toNat ≤ 0xffff then '\\' :: 'u' :: hexChars 4 c.toNat
    else '\\' :: 'U' :: hexChars 8 c.toNat

/-- The blanks in front of a line. -/
def indentation (width : Nat) : List Char := List.replicate width ' '

/-- Writes characters, with blanks in front of each line that is not empty. -/
def indented (width : Nat) (write : Char → List Char) : (atBreak : Bool) → List Char → List Char
  | _, [] => []
  | atBreak, c :: rest =>
    if isBreak c then c :: indented width write true rest
    else (if atBreak then indentation width else []) ++ write c ++ indented width write false rest

/-- What follows the bar of a block: the width of a start that is blank, and what its end is like. -/
def blockHints (cs : List Char) : List Char :=
  let start := if cs.head?.any fun c => isSpace c || isBreak c then ['2'] else []
  match cs.reverse with
  | last :: before =>
    if !isBreak last then start ++ ['-']
    else if before.head?.all isBreak then start ++ ['+']
    else start
  | [] => start ++ ['-']

/-- A text as a scalar whose further lines are indented, up to the end of its last line. -/
def textLine (width : Nat) (s : String) : List Char :=
  let cs := s.toList
  match Style.choose s with
  | .plain => cs ++ ['\n']
  | .single =>
    let body := indented width (fun c => if c = '\'' then ['\'', '\''] else [c]) false cs
    let gap := if cs.getLast?.any isBreak then indentation width else []
    '\'' :: body ++ gap ++ ['\'', '\n']
  | .double => '"' :: cs.flatMap escapeChar ++ ['"', '\n']
  | .block =>
    let lineEnd := if cs.getLast?.any isBreak then [] else ['\n']
    '|' :: blockHints cs ++ '\n' :: indented width (fun c => [c]) true cs ++ lineEnd

end Parlor.Yaml
