import Parlor.Json.Printer

/-!
# Writing TOML

Tables of scalars under their headers.  A string takes the first kind of quotes that it can be written
in without an escape, and escapes where there is none.
-/

namespace Parlor.Toml

open Json (Value)

/-- The length of the longest run of a character. -/
def longestRun (c : Char) (cs : List Char) : Nat :=
  (cs.foldl (fun (longest, run) x => if x = c then (max longest (run + 1), run + 1) else (longest, 0))
    (0, 0)).1

/-- Tests for a control character that has to be escaped. -/
def isControl (c : Char) : Bool := (c.toNat < 0x20 && c ≠ '\t' && c ≠ '\n') || c = '\x7f'

/-- How a string is written. -/
structure Quoting where
  quote : Char
  /-- Whether the quotes are tripled, so that lines may end inside. -/
  isLong : Bool
  hasEscapes : Bool
  deriving DecidableEq, Repr

namespace Quoting

/-- The way to write a string. -/
def choose (cs : List Char) : Quoting :=
  let needsEscape := cs.any isControl
  let isPlain := !needsEscape && !cs.contains '\\'
  let hasLines := cs.contains '\n'
  if isPlain && !cs.contains '"' && !hasLines then ⟨'"', false, true⟩
  else if !needsEscape && !cs.contains '\'' && !hasLines then ⟨'\'', false, false⟩
  else if isPlain && longestRun '"' cs ≤ 2 then ⟨'"', true, true⟩
  else if !needsEscape && longestRun '\'' cs ≤ 2 then ⟨'\'', true, false⟩
  else ⟨'"', hasLines, true⟩

/-- The quotes of one end. -/
def mark (q : Quoting) : List Char := List.replicate (if q.isLong then 3 else 1) q.quote

end Quoting

/-- A hexadecimal digit in upper case. -/
def upperHexDigit (n : Nat) : Char := (Json.hexDigit n).toUpper

/-- The escape of a character other than a quote; a character that needs none stands for itself. -/
def escapeChar (isLong : Bool) (c : Char) : List Char :=
  if c = '\x08' then ['\\', 'b']
  else if c = '\t' then ['\\', 't']
  else if c = '\n' then (if isLong then ['\n'] else ['\\', 'n'])
  else if c = '\x0c' then ['\\', 'f']
  else if c = '\r' then ['\\', 'r']
  else if c = '\\' then ['\\', '\\']
  else if isControl c then
    ['\\', 'u', '0', '0', upperHexDigit (c.toNat / 16), upperHexDigit (c.toNat % 16)]
  else [c]

/-- Escapes a string after `run` quotes, of which two may follow each other in a long string. -/
def escapeChars (isLong : Bool) : (run : Nat) → List Char → List Char
  | _, [] => []
  | run, c :: rest =>
    if c = '"' then
      if isLong && run < 2 then '"' :: escapeChars isLong (run + 1) rest
      else '\\' :: '"' :: escapeChars isLong 0 rest
    else escapeChar isLong c ++ escapeChars isLong 0 rest

/-- A string between quotes. -/
def stringChars (s : String) : List Char :=
  let cs := s.toList
  let q := Quoting.choose cs
  let body := if q.hasEscapes then escapeChars q.isLong 0 cs else cs
  q.mark ++ (if q.isLong && cs.contains '\n' then ['\n'] else []) ++ body ++ q.mark

/-- A scalar; whole numbers have to be in the signed 64-bit range. -/
def scalarChars? : Value → Option (List Char)
  | .string s => some (stringChars s)
  | .bool b => some (Value.chars (.bool b))
  | .number (.integer n) => if Word.isSigned n then some (Json.integerChars n) else none
  | .number (.real x) => some (Json.realChars x)
  | .null | .array _ | .object _ => none

/-- The lines of entries; an absent value has none. -/
def entryLines? : List (String × Value) → Option (List Char)
  | [] => some []
  | (_, .null) :: rest => entryLines? rest
  | (name, value) :: rest => do
    let shown ← scalarChars? value
    let others ← entryLines? rest
    some (name.toList ++ [' ', '=', ' '] ++ shown ++ '\n' :: others)

/-- A table under its header. -/
def tableChars? (name : String) (entries : List (String × Value)) : Option (List Char) :=
  (entryLines? entries).map fun lines => '[' :: name.toList ++ [']', '\n'] ++ lines

/-- The document of tables, with an empty line between them. -/
def print? (tables : List (String × List (String × Value))) : Option String := do
  let shown ← tables.mapM fun (name, entries) => tableChars? name entries
  some (String.ofList (['\n'].intercalate shown))

end Parlor.Toml
