import Parlor.Toml.Scalar

/-!
# Reading TOML

A document is read line by line: headers, and names with their values.  Values within brackets and
braces nest up to a fixed depth.  What is not a document has no value.
-/

namespace Parlor.Toml

/-! ## Blanks and comments -/

/-- Tests for a blank within a line. -/
def isBlank (c : Char) : Bool := c = ' ' || c = '\t'

/-- Drops the blanks in front. -/
def skipBlanks (cs : List Char) : List Char := cs.dropWhile isBlank

/-- Tests for a character that may stand in comments and strings. -/
def isPlain (c : Char) : Bool := c = '\t' || (0x20 ≤ c.toNat && c.toNat ≠ 0x7f)

/-- What follows the end of a line. -/
def afterNewline? : List Char → Option (List Char)
  | '\n' :: rest => some rest
  | '\r' :: '\n' :: rest => some rest
  | _ => none

/-- Drops a comment. -/
def skipComment : List Char → List Char
  | '#' :: rest => rest.dropWhile isPlain
  | cs => cs

/-- What follows a line of which nothing but blanks and a comment is left. -/
def finishLine? (cs : List Char) : Option (List Char) :=
  match skipComment (skipBlanks cs) with
  | [] => some []
  | rest => afterNewline? rest

/-- Drops blanks, comments and ends of lines, at most `fuel` lines. -/
def skipGap : (fuel : Nat) → List Char → List Char
  | 0, cs => cs
  | fuel + 1, cs =>
    let rest := skipComment (skipBlanks cs)
    match afterNewline? rest with
    | some next => skipGap fuel next
    | none => rest

/-! ## Strings -/

/-- The character that hexadecimal digits name. -/
def namedChar? (digits : List Char) (rest : List Char) : Option (Char × List Char) :=
  if digits.all fun c => (hexDigit? c).isSome then
    let n := ofDigits 16 digits
    if n.isValidChar then some (Char.ofNat n, rest) else none
  else none

/-- Reads an escape after its backslash. -/
def readEscape : List Char → Option (Char × List Char)
  | 'b' :: rest => some ('\x08', rest)
  | 't' :: rest => some ('\t', rest)
  | 'n' :: rest => some ('\n', rest)
  | 'f' :: rest => some ('\x0c', rest)
  | 'e' :: rest => some ('\x1b', rest)
  | 'r' :: rest => some ('\r', rest)
  | '"' :: rest => some ('"', rest)
  | '\\' :: rest => some ('\\', rest)
  | 'x' :: a :: b :: rest => namedChar? [a, b] rest
  | 'u' :: a :: b :: c :: d :: rest => namedChar? [a, b, c, d] rest
  | 'U' :: a :: b :: c :: d :: e :: f :: g :: h :: rest => namedChar? [a, b, c, d, e, f, g, h] rest
  | _ => none

/-- Puts a character in front of what has been read. -/
def consRead (c : Char) (r : Option (List Char × List Char)) : Option (List Char × List Char) :=
  r.map fun (s, rest) => (c :: s, rest)

/-- Reads a string on one line after its opening quote; `fuel` is the length of the text. -/
def readBasic : (fuel : Nat) → List Char → Option (List Char × List Char)
  | 0, _ => none
  | _ + 1, '"' :: rest => some ([], rest)
  | fuel + 1, '\\' :: rest => do
    let (c, rest) ← readEscape rest
    consRead c (readBasic fuel rest)
  | fuel + 1, c :: rest => if isPlain c then consRead c (readBasic fuel rest) else none
  | _ + 1, [] => none

/-- Reads a string without escapes on one line after its opening quote. -/
def readLiteral (cs : List Char) : Option (List Char × List Char) :=
  match cs.dropWhile fun c => isPlain c && c ≠ '\'' with
  | '\'' :: rest => some (cs.takeWhile fun c => isPlain c && c ≠ '\'', rest)
  | _ => none

/-- Drops the end of a line in front. -/
def dropNewline (cs : List Char) : List Char := (afterNewline? cs).getD cs

/-- Drops blanks and ends of lines. -/
def skipLines : (fuel : Nat) → List Char → List Char
  | 0, cs => cs
  | fuel + 1, cs =>
    let rest := skipBlanks cs
    match afterNewline? rest with
    | some next => skipLines fuel next
    | none => rest

/--
Reads a string on several lines up to three closing quotes.  Up to two more quotes before them belong
to the string, and so do the ends of its lines as they are.  With escapes, a backslash at the end of a
line joins the lines.
-/
def readLong (quote : Char) (hasEscapes : Bool) : (fuel : Nat) → List Char → Option (List Char × List Char)
  | 0, _ => none
  | _ + 1, [] => none
  | fuel + 1, c :: rest =>
    if c = quote then
      let run := (c :: rest).takeWhile (· = quote)
      let after := (c :: rest).dropWhile (· = quote)
      if run.length < 3 then (readLong quote hasEscapes fuel after).map fun (s, rest) => (run ++ s, rest)
      else if run.length ≤ 5 then some (run.drop 3, after)
      else none
    else if c = '\\' && hasEscapes then
      match afterNewline? (skipBlanks rest) with
      | some next => readLong quote hasEscapes fuel (skipLines next.length next)
      | none => do
        let (e, rest) ← readEscape rest
        consRead e (readLong quote hasEscapes fuel rest)
    else if isPlain c || (afterNewline? (c :: rest)).isSome then
      consRead c (readLong quote hasEscapes fuel rest)
    else none

/-- The item of a string that has been read. -/
def stringItem (r : Option (List Char × List Char)) : Option (Item × List Char) :=
  r.map fun (s, rest) => (.string (String.ofList s), rest)

/-! ## Names -/

/-- Tests for a character of a name without quotes. -/
def isNameChar (c : Char) : Bool := c.isAlphanum || c = '_' || c = '-'

/-- Reads a name. -/
def readName (cs : List Char) : Option (String × List Char) :=
  match cs with
  | '"' :: rest => (readBasic rest.length rest).map fun (s, rest) => (String.ofList s, rest)
  | '\'' :: rest => (readLiteral rest).map fun (s, rest) => (String.ofList s, rest)
  | cs =>
    let name := cs.takeWhile isNameChar
    if name.isEmpty then none else some (String.ofList name, cs.dropWhile isNameChar)

/-- Reads names with points between them: the last one, and those before it. -/
def readPath : (fuel : Nat) → List Char → Option ((List String × String) × List Char)
  | 0, _ => none
  | fuel + 1, cs => do
    let (name, rest) ← readName (skipBlanks cs)
    match skipBlanks rest with
    | '.' :: rest => do
      let ((path, last), rest) ← readPath fuel rest
      some ((name :: path, last), rest)
    | rest => some (([], name), rest)

/-- The number of names that points may join. -/
def maxNames : Nat := 80

/-- Reads a key: not too many names with points between them. -/
def readKey (cs : List Char) : Option ((List String × String) × List Char) := do
  let ((path, name), rest) ← readPath cs.length cs
  if path.length < maxNames then some ((path, name), rest) else none

/-! ## Values -/

/-- The number of brackets and braces that may be nested. -/
def maxDepth : Nat := 80

/-- Reads a value that is neither in brackets nor in braces. -/
def readScalar (cs : List Char) : Option (Item × List Char) :=
  match cs with
  | '"' :: '"' :: '"' :: rest => stringItem (readLong '"' true (rest.length + 1) (dropNewline rest))
  | '\'' :: '\'' :: '\'' :: rest => stringItem (readLong '\'' false (rest.length + 1) (dropNewline rest))
  | '"' :: rest => stringItem (readBasic (rest.length + 1) rest)
  | '\'' :: rest => stringItem (readLiteral rest)
  | cs => readPlain cs

/-- Reads the items of an array after its opening bracket or a comma. -/
def readItems (read : List Char → Option (Item × List Char)) : (fuel : Nat) → List Char →
    Option (List Item × List Char)
  | 0, _ => none
  | fuel + 1, cs =>
    match skipGap cs.length cs with
    | ']' :: rest => some ([], rest)
    | cs => do
      let (item, rest) ← read cs
      match skipGap rest.length rest with
      | ',' :: rest => do
        let (items, rest) ← readItems read fuel rest
        some (item :: items, rest)
      | ']' :: rest => some ([item], rest)
      | _ => none

/-- Reads a key and the value after the equals sign, around which `skip` drops what says nothing. -/
def readEntry (skip : List Char → List Char) (read : List Char → Option (Item × List Char))
    (cs : List Char) : Option ((List String × String × Item) × List Char) := do
  let ((path, name), rest) ← readKey cs
  match skip rest with
  | '=' :: rest => do
    let (item, rest) ← read (skip rest)
    some ((path, name, item), rest)
  | _ => none

/-- Reads the entries of a table after its opening brace or a comma. -/
def readInline (read : List Char → Option (Item × List Char)) : (fuel : Nat) → Entries → List Char →
    Option (Entries × List Char)
  | 0, _, _ => none
  | fuel + 1, entries, cs =>
    match skipGap cs.length cs with
    | '\x7d' :: rest => some (entries, rest)
    | cs => do
      let ((path, name, item), rest) ← readEntry (fun cs => skipGap cs.length cs) read cs
      let entries ← entries.giveAt path name item
      match skipGap rest.length rest with
      | ',' :: rest => readInline read fuel entries rest
      | '\x7d' :: rest => some (entries, rest)
      | _ => none

/-- Reads a value in which brackets and braces nest at most `depth` deep. -/
def readItem : (depth : Nat) → List Char → Option (Item × List Char)
  | depth + 1, '[' :: rest => do
    let (items, rest) ← readItems (readItem depth) (rest.length + 1) rest
    some (.array items, rest)
  | depth + 1, '\x7b' :: rest => do
    let (entries, rest) ← readInline (readItem depth) (rest.length + 1) [] rest
    some (.table .inline entries, rest)
  | _, cs => readScalar cs

/-! ## Documents -/

/-- Reads a header after its opening brackets, up to its closing brackets. -/
def readHeader (closing : List Char) (cs : List Char) : Option ((List String × String) × List Char) := do
  let (path, rest) ← readKey cs
  if closing.isPrefixOf rest then some (path, rest.drop closing.length) else none

/-- Reads a line that is not empty. -/
def readLine (cs : List Char) : Option (Line × List Char) :=
  match cs with
  | '[' :: '[' :: rest =>
    (readHeader [']', ']'] rest).map fun ((path, name), rest) => (.repeated path name, rest)
  | '[' :: rest => (readHeader [']'] rest).map fun ((path, name), rest) => (.header path name, rest)
  | cs =>
    (readEntry skipBlanks (readItem maxDepth) cs).map fun ((path, name, item), rest) =>
      (.entry path name item, rest)

/-- Reads all lines, of which there are less than `fuel`. -/
def readLines : (fuel : Nat) → Draft → List Char → Option Draft
  | 0, _, _ => none
  | fuel + 1, draft, cs =>
    match skipGap cs.length cs with
    | [] => some draft
    | cs => do
      let (line, rest) ← readLine cs
      let draft ← draft.add line
      readLines fuel draft (← finishLine? rest)

/-- The mark that may stand before a document. -/
def byteOrderMark : Char := '\ufeff'

/-- Reads a document. -/
def read (text : String) : Option Entries :=
  let cs := match text.toList with
    | c :: rest => if c = byteOrderMark then rest else c :: rest
    | [] => []
  (readLines (cs.length + 1) {} cs).map (·.entries)

end Parlor.Toml
