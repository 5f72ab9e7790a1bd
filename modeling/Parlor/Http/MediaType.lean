import Parlor.Text.Split

/-!
# Media types

The declared type of a body: a type and a subtype, and parameters that only have to be well formed.
A subtype may end in a suffix that names the format it is built on.
-/

namespace Parlor.Http

/-- A media type in lower case, without its parameters. -/
structure MediaType where
  type : String
  subtype : String
  suffix : Option String
  deriving DecidableEq, Repr

namespace MediaType

/-- Tests for a character of a name. -/
def isNameChar (c : Char) : Bool :=
  c.isAlphanum || "!#$%&'*+-.^_".contains c || c.toNat = 0x60 || c = '|' || c = '~'

/-- Tests for a name. -/
def isName (cs : List Char) : Bool := !cs.isEmpty && cs.all isNameChar

/-- Tests for a character that may stand in quotes. -/
def isQuotedChar (c : Char) : Bool := 0x20 ≤ c.toNat && c.toNat ≠ 0x7f

/--
What follows a value in quotes, given what follows the opening quote.  A value is not empty, and so a
quote that comes first belongs to it.
-/
def afterQuoted? : List Char → Option (List Char)
  | first :: more =>
    match more.dropWhile (· ≠ '"') with
    | _ :: rest =>
      if (first :: more.takeWhile (· ≠ '"')).all isQuotedChar then
        match rest.dropWhile (· = ' ') with
        | [] => some []
        | ';' :: rest => some rest
        | _ => none
      else none
    | [] => none
  | [] => none

/-- Tests for well formed parameters, of which each is at least one character long. -/
def areParameters : (fuel : Nat) → List Char → Bool
  | _, [] => true
  | 0, _ => false
  | fuel + 1, cs =>
    let cs := cs.dropWhile (· = ' ')
    if cs.isEmpty then true
    else
      let (name, value) := Text.cut '=' cs
      isName name &&
        match value with
        | '"' :: quoted =>
          match afterQuoted? quoted with
          | some rest => areParameters fuel rest
          | none => false
        | value =>
          if value.isEmpty then cs.contains '='
          else
            let (word, rest) := Text.cut ';' value
            isName word && areParameters fuel rest

/-- The part before the last plus sign and the part after it, unless the sign comes first. -/
def splitSuffix (cs : List Char) : List Char × Option (List Char) :=
  let after := (cs.reverse.takeWhile (· ≠ '+')).reverse
  let before := cs.take (cs.length - after.length - 1)
  if cs.contains '+' && !before.isEmpty then (before, some after) else (cs, none)

/-- Reads a media type. -/
def ofText? (s : String) : Option MediaType :=
  let (type, rest) := Text.cut '/' s.toList
  let (subtype, parameters) := Text.cut ';' rest
  if isName type && isName subtype && areParameters parameters.length parameters then
    let lower (cs : List Char) := String.ofList (cs.map Char.toLower)
    let (before, suffix) := splitSuffix subtype
    some { type := lower type, subtype := lower before, suffix := suffix.map lower }
  else none

/-- Tests for JSON, or a format that is built on it. -/
def isJson (m : MediaType) : Bool :=
  m.type == "application" && (m.subtype == "json" || m.suffix == some "json")

end MediaType

end Parlor.Http
