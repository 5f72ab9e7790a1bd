import Parlor.Text.Word
import Parlor.Word

/-!
# Names as paths

A name may be a path into groups and lists: a first name, then further names after points and places in
lists within brackets, as in `hosts[0].port`.  Places are counted from zero, and negative ones from the
end.
-/

namespace Parlor.Config

/-- A step into a group or into a list. -/
inductive Step where
  | name (s : String)
  | index (i : Int)
  deriving DecidableEq, Repr

namespace Step

/-- Tests for a character of a name in a path. -/
def isNameChar (c : Char) : Bool := c.isAlphanum || c = '_' || c = '-'

/-- Tests for a blank within brackets. -/
def isBlank (c : Char) : Bool := c = ' ' || c = '\t'

/-- The place that stands within brackets, with blanks around it perhaps. -/
def place? (cs : List Char) : Option Int :=
  let word := ((cs.dropWhile isBlank).reverse.dropWhile isBlank).reverse
  let digits := if word.head? = some '-' then word.drop 1 else word
  if digits.all Char.isDigit then Text.parseInt? Word.signedLow Word.signedHigh (String.ofList word)
  else none

/-- The steps that follow the first name of a path. -/
def further? : List Char → Option (List Step)
  | [] => some []
  | c :: rest =>
    if c = '.' then
      let name := rest.takeWhile isNameChar
      if name.isEmpty then none
      else (further? (rest.dropWhile isNameChar)).map (.name (String.ofList name) :: ·)
    else if c = '[' then
      if rest.contains ']' then do
        let i ← place? (rest.takeWhile (· ≠ ']'))
        (further? ((rest.dropWhile (· ≠ ']')).drop 1)).map (.index i :: ·)
      else none
    else none
  termination_by cs => cs.length
  decreasing_by
    · have := (List.dropWhile_sublist (l := rest) isNameChar).length_le
      simp only [List.length_cons]
      omega
    · have := (List.dropWhile_sublist (l := rest) (· ≠ ']')).length_le
      simp only [List.length_drop, List.length_cons]
      omega

/-- The path that a name is.  A name that has not the form of a path is its own only step. -/
def pathOf (name : String) : List Step :=
  let first := name.toList.takeWhile isNameChar
  match further? (name.toList.dropWhile isNameChar) with
  | some steps => if first.isEmpty then [.name name] else .name (String.ofList first) :: steps
  | none => [.name name]

end Step

end Parlor.Config
