import Parlor.Text.Quoted
import Parlor.Text.Split

/-!
# Paths

A path is a text of components with slashes between them.  Empty components, and those of a single
point, mean nothing unless they are the first.
-/

namespace Parlor.Path

/-- Tests for a path that starts at the root. -/
def isAbsolute (path : String) : Bool := path.toList.head? = some '/'

/-- Puts a path behind another one; one that starts at the root stands for itself. -/
def join (base path : String) : String :=
  if isAbsolute path || base.isEmpty then path
  else if base.toList.getLast? = some '/' then base ++ path
  else base ++ "/" ++ path

/-- Tests for a component that means nothing. -/
def isIdle (part : List Char) : Bool := part.isEmpty || part = ['.']

/-- Drops the idle components, given from the last one on. -/
def trimIdle (parts : List (List Char)) : List (List Char) := parts.dropWhile isIdle

/-- The text of components that are given from the last one on. -/
def ofReversed (parts : List (List Char)) : String :=
  String.ofList (['/'].intercalate parts.reverse)

/-- The path without its last component; the root and the empty path have none. -/
def parent? (path : String) : Option String :=
  let parts := (Text.split '/' path.toList).reverse
  if isAbsolute path then
    match trimIdle parts with
    | [] => none
    | _ :: rest =>
      match trimIdle rest with
      | [] => some "/"
      | rest => some (ofReversed rest)
  else
    match trimIdle parts with
    | [] => if path.isEmpty then none else some ""
    | _ :: rest =>
      match trimIdle rest with
      | [] => if rest.getLast? = some ['.'] then some "." else some ""
      | rest => some (ofReversed rest)

/-- The path with an ending put behind its last component; the root and steps upwards take none. -/
def withEnding? (ending path : String) : Option String :=
  match trimIdle (Text.split '/' path.toList).reverse with
  | [] => none
  | last :: rest =>
    if last = ['.', '.'] then none else some (ofReversed ((last ++ ending.toList) :: rest))

/-- A path between quotes; single quotes have an escape of their own. -/
def quoted (path : String) : String :=
  let shown := path.toList.flatMap fun c => if c = '\'' then ['\\', '\''] else Text.quoteChar c
  String.ofList ('"' :: shown ++ ['"'])

end Parlor.Path
