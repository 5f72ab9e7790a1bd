/-!
# Splitting

Cuts a list at every separator.
-/

namespace Parlor.Text

/-- The parts between the separators, of which there is one more than separators. -/
def split {α : Type} [DecidableEq α] (separator : α) : List α → List (List α)
  | [] => [[]]
  | a :: rest =>
    if a = separator then [] :: split separator rest
    else
      match split separator rest with
      | [] => [[a]]
      | part :: parts => (a :: part) :: parts

/-- The parts of a text between the separators. -/
def splitText (separator : Char) (s : String) : List String :=
  (split separator s.toList).map String.ofList

/-- What comes before the first separator, and what comes after it, which is empty without one. -/
def cut {α : Type} [DecidableEq α] (separator : α) (l : List α) : List α × List α :=
  (l.takeWhile (· ≠ separator), (l.dropWhile (· ≠ separator)).drop 1)

end Parlor.Text
