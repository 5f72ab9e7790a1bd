import Parlor.Environment
import Parlor.Text.NameChar

/-!
# Expansion of paths

Variables in a path are replaced by their values, and a tilde in front by the home directory.  What
has been put in is not expanded again.
-/

namespace Parlor.Path

/-- A piece of a path. -/
inductive Piece where
  | plain (c : Char)
  /-- A variable, and what stands for it where it has no value. -/
  | reference (name : List Char) (fallback : Option (List Char))
  deriving DecidableEq, Repr

/--
Splits what stands between the braces of a variable at the first mark of a fallback.  A mark without a
name before it is part of a name.
-/
def splitFallback : List Char → List Char × Option (List Char)
  | [] => ([], none)
  | c :: rest =>
    let rec go : List Char → List Char × Option (List Char)
      | ':' :: '-' :: fallback => ([], some fallback)
      | c :: rest => ((c :: (go rest).1), (go rest).2)
      | [] => ([], none)
    if c = ':' && rest.head? = some '-' then (c :: rest, none)
    else ((c :: (go rest).1), (go rest).2)

/-- What a text starts with. -/
structure Step where
  pieces : List Piece
  rest : List Char

/-- Reads what follows a dollar sign, which stands for itself where no variable follows. -/
def afterDollar : List Char → Step
  | '$' :: rest => ⟨[.plain '$'], rest⟩
  | '\x7b' :: rest =>
    if rest.contains '\x7d' then
      let (name, fallback) := splitFallback (rest.takeWhile (· ≠ '\x7d'))
      ⟨[.reference name fallback], (rest.dropWhile (· ≠ '\x7d')).drop 1⟩
    else ⟨[.plain '$', .plain '\x7b'], rest⟩
  | c :: rest =>
    if Text.isNameChar c then
      ⟨[.reference (c :: rest.takeWhile Text.isNameChar) none], rest.dropWhile Text.isNameChar⟩
    else ⟨[.plain '$'], c :: rest⟩
  | [] => ⟨[.plain '$'], []⟩

theorem length_dropWhile_le {α : Type} (p : α → Bool) (l : List α) :
    (l.dropWhile p).length ≤ l.length := (List.dropWhile_sublist p).length_le

theorem length_afterDollar_le (cs : List Char) : (afterDollar cs).rest.length ≤ cs.length := by
  unfold afterDollar
  split
  · simp
  · split
    · have := length_dropWhile_le (· ≠ '\x7d') (by assumption)
      simp only [List.length_drop, List.length_cons]
      omega
    · simp
  · split
    · have := length_dropWhile_le Text.isNameChar (by assumption)
      simp only [List.length_cons]
      omega
    · simp
  · simp

/-- The pieces of a path. -/
def pieces : List Char → List Piece
  | [] => []
  | c :: rest =>
    if c = '$' then
      (afterDollar rest).pieces ++ pieces (afterDollar rest).rest
    else .plain c :: pieces rest
  termination_by cs => cs.length
  decreasing_by
    · have := length_afterDollar_le rest
      simp only [List.length_cons]
      omega
    · simp

/-- What a piece stands for; a variable without a value or a fallback stands for nothing. -/
def Piece.text? (env : Environment) : Piece → Option (List Char)
  | .plain c => some [c]
  | .reference name fallback => ((env.value? (String.ofList name)).map String.toList).or fallback

/-- The text of pieces, if each stands for something. -/
def fill? (env : Environment) : List Piece → Option (List Char)
  | [] => some []
  | piece :: rest => do
    let text ← piece.text? env
    let others ← fill? env rest
    some (text ++ others)

/-- The home directory, which is that of the account where no other is given. -/
def home? (env : Environment) : Option String := (env.filled? "HOME").or env.accountHome

/--
Puts the home directory in the place of a tilde that is a component of its own.  The tilde stays where
there is no home.
-/
def expandTilde (env : Environment) (cs : List Char) : List Char :=
  match cs, home? env with
  | ['~'], some home => home.toList
  | '~' :: '/' :: rest, some home => home.toList ++ '/' :: rest
  | cs, _ => cs

/--
Expands a path.  A tilde that came from a variable stays, and so the whole fails only where a variable
has no value and no fallback.
-/
def expand? (env : Environment) (path : String) : Option String := do
  let filled ← fill? env (pieces path.toList)
  some (String.ofList (if path.toList.head? = some '~' then expandTilde env filled else filled))

end Parlor.Path
