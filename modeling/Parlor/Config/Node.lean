import Parlor.Decimal.Whole
import Parlor.Text.Word
import Parlor.Toml.Item
import Parlor.Word

/-!
# Nodes of settings

What a source of settings says: scalars, lists and groups of names.  A scalar that has the form of
another kind serves as that kind too.
-/

namespace Parlor.Config

open Decimal (Binary64)

/-- What a source says about a name. -/
inductive Node where
  /-- Nothing. -/
  | nil
  | text (s : String)
  | integer (n : Int)
  | real (x : Binary64)
  | bool (b : Bool)
  | list (items : List Node)
  | group (entries : List (String × Node))

namespace Node

/-! ## Groups and lists -/

/-- The names of a group with what is said about them. -/
abbrev Entries := List (String × Node)

/-- What is said about a name. -/
def find? (name : String) : Entries → Option Node
  | [] => none
  | (key, node) :: rest => if key = name then some node else find? name rest

/-- Says something about a name. -/
def put (name : String) (node : Node) : Entries → Entries
  | [] => [(name, node)]
  | (key, old) :: rest => if key = name then (name, node) :: rest else (key, old) :: put name node rest

/-- The entries of a group; anything else has none. -/
def entries : Node → Entries
  | .group entries => entries
  | _ => []

/-- The items of a list; anything else has none. -/
def items : Node → List Node
  | .list items => items
  | _ => []

/-! ## Documents -/

mutual

/-- What a document says. -/
def ofItem : Toml.Item → Node
  | .string s => .text s
  | .integer n => .integer n
  | .real x => .real x
  | .bool b => .bool b
  | .moment s => .text s
  | .array items => .list (ofItems items)
  | .table _ entries => .group (ofEntries entries)
  | .tables all => .list (ofTables all).reverse

/-- What the items of an array say. -/
def ofItems : List Toml.Item → List Node
  | [] => []
  | item :: rest => ofItem item :: ofItems rest

/-- What the entries of a table say. -/
def ofEntries : List (String × Toml.Item) → Entries
  | [] => []
  | (name, item) :: rest => (name, ofItem item) :: ofEntries rest

/-- What tables say. -/
def ofTables : List (List (String × Toml.Item)) → List Node
  | [] => []
  | entries :: rest => .group (ofEntries entries) :: ofTables rest

end

/-! ## Values of settings -/

/-- The text of a scalar. -/
def toText? : Node → Option String
  | .text s => some s
  | .integer n => some (toString n)
  | .real x => some x.plainText
  | .bool b => some (if b then "true" else "false")
  | .nil | .list _ | .group _ => none

/-- The truth value that a word means. -/
def truth? (s : String) : Option Bool :=
  let word := String.ofList (s.toList.map Char.toLower)
  if ["true", "on", "yes"].contains word then some true
  else if ["false", "off", "no"].contains word then some false
  else none

/-- The whole number between two bounds that a scalar stands for.  A fraction is rounded. -/
def toInt? (low high : Int) : Node → Option Int
  | .text s =>
    match truth? s with
    | some b => some (if b then 1 else 0)
    | none => Text.parseInt? low high s
  | .integer n => if low ≤ n ∧ n ≤ high then some n else none
  | .real x => some (x.toIntWithin low high)
  | .bool b => some (if b then 1 else 0)
  | .nil | .list _ | .group _ => none

/-- The word that a scalar stands for. -/
def toWord? (node : Node) : Option UInt64 := (node.toInt? 0 Word.unsignedHigh).map UInt64.ofInt

/-- The signed word that a scalar stands for. -/
def toSigned? (node : Node) : Option Int64 := (node.toInt? Word.signedLow Word.signedHigh).map Int64.ofInt

/-- The value of a setting that may be left open, as it is where nothing is said. -/
def orOpen? {α : Type} (read : Node → Option α) : Node → Option (Option α)
  | .nil => some none
  | node => (read node).map some

end Node

end Parlor.Config
