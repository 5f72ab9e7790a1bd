import Parlor.Config.KeyPath
import Parlor.Config.Node

/-!
# Layers of settings

Settings come from several sources, of which a later one is laid over an earlier one: groups are laid
over groups name by name, and anything else takes the place of what was there.  The names that a source
starts with are paths.
-/

namespace Parlor.Config

namespace Node

/-! ## Changes along a path -/

/-- Changes what is said about a name. -/
def changeName (name : String) (change : Node → Node) (entries : Entries) : Entries :=
  put name (change ((find? name entries).getD .nil)) entries

/--
The items of a list that has been made long enough for a place, and the place counted from the front.
A list grows at its front where the place is counted from its end.
-/
def reach (i : Int) (items : List Node) : List Node × Nat :=
  match i with
  | .ofNat n => (items ++ List.replicate (n + 1 - items.length) .nil, n)
  | .negSucc n => (List.replicate (n + 1 - items.length) .nil ++ items, items.length - (n + 1))

/-- Changes what is said at a place. -/
def changePlace (i : Int) (change : Node → Node) (items : List Node) : List Node :=
  let (items, n) := reach i items
  items.modify n change

/-- Changes what is said at the end of a path.  What is no group or list on the way becomes one. -/
def changeAt (change : Node → Node) : (path : List Step) → Node → Node
  | [], node => change node
  | .name name :: path, node => .group (changeName name (changeAt change path) node.entries)
  | .index i :: path, node => .list (changePlace i (changeAt change path) node.items)

/-! ## Laying over -/

/-- A group without names in the place of nothing. -/
def orGroup : Node → Node
  | .nil => .group []
  | node => node

mutual

/--
Lays a node over another.  A group without names leaves what was there, and one with names makes a
group of it.
-/
def layOver (base : Node) : Node → Node
  | .group entries => layEntries base.orGroup entries
  | .nil => .nil
  | .text s => .text s
  | .integer n => .integer n
  | .real x => .real x
  | .bool b => .bool b
  | .list items => .list items

/-- Lays entries over a node. -/
def layEntries (base : Node) : Entries → Node
  | [] => base
  | (name, node) :: rest =>
    layEntries (.group (changeName name (fun old => layOver old node) base.entries)) rest

end

/-- Lays what a source says over a node. -/
def laySource (base : Node) (source : Entries) : Node :=
  source.foldl (fun base (name, node) => changeAt (fun old => layOver old node) (Step.pathOf name) base) base

end Node

end Parlor.Config
