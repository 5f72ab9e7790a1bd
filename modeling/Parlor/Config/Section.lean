import Parlor.Config.Node

/-!
# Sections of settings

How the settings of a section are taken from a node.
-/

namespace Parlor.Config

/-- A setting of a section: its name, and how it is taken from a node. -/
structure Setting (σ : Type) where
  name : String
  read : Node → σ → Option σ

/-- A setting that is taken by `read` and stored by `store`. -/
def Setting.of {σ α : Type} (name : String) (read : Node → Option α) (store : α → σ → σ) : Setting σ :=
  ⟨name, fun node s => (read node).map fun a => store a s⟩

/--
Reads a section, given by names or as a list of its settings in their order.  What is not given stays
as it is, and names without a meaning are skipped.
-/
def readSection {σ : Type} (fields : List (Setting σ)) (start : σ) : Node → Option σ
  | .group entries =>
    fields.foldlM (fun s field => ((Node.find? field.name entries).map fun n => field.read n s).getD (some s))
      start
  | .list items => (fields.zip items).foldlM (fun s (field, node) => field.read node s) start
  | _ => none

end Parlor.Config
