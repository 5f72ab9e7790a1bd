import Parlor.Table

/-!
# Registries

Who is where: a registry maps a scope and a member to a value.  It is kept as a table of tables, and
a scope that has lost its last member is dropped.
-/

namespace Parlor

/-- Scopes, their members, and a value for each member. -/
structure Registry (σ μ ν : Type) where
  scopes : Table σ (Table μ ν) := []

namespace Registry

variable {σ μ ν : Type} [DecidableEq σ] [DecidableEq μ]

/-- The registry without members. -/
def empty : Registry σ μ ν := {}

/-- The members of a scope with their values. -/
def membersOf (r : Registry σ μ ν) (scope : σ) : Table μ ν := (r.scopes.get? scope).getD []

/-- The value of a member. -/
def get? (r : Registry σ μ ν) (scope : σ) (member : μ) : Option ν := (r.membersOf scope).get? member

/-- Tests for a member of a scope. -/
def contains (r : Registry σ μ ν) (scope : σ) (member : μ) : Bool := (r.get? scope member).isSome

/-- Tests for a scope with members. -/
def containsScope (r : Registry σ μ ν) (scope : σ) : Bool := r.scopes.has scope

/-- The number of members of a scope. -/
def scopeSize (r : Registry σ μ ν) (scope : σ) : Nat := (r.membersOf scope).length

/-- The number of scopes. -/
def size (r : Registry σ μ ν) : Nat := r.scopes.length

/-- The number of members of all scopes. -/
def memberCount (r : Registry σ μ ν) : Nat := r.scopes.foldl (fun n s => n + s.2.length) 0

/-- Tests for a registry without members. -/
def isEmpty (r : Registry σ μ ν) : Bool := r.scopes.isEmpty

/-- The members of a scope. -/
def members (r : Registry σ μ ν) (scope : σ) : List μ := (r.membersOf scope).keys

/-- The values of the members of a scope. -/
def snapshot (r : Registry σ μ ν) (scope : σ) : List ν := (r.membersOf scope).values

/-- Hands the members of a scope with their values to a function, one after the other. -/
def visit {α : Type} (r : Registry σ μ ν) (scope : σ) (f : α → μ → ν → α) (a : α) : α :=
  (r.membersOf scope).foldl (fun a (member, value) => f a member value) a

/-- All scopes. -/
def scopeList (r : Registry σ μ ν) : List σ := r.scopes.keys

/-- All scopes, members and values. -/
def entries (r : Registry σ μ ν) : List (σ × μ × ν) :=
  r.scopes.flatMap fun (scope, members) => members.map fun (member, value) => (scope, member, value)

/-- Replaces the members of a scope, dropping a scope without members. -/
def setMembers (r : Registry σ μ ν) (scope : σ) (members : Table μ ν) : Registry σ μ ν :=
  if members.isEmpty then ⟨r.scopes.erase scope⟩ else ⟨r.scopes.insert scope members⟩

/-- Gives a member a value, in place of the one it has. -/
def register (r : Registry σ μ ν) (scope : σ) (member : μ) (value : ν) : Registry σ μ ν :=
  ⟨r.scopes.insert scope ((r.membersOf scope).insert member value)⟩

/-- Gives a member a value, and hands back the one that it had. -/
def exchange (r : Registry σ μ ν) (scope : σ) (member : μ) (value : ν) : Registry σ μ ν × Option ν :=
  (r.register scope member value, r.get? scope member)

/-- Takes a member out, if its value satisfies a condition. -/
def unregisterIf (r : Registry σ μ ν) (scope : σ) (member : μ) (condition : ν → Bool) :
    Registry σ μ ν × Option ν :=
  match r.get? scope member with
  | some value =>
    if condition value then
      (r.setMembers scope ((r.membersOf scope).erase member), some value)
    else (r, none)
  | none => (r, none)

/-- Takes a member out. -/
def unregister (r : Registry σ μ ν) (scope : σ) (member : μ) : Registry σ μ ν × Option ν :=
  r.unregisterIf scope member fun _ => true

/-- Takes a whole scope out. -/
def removeScope (r : Registry σ μ ν) (scope : σ) : Registry σ μ ν × Option (Table μ ν) :=
  (⟨r.scopes.erase scope⟩, r.scopes.get? scope)

/-- Takes everything out. -/
def drain (r : Registry σ μ ν) : Registry σ μ ν × List (σ × μ × ν) := (empty, r.entries)

end Registry

end Parlor
