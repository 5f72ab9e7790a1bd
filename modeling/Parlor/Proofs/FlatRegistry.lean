import Mathlib.Data.Set.Card
import Parlor.Proofs.Registry

/-!
# A registry as one map

A registry is a table of tables, but it behaves as one map from scopes and members together to values. After
any operations it answers every question as the map does that has undergone the same operations, and each
operation hands back what the map held. There is no scope without members: the scopes are those of the keys
of the map.
-/

namespace Parlor

/-! ## Tables that list a map -/

namespace Table

variable {κ ν : Type}

/-- A table lists a map: it has an entry for every key with a value, and each key once. -/
structure Lists (t : Table κ ν) (map : κ → Option ν) : Prop where
  distinct : t.keys.Nodup
  mem_iff : ∀ key value, (key, value) ∈ t ↔ map key = some value

/-- What a list holds, each element once, is as many as the list is long. -/
theorem ncard_eq_length {α : Type} {l : List α} (h : l.Nodup) {p : α → Prop} (hmem : ∀ a, a ∈ l ↔ p a) :
    {a | p a}.ncard = l.length := by
  classical
  have hset : {a | p a} = (l.toFinset : Set α) := by
    ext a
    rw [List.coe_toFinset, Set.mem_ofPred_eq, Set.mem_ofPred_eq, hmem]
  rw [hset, Set.ncard_coe_finset, List.toFinset_card_of_nodup h]

/-- The keys of a table that lists a map are those with a value. -/
theorem Lists.mem_keys_iff {t : Table κ ν} {map : κ → Option ν} (h : t.Lists map) (key : κ) :
    key ∈ t.keys ↔ (map key).isSome = true := by
  rw [Option.isSome_iff_exists, keys, List.mem_map]
  constructor
  · rintro ⟨⟨k, value⟩, hmem, rfl⟩
    exact ⟨value, (h.mem_iff _ _).mp hmem⟩
  · rintro ⟨value, hvalue⟩
    exact ⟨(key, value), (h.mem_iff _ _).mpr hvalue, rfl⟩

/-- A table that lists a map has as many entries as there are keys with a value. -/
theorem Lists.length_eq {t : Table κ ν} {map : κ → Option ν} (h : t.Lists map) :
    t.length = {key | (map key).isSome = true}.ncard := by
  exact ((ncard_eq_length h.distinct h.mem_keys_iff).trans (List.length_map _)).symm

/-- A table with each key once lists its own look-up. -/
theorem lists_get? [DecidableEq κ] {t : Table κ ν} (h : t.keys.Nodup) : t.Lists t.get? :=
  ⟨h, fun _ _ => ⟨get?_of_mem h, mem_of_get?⟩⟩

end Table

namespace Registry

variable {σ μ ν : Type}

/-! ## Operations -/

/-- What can be done to a registry. -/
inductive Op (σ μ ν : Type) where
  | register (scope : σ) (member : μ) (value : ν)
  | unregister (scope : σ) (member : μ)
  | unregisterIf (scope : σ) (member : μ) (condition : ν → Bool)
  | removeScope (scope : σ)
  | drain

/-- What an operation hands back. -/
inductive Returned (σ μ ν : Type) where
  | value (former : Option ν)
  | members (taken : Option (Table μ ν))
  | entries (taken : List (σ × μ × ν))

/-- An operation on a registry, with what it hands back. -/
def apply [DecidableEq σ] [DecidableEq μ] (r : Registry σ μ ν) : Op σ μ ν → Registry σ μ ν × Returned σ μ ν
  | .register scope member value => (r.exchange scope member value).map id .value
  | .unregister scope member => (r.unregister scope member).map id .value
  | .unregisterIf scope member condition => (r.unregisterIf scope member condition).map id .value
  | .removeScope scope => (r.removeScope scope).map id .members
  | .drain => r.drain.map id .entries

/-- Several operations, one after the other. -/
def run [DecidableEq σ] [DecidableEq μ] (r : Registry σ μ ν) (ops : List (Op σ μ ν)) : Registry σ μ ν :=
  ops.foldl (fun r op => (r.apply op).1) r

/-- Scopes, members and values, with scopes and members together as keys. -/
def flatten (entries : List (σ × μ × ν)) : Table (σ × μ) ν :=
  entries.map fun (scope, member, value) => ((scope, member), value)

/-- One map from scopes and members together to values. -/
abbrev FlatMap (σ μ ν : Type) := σ × μ → Option ν

namespace FlatMap

/-- The map without values. -/
def empty : FlatMap σ μ ν := fun _ => none

/-- An operation on the map. -/
def apply [DecidableEq σ] [DecidableEq μ] (m : FlatMap σ μ ν) : Op σ μ ν → FlatMap σ μ ν
  | .register scope member value => Function.update m (scope, member) (some value)
  | .unregister scope member => Function.update m (scope, member) none
  | .unregisterIf scope member condition =>
    if (m (scope, member)).any condition then Function.update m (scope, member) none else m
  | .removeScope scope => fun key => if key.1 = scope then none else m key
  | .drain => empty

/-- Several operations, one after the other. -/
def run [DecidableEq σ] [DecidableEq μ] (m : FlatMap σ μ ν) (ops : List (Op σ μ ν)) : FlatMap σ μ ν :=
  ops.foldl apply m

/-- The members of a scope. -/
def inScope (m : FlatMap σ μ ν) (scope : σ) : μ → Option ν := fun member => m (scope, member)

/-- A scope has at least one member. -/
def Inhabited (m : FlatMap σ μ ν) (scope : σ) : Prop := ∃ member, (m (scope, member)).isSome = true

/-- What an operation has to hand back: what the map held. -/
def Held (m : FlatMap σ μ ν) : Op σ μ ν → Returned σ μ ν → Prop
  | .register scope member _, .value former => former = m (scope, member)
  | .unregister scope member, .value former => former = m (scope, member)
  | .unregisterIf scope member condition, .value former => former = (m (scope, member)).filter condition
  | .removeScope scope, .members none => ¬ m.Inhabited scope
  | .removeScope scope, .members (some taken) => m.Inhabited scope ∧ taken.Lists (m.inScope scope)
  | .drain, .entries taken => (flatten taken).Lists m
  | _, _ => False

end FlatMap

/-- A registry answers every question as a map does. -/
structure Answers [DecidableEq σ] [DecidableEq μ] (r : Registry σ μ ν) (m : FlatMap σ μ ν) : Prop where
  get? : ∀ scope member, r.get? scope member = m (scope, member)
  contains : ∀ scope member, r.contains scope member = (m (scope, member)).isSome
  containsScope : ∀ scope, r.containsScope scope = true ↔ m.Inhabited scope
  scopeSize : ∀ scope, r.scopeSize scope = {member | (m (scope, member)).isSome = true}.ncard
  members : ∀ scope, (r.members scope).Nodup ∧
    ∀ member, member ∈ r.members scope ↔ (m (scope, member)).isSome = true
  snapshot : ∀ scope, ∃ t : Table μ ν, t.Lists (m.inScope scope) ∧ r.snapshot scope = t.values
  visit : ∀ scope, ∃ t : Table μ ν, t.Lists (m.inScope scope) ∧
    ∀ (α : Type) (f : α → μ → ν → α) (a : α), r.visit scope f a = t.foldl (fun a entry => f a entry.1 entry.2) a
  entries : (flatten r.entries).Lists m
  scopeList : r.scopeList.Nodup ∧ ∀ scope, scope ∈ r.scopeList ↔ m.Inhabited scope
  size : r.size = {scope | m.Inhabited scope}.ncard
  memberCount : r.memberCount = {key | (m key).isSome = true}.ncard
  isEmpty : r.isEmpty = true ↔ ∀ key, m key = none

/-! ## One operation -/

section Operations

variable [DecidableEq σ] [DecidableEq μ] {r : Registry σ μ ν} {m : FlatMap σ μ ν}

/-- A registry is neat and has the values of a map. -/
structure Mirrors (r : Registry σ μ ν) (m : FlatMap σ μ ν) : Prop where
  neat : r.Neat
  get? : ∀ scope member, r.get? scope member = m (scope, member)

/-- Without members there are no values. -/
theorem mirrors_empty : (empty : Registry σ μ ν).Mirrors FlatMap.empty := ⟨neat_empty, fun _ _ => rfl⟩

/-- Registering gives the key its value. -/
theorem Mirrors.register (h : r.Mirrors m) (scope : σ) (member : μ) (value : ν) :
    (r.register scope member value).Mirrors (Function.update m (scope, member) (some value)) := by
  refine ⟨h.neat.register scope member value, fun other name => ?_⟩
  simp only [get?_register, h.get?, Function.update_apply, Prod.mk.injEq]

/-- Taking an entry out takes the value from its key. -/
theorem Mirrors.setMembers_erase (h : r.Mirrors m) (scope : σ) (member : μ) :
    (r.setMembers scope ((r.membersOf scope).erase member)).Mirrors (Function.update m (scope, member) none) := by
  refine ⟨h.neat.setMembers_erase scope member, fun other name => ?_⟩
  simp only [get?_setMembers_erase, h.get?, Function.update_apply, Prod.mk.injEq]

/-- Taking a member out under a condition takes its value if the value satisfies the condition, and hands that back. -/
theorem Mirrors.unregisterIf (h : r.Mirrors m) (scope : σ) (member : μ) (condition : ν → Bool) :
    (r.unregisterIf scope member condition).1.Mirrors
        (if (m (scope, member)).any condition then Function.update m (scope, member) none else m) ∧
      (r.unregisterIf scope member condition).2 = (m (scope, member)).filter condition := by
  have hheld := h.get? scope member
  rcases r.unregisterIf_cases scope member condition with ⟨value, hvalue, hcondition, hout⟩ | ⟨hrefused, hout⟩
  · rw [hout, ← hheld, hvalue, Option.any_some, if_pos hcondition, Option.filter_some_pos hcondition]
    exact ⟨h.setMembers_erase scope member, rfl⟩
  · rw [hout, ← hheld]
    cases hvalue : r.get? scope member with
    | none => exact ⟨h, rfl⟩
    | some value =>
      have hcondition := hrefused value hvalue
      simp only [Option.any_some, Option.filter_some, hcondition]
      exact ⟨h, rfl⟩

/-- Taking a member out takes the value from its key, and hands it back. -/
theorem Mirrors.unregister (h : r.Mirrors m) (scope : σ) (member : μ) :
    (r.unregister scope member).1.Mirrors (Function.update m (scope, member) none) ∧
      (r.unregister scope member).2 = m (scope, member) := by
  obtain ⟨hmirrors, hreturned⟩ := h.unregisterIf scope member fun _ => true
  cases hheld : m (scope, member) with
  | none =>
    rw [hheld] at hmirrors hreturned
    rw [← hheld, Function.update_eq_self, hheld]
    exact ⟨hmirrors, hreturned⟩
  | some value =>
    rw [hheld] at hmirrors hreturned
    exact ⟨hmirrors, hreturned⟩

/-- The members of a scope are listed with their values. -/
theorem Mirrors.membersOf (h : r.Mirrors m) (scope : σ) : (r.membersOf scope).Lists (m.inScope scope) := by
  have hmap : m.inScope scope = (r.membersOf scope).get? := funext fun member => (h.get? scope member).symm
  exact hmap ▸ Table.lists_get? (h.neat.distinct scope)

/-- A scope is there exactly if it has a member. -/
theorem Mirrors.containsScope_iff (h : r.Mirrors m) (scope : σ) : r.containsScope scope = true ↔ m.Inhabited scope := by
  simp only [h.neat.containsScope_iff, FlatMap.Inhabited, contains, h.get?]

/-- Taking a scope out takes the values from all its keys. -/
theorem Mirrors.removeScope (h : r.Mirrors m) (scope : σ) :
    (r.removeScope scope).1.Mirrors fun key => if key.1 = scope then none else m key := by
  have hmembers (other : σ) : (r.removeScope scope).1.membersOf other =
      if other = scope then [] else r.membersOf other := by
    rw [Registry.membersOf, Registry.removeScope, Table.get?_erase]
    by_cases hother : scope = other
    · rw [if_pos hother, if_pos hother.symm, Option.getD_none]
    · rw [if_neg hother, if_neg (Ne.symm hother), Registry.membersOf]
  have hkeys : (r.removeScope scope).1.scopeList = r.scopeList.filter (· ≠ scope) := Table.keys_erase _ _
  refine ⟨⟨?_, fun other => ?_, fun other hother => ?_⟩, fun other member => ?_⟩
  · rw [hkeys]
    exact h.neat.scopes.filter _
  · rw [members, hmembers]
    split
    · exact List.nodup_nil
    · exact h.neat.distinct other
  · rw [hkeys, List.mem_filter, decide_eq_true_eq] at hother
    rw [members, hmembers, if_neg hother.2]
    exact h.neat.inhabited other hother.1
  · rw [Registry.get?, hmembers]
    dsimp only
    split
    · rfl
    · exact h.get? other member

/-- A scope that is taken out is handed back if it had a member, with all its members. -/
theorem Mirrors.held_removeScope (h : r.Mirrors m) (scope : σ) :
    m.Held (.removeScope scope) (.members (r.removeScope scope).2) := by
  have hscope := h.containsScope_iff scope
  have hmembers := h.membersOf scope
  rw [containsScope, Table.has] at hscope
  rw [Registry.membersOf] at hmembers
  rw [Registry.removeScope]
  cases htaken : r.scopes.get? scope with
  | none =>
    rw [htaken] at hscope
    exact fun hinhabited => absurd (hscope.mpr hinhabited) Bool.false_ne_true
  | some taken =>
    rw [htaken] at hscope hmembers
    exact ⟨hscope.mp rfl, hmembers⟩

omit [DecidableEq μ] in
/-- A scope with its members in a neat registry holds the members of the scope. -/
theorem membersOf_of_mem (h : r.Neat) {scope : σ} {t : Table μ ν} (hmem : (scope, t) ∈ r.scopes) :
    r.membersOf scope = t := by
  have hscope : r.scopes.get? scope = some t := Table.get?_of_mem h.scopes hmem
  rw [Registry.membersOf, hscope, Option.getD_some]

/-- The entries of a neat registry are the members with their values. -/
theorem mem_entries_iff (h : r.Neat) {scope : σ} {member : μ} {value : ν} :
    (scope, member, value) ∈ r.entries ↔ r.get? scope member = some value := by
  constructor
  · intro hentry
    obtain ⟨t, hscope, hmember⟩ := Registry.mem_entries.mp hentry
    exact Table.get?_of_mem (h.distinct scope) (membersOf_of_mem h hscope ▸ hmember)
  · exact fun hget => Registry.mem_entries_of_membersOf (Table.mem_of_get? hget)

omit [DecidableEq μ] in
/-- A neat registry has each entry once. -/
theorem nodup_keys_flatten (h : r.Neat) : (flatten r.entries).keys.Nodup := by
  have hkeys : (flatten r.entries).keys = r.scopes.flatMap fun s => s.2.keys.map fun member => (s.1, member) := by
    simp only [flatten, Registry.entries, Table.keys, List.map_flatMap, List.map_map]
    rfl
  rw [hkeys, List.nodup_flatMap]
  constructor
  · rintro ⟨scope, t⟩ hscope
    have hmembers := h.distinct scope
    rw [members, membersOf_of_mem h hscope] at hmembers
    exact hmembers.map fun a b hab => congrArg Prod.snd hab
  · -- entries of different scopes differ in the scope
    refine (List.pairwise_map.mp h.scopes).imp fun {s s'} hne key hkey hkey' => hne ?_
    obtain ⟨_, -, rfl⟩ := List.mem_map.mp hkey
    obtain ⟨_, -, heq⟩ := List.mem_map.mp hkey'
    exact (congrArg Prod.fst heq).symm

/-- All entries are listed, each of them once. -/
theorem Mirrors.entries (h : r.Mirrors m) : (flatten r.entries).Lists m := by
  refine ⟨nodup_keys_flatten h.neat, fun ⟨scope, member⟩ value => ?_⟩
  rw [← h.get?, ← mem_entries_iff h.neat, flatten, List.mem_map]
  constructor
  · rintro ⟨⟨other, name, v⟩, hmem, heq⟩
    obtain ⟨⟨rfl, rfl⟩, rfl⟩ : (other = scope ∧ name = member) ∧ v = value := by simpa using heq
    exact hmem
  · exact fun hmem => ⟨(scope, member, value), hmem, rfl⟩

/-- An operation on a registry is the operation on the map, and hands back what the map held. -/
theorem Mirrors.apply (h : r.Mirrors m) (op : Op σ μ ν) :
    (r.apply op).1.Mirrors (m.apply op) ∧ m.Held op (r.apply op).2 := by
  cases op with
  | register scope member value => exact ⟨h.register scope member value, h.get? scope member⟩
  | unregister scope member => exact h.unregister scope member
  | unregisterIf scope member condition => exact h.unregisterIf scope member condition
  | removeScope scope => exact ⟨h.removeScope scope, h.held_removeScope scope⟩
  | drain => exact ⟨mirrors_empty, h.entries⟩

/-- A registry that has the values of a map answers every question as the map does. -/
theorem Mirrors.answers (h : r.Mirrors m) : r.Answers m where
  get? := h.get?
  contains scope member := by rw [contains, h.get?]
  containsScope := h.containsScope_iff
  scopeSize scope := (h.membersOf scope).length_eq
  members scope := ⟨(h.membersOf scope).distinct, (h.membersOf scope).mem_keys_iff⟩
  snapshot scope := ⟨r.membersOf scope, h.membersOf scope, rfl⟩
  visit scope := ⟨r.membersOf scope, h.membersOf scope, fun _ _ _ => rfl⟩
  entries := h.entries
  scopeList :=
    ⟨h.neat.scopes, fun scope => (Table.mem_keys_iff r.scopes scope).trans (h.containsScope_iff scope)⟩
  size := by
    have hscopes (scope : σ) : scope ∈ r.scopeList ↔ m.Inhabited scope :=
      (Table.mem_keys_iff r.scopes scope).trans (h.containsScope_iff scope)
    exact ((Table.ncard_eq_length h.neat.scopes hscopes).trans (List.length_map _)).symm
  memberCount := by
    rw [← length_entries, ← h.entries.length_eq, flatten, List.length_map]
  isEmpty := by
    constructor
    · rintro hempty ⟨scope, member⟩
      have hscopes : r.scopes = [] := List.isEmpty_iff.mp hempty
      rw [← h.get?, Registry.get?, Registry.membersOf, hscopes]
      rfl
    · intro hnone
      exact h.neat.isEmpty fun scope member => by rw [contains, h.get?, hnone, Option.isSome_none]

/-! ## Any operations -/

/-- After any operations a registry has the values of the map that has undergone the same. -/
theorem Mirrors.run (h : r.Mirrors m) (ops : List (Op σ μ ν)) : (r.run ops).Mirrors (m.run ops) := by
  induction ops generalizing r m with
  | nil => exact h
  | cons op ops ih => exact ih (h.apply op).1

/--
After any operations on the empty registry it answers every question as the map does that has undergone the
same operations, and any further operation hands back what the map held. Taking everything out, which hands
back each entry once, leaves the empty registry.
-/
theorem answers_as_flat_map (ops : List (Op σ μ ν)) :
    let r := (empty : Registry σ μ ν).run ops
    let m := (FlatMap.empty : FlatMap σ μ ν).run ops
    r.Answers m ∧ (∀ op, m.Held op (r.apply op).2) ∧ (r.apply .drain).1 = empty := by
  have hmirrors : ((empty : Registry σ μ ν).run ops).Mirrors ((FlatMap.empty : FlatMap σ μ ν).run ops) :=
    mirrors_empty.run ops
  exact ⟨hmirrors.answers, fun op => (hmirrors.apply op).2, rfl⟩

end Operations

end Registry

end Parlor
