import Parlor.Registry

/-!
# What a registry holds

Looking up a member sees the last registration of it, and no operation on one member is seen by
another. A scope holds each of its members once, so its size is the number of different members.
-/

namespace Parlor

/-! ## Keys of tables -/

namespace Table

variable {κ ν : Type} [DecidableEq κ]

/-- A key of a table has a value. -/
theorem mem_keys_iff (t : Table κ ν) (key : κ) : key ∈ t.keys ↔ (t.get? key).isSome := by
  induction t with
  | nil => simp [keys, get?]
  | cons entry rest ih =>
    obtain ⟨k, v⟩ := entry
    rw [show keys ((k, v) :: rest) = k :: keys rest from rfl, List.mem_cons, ih, get?]
    by_cases hk : k = key
    · simp [hk]
    · simp [hk, Ne.symm hk]

/-- The value of a key is in an entry. -/
theorem mem_of_get? {t : Table κ ν} {key : κ} {value : ν} (h : t.get? key = some value) : (key, value) ∈ t := by
  induction t with
  | nil => contradiction
  | cons entry rest ih =>
    obtain ⟨k, v⟩ := entry
    rw [get?] at h
    split at h
    case isTrue hk => exact hk ▸ Option.some.inj h ▸ List.mem_cons_self
    case isFalse => exact List.mem_cons_of_mem _ (ih h)

/-- In a table with each key once, every entry holds the value of its key. -/
theorem get?_of_mem {t : Table κ ν} (hdistinct : t.keys.Nodup) {key : κ} {value : ν} (h : (key, value) ∈ t) :
    t.get? key = some value := by
  induction t with
  | nil => contradiction
  | cons entry rest ih =>
    obtain ⟨k, v⟩ := entry
    obtain ⟨hnew, hrest⟩ := List.nodup_cons.mp hdistinct
    rw [get?]
    rcases List.mem_cons.mp h with heq | hmem
    · obtain ⟨rfl, rfl⟩ := Prod.mk.inj heq
      rw [if_pos rfl]
    · rw [if_neg fun hk => hnew (List.mem_map.mpr ⟨_, hmem, hk.symm⟩), ih hrest hmem]

/-- A new key comes last, and one that is there stays where it is. -/
theorem keys_insert (t : Table κ ν) (key : κ) (value : ν) :
    (t.insert key value).keys = if key ∈ t.keys then t.keys else t.keys ++ [key] := by
  induction t with
  | nil => rfl
  | cons entry rest ih =>
    obtain ⟨k, v⟩ := entry
    rw [show keys ((k, v) :: rest) = k :: keys rest from rfl, insert]
    by_cases hk : k = key
    · simp [hk, keys]
    · rw [if_neg hk, show keys ((k, v) :: insert key value rest) = k :: keys (insert key value rest) from rfl, ih]
      by_cases hmem : key ∈ keys rest <;> simp [hmem, Ne.symm hk]

/-- Inserting keeps each key once. -/
theorem nodup_insert {t : Table κ ν} (h : t.keys.Nodup) (key : κ) (value : ν) : (t.insert key value).keys.Nodup := by
  rw [keys_insert]
  split
  case isTrue => exact h
  case isFalse hnew =>
    refine List.nodup_append.mpr ⟨h, by simp, fun other hother last hlast heq => hnew ?_⟩
    exact List.mem_singleton.mp hlast ▸ heq ▸ hother

/-- Erasing takes out one key and leaves the others in their order. -/
theorem keys_erase (t : Table κ ν) (key : κ) : (t.erase key).keys = t.keys.filter (· ≠ key) := by
  induction t with
  | nil => rfl
  | cons entry rest ih =>
    obtain ⟨k, v⟩ := entry
    rw [show keys ((k, v) :: rest) = k :: keys rest from rfl, erase]
    by_cases hk : k = key
    · simp [hk, ih]
    · rw [if_neg hk, show keys ((k, v) :: erase key rest) = k :: keys (erase key rest) from rfl, ih]
      simp [hk]

/-- Erasing keeps the entries of the other keys. -/
theorem erase_eq_filter (t : Table κ ν) (key : κ) : t.erase key = t.filter (·.1 ≠ key) := by
  induction t with
  | nil => rfl
  | cons entry rest ih =>
    obtain ⟨k, v⟩ := entry
    by_cases hk : k = key <;> simp [erase, hk, ih]

/-- What is in a table after inserting was there before, or is the new entry. -/
theorem mem_of_mem_insert {t : Table κ ν} {key : κ} {value : ν} {entry : κ × ν} (h : entry ∈ t.insert key value) :
    entry = (key, value) ∨ entry ∈ t := by
  induction t with
  | nil => exact .inl (List.mem_singleton.mp h)
  | cons first rest ih =>
    obtain ⟨k, v⟩ := first
    rw [insert] at h
    split at h
    case isTrue => exact (List.mem_cons.mp h).imp id (List.mem_cons_of_mem _)
    case isFalse =>
      rcases List.mem_cons.mp h with heq | hrest
      · exact .inr (heq ▸ List.mem_cons_self)
      · exact (ih hrest).imp id (List.mem_cons_of_mem _)

/-- In a table with each key once, inserting replaces the entry of the key, up to the order. -/
theorem insert_perm {t : Table κ ν} (h : t.keys.Nodup) (key : κ) (value : ν) :
    (t.insert key value).Perm (t.erase key ++ [(key, value)]) := by
  induction t with
  | nil => exact .refl _
  | cons entry rest ih =>
    obtain ⟨k, v⟩ := entry
    obtain ⟨hnew, hrest⟩ := List.nodup_cons.mp h
    by_cases hk : k = key
    · subst hk
      have hsame : erase k rest = rest := by
        rw [erase_eq_filter, List.filter_eq_self]
        exact fun other hother => decide_eq_true fun hk => hnew (List.mem_map.mpr ⟨other, hother, hk⟩)
      simp only [insert, erase, if_true, hsame]
      exact (List.perm_append_singleton _ _).symm
    · simp only [insert, erase, if_neg hk]
      exact (ih hrest).cons (k, v)

omit [DecidableEq κ] in
/-- A table has as many keys as entries. -/
theorem length_keys (t : Table κ ν) : t.keys.length = t.length := List.length_map _

end Table

/-! ## Members of scopes -/

namespace Registry

variable {σ μ ν : Type} [DecidableEq σ] [DecidableEq μ]

omit [DecidableEq μ] in
/-- The empty registry has no members. -/
@[simp] theorem membersOf_empty (scope : σ) : (empty : Registry σ μ ν).membersOf scope = [] := rfl

/-- Registering changes the members of one scope. -/
theorem membersOf_register (r : Registry σ μ ν) (scope other : σ) (member : μ) (value : ν) :
    (r.register scope member value).membersOf other =
      if other = scope then (r.membersOf scope).insert member value else r.membersOf other := by
  rw [membersOf, register, Table.get?_insert]
  by_cases h : scope = other
  · simp [h]
  · rw [if_neg h, if_neg (Ne.symm h), membersOf]

omit [DecidableEq μ] in
/-- Replacing the members of a scope changes no other scope. -/
theorem membersOf_setMembers (r : Registry σ μ ν) (scope other : σ) (members : Table μ ν) :
    (r.setMembers scope members).membersOf other = if other = scope then members else r.membersOf other := by
  unfold setMembers
  split
  case isTrue hempty =>
    rw [membersOf, Table.get?_erase]
    by_cases h : scope = other
    · simpa [h] using (List.isEmpty_iff.mp hempty).symm
    · rw [if_neg h, if_neg (Ne.symm h), membersOf]
  case isFalse =>
    rw [membersOf, Table.get?_insert]
    by_cases h : scope = other
    · simp [h]
    · rw [if_neg h, if_neg (Ne.symm h), membersOf]

/-- A member that is taken out satisfies the condition, and is taken out of its scope. -/
theorem unregisterIf_cases (r : Registry σ μ ν) (scope : σ) (member : μ) (condition : ν → Bool) :
    (∃ value, r.get? scope member = some value ∧ condition value = true ∧
        r.unregisterIf scope member condition =
          (r.setMembers scope ((r.membersOf scope).erase member), some value)) ∨
      (∀ value, r.get? scope member = some value → condition value = false) ∧
        r.unregisterIf scope member condition = (r, none) := by
  unfold unregisterIf
  cases hvalue : r.get? scope member with
  | none => exact .inr ⟨by simp, rfl⟩
  | some value =>
    by_cases hcondition : condition value
    · exact .inl ⟨value, rfl, hcondition, by simp [hcondition]⟩
    · exact .inr ⟨by simpa using hcondition, by simp [hcondition]⟩

/-- A member that was registered has the new value, and the others have theirs. -/
theorem get?_register (r : Registry σ μ ν) (scope other : σ) (member name : μ) (value : ν) :
    (r.register scope member value).get? other name =
      if other = scope ∧ name = member then some value else r.get? other name := by
  rw [get?, membersOf_register]
  by_cases hscope : other = scope
  · subst hscope
    rw [if_pos rfl, Table.get?_insert]
    by_cases hname : name = member
    · simp [hname]
    · rw [if_neg (Ne.symm hname), if_neg (by simp [hname]), get?]
  · rw [if_neg hscope, if_neg (by simp [hscope]), get?]

/-- A member that was taken out has no value, and the others have theirs. -/
theorem get?_setMembers_erase (r : Registry σ μ ν) (scope other : σ) (member name : μ) :
    (r.setMembers scope ((r.membersOf scope).erase member)).get? other name =
      if other = scope ∧ name = member then none else r.get? other name := by
  rw [get?, membersOf_setMembers]
  by_cases hscope : other = scope
  · subst hscope
    rw [if_pos rfl, Table.get?_erase]
    by_cases hname : name = member
    · simp [hname]
    · rw [if_neg (Ne.symm hname), if_neg (by simp [hname]), get?]
  · rw [if_neg hscope, if_neg (by simp [hscope]), get?]

/-- The members of a scope are those that it contains. -/
theorem mem_members_iff (r : Registry σ μ ν) (scope : σ) (member : μ) :
    member ∈ r.members scope ↔ r.contains scope member = true :=
  Table.mem_keys_iff _ _

omit [DecidableEq μ] in
/-- The size of a scope is the number of its members. -/
theorem length_members (r : Registry σ μ ν) (scope : σ) : (r.members scope).length = r.scopeSize scope :=
  Table.length_keys _

/-- A new member comes last, and one that is there stays where it is. -/
theorem members_register (r : Registry σ μ ν) (scope other : σ) (member : μ) (value : ν) :
    (r.register scope member value).members other =
      if other = scope ∧ r.contains scope member = false then r.members other ++ [member]
      else r.members other := by
  rw [members, membersOf_register]
  by_cases hscope : other = scope
  · subst hscope
    rw [if_pos rfl, Table.keys_insert, ← members]
    by_cases hmem : member ∈ r.members other
    · have hcontains := (r.mem_members_iff other member).mp hmem
      simp [hmem, hcontains]
    · have hcontains := mt (r.mem_members_iff other member).mpr hmem
      simp [hmem, hcontains]
  · rw [if_neg hscope, if_neg (by simp [hscope]), members]

/-- A member that is taken out leaves the others in their order. -/
theorem members_setMembers_erase (r : Registry σ μ ν) (scope other : σ) (member : μ) :
    (r.setMembers scope ((r.membersOf scope).erase member)).members other =
      if other = scope then (r.members scope).filter (· ≠ member) else r.members other := by
  rw [members, membersOf_setMembers]
  by_cases hscope : other = scope
  · rw [if_pos hscope, if_pos hscope, Table.keys_erase, members]
  · rw [if_neg hscope, if_neg hscope, members]

/-- Where a member is taken out, the others stay in their order, and no scope gets another member. -/
theorem members_setMembers_erase_sublist (r : Registry σ μ ν) (scope other : σ) (member : μ) :
    ((r.setMembers scope ((r.membersOf scope).erase member)).members other).Sublist (r.members other) := by
  rw [members_setMembers_erase]
  split
  case isTrue hother => exact hother ▸ List.filter_sublist
  case isFalse => exact .refl _

/-- Whoever registers is contained, and nobody else is affected. -/
theorem contains_register (r : Registry σ μ ν) (scope other : σ) (member name : μ) (value : ν) :
    (r.register scope member value).contains other name =
      if other = scope ∧ name = member then true else r.contains other name := by
  rw [contains, get?_register]
  split <;> rfl

/-- Whoever is taken out is no longer contained, and nobody else is affected. -/
theorem contains_setMembers_erase (r : Registry σ μ ν) (scope other : σ) (member name : μ) :
    (r.setMembers scope ((r.membersOf scope).erase member)).contains other name =
      if other = scope ∧ name = member then false else r.contains other name := by
  rw [contains, get?_setMembers_erase]
  split <;> rfl

/-- A member that is there is taken out of its scope, and otherwise nothing changes. -/
theorem unregister_eq (r : Registry σ μ ν) (scope : σ) (member : μ) :
    (r.unregister scope member).1 =
      if r.contains scope member = true then r.setMembers scope ((r.membersOf scope).erase member) else r := by
  rcases r.unregisterIf_cases scope member (fun _ => true) with ⟨value, hvalue, -, hout⟩ | ⟨hnone, hout⟩
  · rw [unregister, hout, if_pos (by rw [contains, hvalue]; rfl)]
  · have habsent : r.get? scope member = none := by
      cases hvalue : r.get? scope member with
      | none => rfl
      | some value => exact absurd (hnone value hvalue) (by simp)
    rw [unregister, hout, if_neg (by simp [contains, habsent])]

/-- Whoever has been taken out is not contained, whether it was there or not, and nobody else is affected. -/
theorem contains_unregister (r : Registry σ μ ν) (scope other : σ) (member name : μ) :
    (r.unregister scope member).1.contains other name =
      if other = scope ∧ name = member then false else r.contains other name := by
  rw [unregister_eq]
  by_cases hmember : r.contains scope member = true
  · rw [if_pos hmember, contains_setMembers_erase]
  · rw [if_neg hmember]
    split
    case isTrue hsame => rw [hsame.1, hsame.2, Bool.eq_false_iff.mpr hmember]
    case isFalse => rfl

/-! ## Scopes -/

/-- Registering opens a scope if there is none. -/
theorem mem_scopeList_register (r : Registry σ μ ν) (scope other : σ) (member : μ) (value : ν) :
    other ∈ (r.register scope member value).scopeList ↔ other = scope ∨ other ∈ r.scopeList := by
  rw [scopeList, scopeList, register, Table.keys_insert]
  split
  case isTrue hmem => exact ⟨.inr, fun h => h.elim (fun hother => hother ▸ hmem) id⟩
  case isFalse => simp [or_comm]

omit [DecidableEq μ] in
/-- A scope whose members are replaced is kept as long as it has any. -/
theorem mem_scopeList_setMembers {r : Registry σ μ ν} {scope other : σ} {members : Table μ ν}
    (h : other ∈ (r.setMembers scope members).scopeList) :
    other = scope ∧ members ≠ [] ∨ other ≠ scope ∧ other ∈ r.scopeList := by
  unfold setMembers scopeList at h
  split at h
  case isTrue =>
    rw [Table.keys_erase, List.mem_filter, decide_eq_true_eq] at h
    exact .inr h.symm
  case isFalse hne =>
    have hmembers : members ≠ [] := fun hnil => hne (by simp [hnil])
    rw [Table.keys_insert] at h
    by_cases hother : other = scope
    · exact .inl ⟨hother, hmembers⟩
    · refine .inr ⟨hother, ?_⟩
      split at h
      · exact h
      · rw [scopeList]
        simpa [hother] using h

/-- Registering keeps each member of a scope once. -/
theorem nodup_members_register {r : Registry σ μ ν} (h : ∀ scope, (r.members scope).Nodup) (scope other : σ)
    (member : μ) (value : ν) : ((r.register scope member value).members other).Nodup := by
  rw [members_register]
  split
  case isTrue hnew =>
    refine List.nodup_append.mpr ⟨h other, by simp, fun a ha b hb => ?_⟩
    rintro rfl
    rw [List.mem_singleton.mp hb, mem_members_iff, hnew.1, hnew.2] at ha
    contradiction
  case isFalse => exact h other

/-- Registering a new member where there is a place for it keeps the scopes within bounds. -/
theorem length_members_register_le {r : Registry σ μ ν} {limit : Nat} (h : ∀ scope, (r.members scope).length ≤ limit)
    {scope : σ} {member : μ} (hplace : r.contains scope member = false → r.scopeSize scope < limit) (other : σ)
    (value : ν) : ((r.register scope member value).members other).length ≤ limit := by
  rw [members_register]
  split
  case isTrue hnew =>
    rw [hnew.1, List.length_append, length_members]
    exact hplace hnew.2
  case isFalse => exact h other

/-- A registry that keeps each member of a scope once, and in each scope at least one and at most some number. -/
structure Proper (r : Registry σ μ ν) (limit : Nat) : Prop where
  distinct : ∀ scope, (r.members scope).Nodup
  bounded : ∀ scope, (r.members scope).length ≤ limit
  inhabited : ∀ scope ∈ r.scopeList, r.members scope ≠ []

omit [DecidableEq μ] in
/-- The registry without members is proper. -/
theorem proper_empty (limit : Nat) : (empty : Registry σ μ ν).Proper limit :=
  ⟨fun _ => List.nodup_nil, fun _ => Nat.zero_le limit, fun _ hscope => absurd hscope List.not_mem_nil⟩

/-- Registering leaves no scope without members. -/
theorem inhabited_register {r : Registry σ μ ν} (h : ∀ scope ∈ r.scopeList, r.members scope ≠ []) (scope : σ)
    (member : μ) (value : ν) :
    ∀ other ∈ (r.register scope member value).scopeList, (r.register scope member value).members other ≠ [] := by
  intro other hother
  rcases (r.mem_scopeList_register scope other member value).mp hother with rfl | hold
  · refine List.ne_nil_of_mem (a := member) ?_
    rw [mem_members_iff, contains_register, if_pos ⟨rfl, rfl⟩]
  · rw [members_register]
    split
    · exact List.append_ne_nil_of_right_ne_nil _ (List.cons_ne_nil member [])
    · exact h other hold

omit [DecidableEq μ] in
/-- Replacing the members of a scope leaves no scope without members. -/
theorem inhabited_setMembers {r : Registry σ μ ν} (h : ∀ scope ∈ r.scopeList, r.members scope ≠ []) (scope : σ)
    (members : Table μ ν) :
    ∀ other ∈ (r.setMembers scope members).scopeList, (r.setMembers scope members).members other ≠ [] := by
  intro other hother
  rcases mem_scopeList_setMembers hother with ⟨hscope, hrest⟩ | ⟨hne, hold⟩
  · rw [Registry.members, membersOf_setMembers, if_pos hscope]
    exact fun hnil => hrest (List.map_eq_nil_iff.mp hnil)
  · rw [Registry.members, membersOf_setMembers, if_neg hne]
    exact h other hold

/-- Registering a member that is there, or for which there is a place, leaves a registry proper. -/
theorem Proper.register {r : Registry σ μ ν} {limit : Nat} (h : r.Proper limit) {scope : σ} {member : μ}
    (hplace : r.contains scope member = false → r.scopeSize scope < limit) (value : ν) :
    (r.register scope member value).Proper limit :=
  ⟨fun other => nodup_members_register h.distinct scope other member value,
    fun other => length_members_register_le h.bounded hplace other value,
    inhabited_register h.inhabited scope member value⟩

/-- Taking a member out leaves a registry proper. -/
theorem Proper.setMembers_erase {r : Registry σ μ ν} {limit : Nat} (h : r.Proper limit) (scope : σ) (member : μ) :
    (r.setMembers scope ((r.membersOf scope).erase member)).Proper limit := by
  have hsub := r.members_setMembers_erase_sublist scope
  exact ⟨fun other => (h.distinct other).sublist (hsub other member),
    fun other => Nat.le_trans (hsub other member).length_le (h.bounded other),
    inhabited_setMembers h.inhabited scope _⟩

/-- A registry that keeps each scope once, with each of its members once and at least one. -/
structure Neat (r : Registry σ μ ν) : Prop where
  scopes : r.scopeList.Nodup
  distinct : ∀ scope, (r.members scope).Nodup
  inhabited : ∀ scope ∈ r.scopeList, r.members scope ≠ []

omit [DecidableEq μ] in
/-- The registry without members is neat. -/
theorem neat_empty : (empty : Registry σ μ ν).Neat :=
  ⟨List.nodup_nil, fun _ => List.nodup_nil, fun _ hscope => absurd hscope List.not_mem_nil⟩

/-- Registering leaves a registry neat. -/
theorem Neat.register {r : Registry σ μ ν} (h : r.Neat) (scope : σ) (member : μ) (value : ν) :
    (r.register scope member value).Neat := by
  exact ⟨Table.nodup_insert h.scopes _ _, fun other => nodup_members_register h.distinct scope other member value,
    inhabited_register h.inhabited scope member value⟩

/-- Taking the entry of a member out leaves a registry neat. -/
theorem Neat.setMembers_erase {r : Registry σ μ ν} (h : r.Neat) (scope : σ) (member : μ) :
    (r.setMembers scope ((r.membersOf scope).erase member)).Neat := by
  refine ⟨?_, fun other => (h.distinct other).sublist (r.members_setMembers_erase_sublist scope other member),
    inhabited_setMembers h.inhabited scope _⟩
  unfold setMembers
  split
  · rw [scopeList, Table.keys_erase]
    exact h.scopes.filter _
  · exact Table.nodup_insert h.scopes _ _

/-- Taking a member out leaves a registry neat, whether it was there or not. -/
theorem Neat.unregister {r : Registry σ μ ν} (h : r.Neat) (scope : σ) (member : μ) :
    (r.unregister scope member).1.Neat := by
  rw [unregister_eq]
  split
  case isTrue => exact h.setMembers_erase scope member
  case isFalse => exact h

/-- In a neat registry a scope is there exactly if it has a member. -/
theorem Neat.containsScope_iff {r : Registry σ μ ν} (h : r.Neat) (scope : σ) :
    r.containsScope scope = true ↔ ∃ member, r.contains scope member = true := by
  constructor
  · intro hscope
    obtain ⟨member, hmember⟩ := List.exists_mem_of_ne_nil _
      (h.inhabited scope ((Table.mem_keys_iff r.scopes scope).mpr hscope))
    exact ⟨member, (r.mem_members_iff scope member).mp hmember⟩
  · rintro ⟨member, hmember⟩
    rw [containsScope, Table.has]
    cases hscope : r.scopes.get? scope with
    | some members => rfl
    | none => simp [contains, get?, membersOf, hscope, Table.get?] at hmember

/-- A neat registry that contains nobody is empty. -/
theorem Neat.isEmpty {r : Registry σ μ ν} (h : r.Neat) (hnobody : ∀ scope member, r.contains scope member = false) :
    r.isEmpty = true := by
  cases hscopes : r.scopes with
  | nil => rw [Registry.isEmpty, hscopes, List.isEmpty_nil]
  | cons entry rest =>
    have hscope : entry.1 ∈ r.scopes.keys := List.mem_map.mpr ⟨entry, hscopes ▸ List.mem_cons_self, rfl⟩
    obtain ⟨member, hmember⟩ := (h.containsScope_iff entry.1).mp ((Table.mem_keys_iff r.scopes entry.1).mp hscope)
    exact absurd hmember (by simp [hnobody])

omit [DecidableEq σ] [DecidableEq μ] in
/-- Each member is an entry. -/
theorem length_entries (r : Registry σ μ ν) : r.entries.length = r.memberCount := by
  have hcount (scopes : Table σ (Table μ ν)) (n : Nat) :
      scopes.foldl (fun n s => n + s.2.length) n = n + (Registry.mk scopes).entries.length := by
    induction scopes generalizing n with
    | nil => rfl
    | cons s rest ih =>
      rw [List.foldl_cons, ih, entries, entries, List.flatMap_cons, List.length_append, List.length_map,
        Nat.add_assoc]
  rw [memberCount, hcount, Nat.zero_add]

omit [DecidableEq σ] [DecidableEq μ] in
/-- An entry is a member with its value in a scope. -/
theorem mem_entries {r : Registry σ μ ν} {scope : σ} {member : μ} {value : ν} :
    (scope, member, value) ∈ r.entries ↔ ∃ members, (scope, members) ∈ r.scopes ∧ (member, value) ∈ members := by
  rw [entries, List.mem_flatMap]
  constructor
  · rintro ⟨⟨other, members⟩, hscope, hentry⟩
    obtain ⟨⟨name, v⟩, hmember, heq⟩ := List.mem_map.mp hentry
    obtain ⟨rfl, rfl, rfl⟩ : other = scope ∧ name = member ∧ v = value := by simpa using heq
    exact ⟨members, hscope, hmember⟩
  · rintro ⟨members, hscope, hmember⟩
    exact ⟨_, hscope, List.mem_map.mpr ⟨_, hmember, rfl⟩⟩

omit [DecidableEq μ] in
/-- The members of a scope are entries. -/
theorem mem_entries_of_membersOf {r : Registry σ μ ν} {scope : σ} {member : μ} {value : ν}
    (h : (member, value) ∈ r.membersOf scope) : (scope, member, value) ∈ r.entries := by
  rw [membersOf] at h
  cases hscope : r.scopes.get? scope with
  | none => simp [hscope] at h
  | some members => exact mem_entries.mpr ⟨members, Table.mem_of_get? hscope, by simpa [hscope] using h⟩

/-- An entry after a registration was there before, or is the new one. -/
theorem mem_entries_of_register {r : Registry σ μ ν} {scope other : σ} {member name : μ} {value v : ν}
    (h : (other, name, v) ∈ (r.register scope member value).entries) :
    (other, name, v) = (scope, member, value) ∨ (other, name, v) ∈ r.entries := by
  obtain ⟨members, hscope, hmember⟩ := mem_entries.mp h
  rcases Table.mem_of_mem_insert hscope with heq | hscope
  · obtain ⟨rfl, rfl⟩ := Prod.mk.inj heq
    rcases Table.mem_of_mem_insert hmember with heq | hmember
    · exact .inl (congrArg (Prod.mk other) heq)
    · exact .inr (mem_entries_of_membersOf hmember)
  · exact .inr (mem_entries.mpr ⟨members, hscope, hmember⟩)

/-- An entry after a member was taken out was there before. -/
theorem mem_entries_of_setMembers_erase {r : Registry σ μ ν} {scope other : σ} {member name : μ} {v : ν}
    (h : (other, name, v) ∈ (r.setMembers scope ((r.membersOf scope).erase member)).entries) :
    (other, name, v) ∈ r.entries := by
  obtain ⟨members, hscope, hmember⟩ := mem_entries.mp h
  rw [setMembers] at hscope
  split at hscope
  · rw [Table.erase_eq_filter] at hscope
    exact mem_entries.mpr ⟨members, (List.mem_filter.mp hscope).1, hmember⟩
  · rcases Table.mem_of_mem_insert hscope with heq | hscope
    · obtain ⟨rfl, rfl⟩ := Prod.mk.inj heq
      rw [Table.erase_eq_filter] at hmember
      exact mem_entries_of_membersOf (List.mem_filter.mp hmember).1
    · exact mem_entries.mpr ⟨members, hscope, hmember⟩

omit [DecidableEq μ] in
/-- In a registry that keeps each scope once, all members are counted scope by scope. -/
theorem memberCount_eq {r : Registry σ μ ν} (h : r.scopeList.Nodup) :
    r.memberCount = (r.scopeList.flatMap r.members).length := by
  have hsizes : r.scopes.map (·.2.length) = r.scopeList.map fun scope => (r.members scope).length := by
    rw [scopeList, Table.keys, List.map_map]
    refine List.map_congr_left fun s hs => ?_
    have hmembers : r.scopes.get? s.1 = some s.2 := Table.get?_of_mem h hs
    rw [Function.comp_apply, length_members, scopeSize, membersOf, hmembers]
    rfl
  rw [← length_entries, entries, List.length_flatMap, List.length_flatMap, ← hsizes]
  simp only [List.length_map]

/-! ## Inverse registries -/

/-- Two registries are inverse: each has a member in a scope where the other has the scope as a member. -/
def Inverse {ν' : Type} (r : Registry σ μ ν) (index : Registry μ σ ν') : Prop :=
  ∀ scope member, r.contains scope member = index.contains member scope

section Inverse

variable {ν' : Type} {r : Registry σ μ ν} {index : Registry μ σ ν'}

/-- The members of a scope are those that have the scope as a member. -/
theorem Inverse.mem_iff (h : r.Inverse index) (scope : σ) (member : μ) :
    member ∈ r.members scope ↔ scope ∈ index.members member := by
  rw [mem_members_iff, mem_members_iff, h scope member]

/-- Registering in both keeps registries inverse. -/
theorem Inverse.register (h : r.Inverse index) (scope : σ) (member : μ) (value : ν) (value' : ν') :
    (r.register scope member value).Inverse (index.register member scope value') := by
  intro other name
  simp only [contains_register, and_comm, h other name]

/-- Taking out of both keeps registries inverse. -/
theorem Inverse.unregister (h : r.Inverse index) (scope : σ) (member : μ) :
    (r.unregister scope member).1.Inverse (index.unregister member scope).1 := by
  intro other name
  simp only [contains_unregister, and_comm, h other name]

end Inverse

end Registry

end Parlor
