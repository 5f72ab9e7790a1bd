/-!
# Tables

Finite maps as lists of keys and values.  `insert` replaces the value of a key in its place, or adds
the key at the end, so a table built by it holds each key once.
-/

namespace Parlor

/-- A list of keys with their values. -/
abbrev Table (κ ν : Type) := List (κ × ν)

namespace Table

variable {κ ν : Type} [DecidableEq κ]

/-- The value of a key. -/
def get? (key : κ) : Table κ ν → Option ν
  | [] => none
  | (k, v) :: rest => if k = key then some v else get? key rest

/-- Tests whether a key has a value. -/
def has (t : Table κ ν) (key : κ) : Bool := (t.get? key).isSome

/-- Gives a key a value, in place of the one it has. -/
def insert (key : κ) (value : ν) : Table κ ν → Table κ ν
  | [] => [(key, value)]
  | (k, v) :: rest => if k = key then (key, value) :: rest else (k, v) :: insert key value rest

/-- Takes a key and its value out. -/
def erase (key : κ) : Table κ ν → Table κ ν
  | [] => []
  | (k, v) :: rest => if k = key then erase key rest else (k, v) :: erase key rest

/-- Changes the value of a key that has one. -/
def modify (key : κ) (f : ν → ν) : Table κ ν → Table κ ν
  | [] => []
  | (k, v) :: rest => if k = key then (k, f v) :: modify key f rest else (k, v) :: modify key f rest

/-- The keys in their order. -/
def keys (t : Table κ ν) : List κ := t.map (·.1)

/-- The values in the order of their keys. -/
def values (t : Table κ ν) : List ν := t.map (·.2)

theorem get?_insert (t : Table κ ν) (key other : κ) (value : ν) :
    (t.insert key value).get? other = if key = other then some value else t.get? other := by
  induction t with
  | nil => rfl
  | cons entry rest ih =>
    obtain ⟨k, v⟩ := entry
    by_cases hk : k = key
    · subst hk
      by_cases ho : k = other <;> simp [insert, get?, ho]
    · by_cases ho : k = other
      · subst ho
        simp [insert, get?, hk, Ne.symm hk]
      · simp [insert, get?, hk, ho, ih]

theorem get?_erase (t : Table κ ν) (key other : κ) :
    (t.erase key).get? other = if key = other then none else t.get? other := by
  induction t with
  | nil => simp [erase, get?]
  | cons entry rest ih =>
    obtain ⟨k, v⟩ := entry
    by_cases hk : k = key
    · subst hk
      by_cases ho : k = other
      · subst ho
        simpa [erase] using ih
      · simpa [erase, get?, ho] using ih
    · by_cases ho : k = other
      · subst ho
        simp [erase, get?, hk, Ne.symm hk]
      · simp [erase, get?, hk, ho, ih]

/-- The values of two keys are changed in any order. -/
theorem modify_comm {key other : κ} (h : key ≠ other) (f g : ν → ν) (t : Table κ ν) :
    (t.modify key f).modify other g = (t.modify other g).modify key f := by
  induction t with
  | nil => rfl
  | cons entry rest ih =>
    obtain ⟨k, v⟩ := entry
    by_cases hother : k = other
    · simp [modify, hother, h.symm, ih]
    · by_cases hkey : k = key <;> simp [modify, hother, hkey, h, ih]

end Table

end Parlor
