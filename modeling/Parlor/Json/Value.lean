import Parlor.Decimal.Shortest
import Parlor.Word

/-!
# JSON values

The data that free-form payloads hold.  The members of an object are a list ordered by name, each
name occurring once; `insertMember` keeps that order, so equal objects are equal lists.
-/

namespace Parlor.Json

open Parlor.Decimal

/-- A JSON number: a whole number of the signed or unsigned 64-bit range, or a binary64 number. -/
inductive Number where
  | integer (n : Int)
  | real (x : Binary64)
  deriving DecidableEq, Inhabited

/-- A JSON value. -/
inductive Value where
  | null
  | bool (b : Bool)
  | number (n : Number)
  | string (s : String)
  | array (items : List Value)
  | object (members : List (String × Value))
  deriving Inhabited

/-- Puts a member into a list ordered by name, replacing the member of that name if there is one. -/
def insertMember {α : Type} (name : String) (value : α) : List (String × α) → List (String × α)
  | [] => [(name, value)]
  | (key, old) :: rest =>
    if name = key then (name, value) :: rest
    else if name < key then (name, value) :: (key, old) :: rest
    else (key, old) :: insertMember name value rest

/-- Finds a member by its name. -/
def member? {α : Type} (name : String) : List (String × α) → Option α
  | [] => none
  | (key, value) :: rest => if name = key then some value else member? name rest

namespace Value

/-- The object with the given members, a later one replacing an earlier one of the same name. -/
def ofMembers (members : List (String × Value)) : Value :=
  .object (members.foldl (fun acc (name, value) => insertMember name value acc) [])

/-- A whole number. -/
def int (n : Int) : Value := .number (.integer n)

/-- A natural number. -/
def nat (n : Nat) : Value := .number (.integer n)

/-- An unsigned word. -/
def word (n : UInt64) : Value := .number (.integer n.toNat)

/-- The value inside, or `null`. -/
def ofOption {α : Type} (toValue : α → Value) : Option α → Value
  | none => .null
  | some a => toValue a

end Value

/-- The unsigned word equal to a whole number, if there is one. -/
def wordOfInt? (n : Int) : Option UInt64 :=
  if 0 ≤ n ∧ n ≤ Word.unsignedHigh then some (UInt64.ofNat n.toNat) else none

end Parlor.Json
