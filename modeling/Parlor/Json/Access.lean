import Parlor.Json.Value

/-!
# Looking into values

The members of objects by their names, and scalars as what they hold.  A member that is null counts
as missing, and what is missing or of another kind is empty or zero where nothing else is asked for.
-/

namespace Parlor.Json.Value

/-- The member of an object. -/
def get? (v : Value) (name : String) : Option Value :=
  match v with
  | .object members =>
    match member? name members with
    | some .null => none
    | found => found
  | _ => none

/-- The member of an object, null if it is missing. -/
def get (v : Value) (name : String) : Value := (v.get? name).getD .null

/-- The text of a string. -/
def string? : Value → Option String
  | .string s => some s
  | _ => none

/-- The whole number of a number. -/
def int? : Value → Option Int
  | .number (.integer n) => some n
  | _ => none

/-- The items of an array. -/
def items : Value → List Value
  | .array vs => vs
  | _ => []

/-- The member that is a string. -/
def str? (v : Value) (name : String) : Option String := (v.get? name).bind string?

/-- The member that is a string. -/
def str (v : Value) (name : String) : String := (v.str? name).getD ""

/-- The member that is a whole number. -/
def intAt? (v : Value) (name : String) : Option Int := (v.get? name).bind int?

/-- The member that is a word. -/
def wordAt? (v : Value) (name : String) : Option UInt64 := (v.intAt? name).map UInt64.ofInt

/-- The member that is a word. -/
def wordAt (v : Value) (name : String) : UInt64 := (v.wordAt? name).getD 0

/-- The items of a member. -/
def list (v : Value) (name : String) : List Value := (v.get name).items

end Parlor.Json.Value
