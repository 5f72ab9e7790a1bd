import Parlor.Envelope
import Parlor.Text.Quoted

/-!
# Moves

A move names a cell by its row `x` and its column `y`.  A payload holds it as an object with these
two members, among others perhaps, or as an array of the two numbers.
-/

namespace Parlor.Game

open Json

/-- The row and the column of a cell, not necessarily on the board. -/
structure Move where
  x : Int
  y : Int
  deriving DecidableEq, Repr

/-- The name of a payload's type in messages, with the value where it is a scalar. -/
def describe : Value → String
  | .null => "null"
  | .bool true => "boolean `true`"
  | .bool false => "boolean `false`"
  | .number (.integer n) => "integer `" ++ String.ofList (integerChars n) ++ "`"
  | .number (.real x) => "floating point `" ++ String.ofList (realChars x) ++ "`"
  | .string s => "string " ++ Text.quoted s
  | .array _ => "sequence"
  | .object _ => "map"

/-- Why a payload holds no move. -/
inductive MoveFault where
  | notAMove (found : Value)
  | notANumber (found : Value)
  | outOfRange (n : Int)
  | missing (field : String)
  | tooShort (length : Nat)
  | tooLong (length : Nat)

/-- The wording of a fault. -/
def MoveFault.message : MoveFault → String
  | .notAMove found => "invalid type: " ++ describe found ++ ", expected struct Move"
  | .notANumber found => "invalid type: " ++ describe found ++ ", expected i64"
  | .outOfRange n =>
    "invalid value: " ++ describe (.number (.integer n)) ++ ", expected i64"
  | .missing field => "missing field `" ++ field ++ "`"
  | .tooShort length =>
    "invalid length " ++ toString length ++ ", expected struct Move with 2 elements"
  | .tooLong length => "invalid length " ++ toString length ++ ", expected fewer elements in array"

namespace Move

/-- The signed 64-bit number in a value. -/
def coordinate : Value → Except MoveFault Int
  | .number (.integer n) => if Word.isSigned n then .ok n else .error (.outOfRange n)
  | v => .error (.notANumber v)

/-- The coordinate in a member, if there is such a member. -/
def memberCoordinate? (field : String) (members : List (String × Value)) :
    Except MoveFault (Option Int) :=
  match member? field members with
  | none => .ok none
  | some v => some <$> coordinate v

/-- A coordinate that has to be there. -/
def require (field : String) : Option Int → Except MoveFault Int
  | none => .error (.missing field)
  | some n => .ok n

/-- The move in a payload. -/
def ofValue : Value → Except MoveFault Move
  | .array [] => .error (.tooShort 0)
  | .array [x] => do
    let _ ← coordinate x
    .error (.tooShort 1)
  | .array (x :: y :: rest) => do
    let x ← coordinate x
    let y ← coordinate y
    if rest.isEmpty then .ok { x, y } else .error (.tooLong (rest.length + 2))
  | .object members => do
    let x ← memberCoordinate? "x" members
    let y ← memberCoordinate? "y" members
    .ok { x := ← require "x" x, y := ← require "y" y }
  | v => .error (.notAMove v)

/-- The payload of a move. -/
def toJson (m : Move) : Value := .object [("x", .int m.x), ("y", .int m.y)]

end Move

end Parlor.Game
