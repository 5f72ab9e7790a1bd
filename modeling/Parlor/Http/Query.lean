import Parlor.Text.Split
import Parlor.Text.Utf8

/-!
# Addresses

The percent encoding of paths and queries, and the fields of a query.
-/

namespace Parlor.Http

open Json (Bytes)

/-- Replaces every percent sign before two hexadecimal digits by the byte that the digits write. -/
def percentDecode : Bytes → Bytes
  | 0x25 :: a :: b :: rest =>
    match Json.hexValue? a, Json.hexValue? b with
    | some high, some low => UInt8.ofNat (16 * high + low) :: percentDecode rest
    | _, _ => 0x25 :: percentDecode (a :: b :: rest)
  | b :: rest => b :: percentDecode rest
  | [] => []

/-- The text that a part of a path writes, if it is one. -/
def decodeSegment? (segment : String) : Option String :=
  Json.decodeUtf8 (percentDecode (Json.encodeUtf8 segment))

/-- The text that a name or a value of a query writes, where a plus sign is a space. -/
def decodeComponent (component : Bytes) : String :=
  Text.decodeLossy (percentDecode (component.map fun b => if b = 0x2b then 0x20 else b))

/-- The fields of a query in their order. -/
def queryFields (query : String) : List (String × String) :=
  ((Text.split 0x26 (Json.encodeUtf8 query)).filter (!·.isEmpty)).map fun field =>
    let (name, value) := Text.cut 0x3d field
    (decodeComponent name, decodeComponent value)

/-- The value of a field, which may be missing; none if the field is given more than once. -/
def queryValue? (name : String) (fields : List (String × String)) : Option (Option String) :=
  match fields.filter (·.1 == name) with
  | [] => some none
  | [(_, value)] => some (some value)
  | _ => none

end Parlor.Http
