import Parlor.Json.Reader

/-!
# Reading records

A record is written as an object with its fields in any order, or as an array of its fields in
their declared order, of which the last ones may be missing unless they are required.  In an object
the members that are no fields are skipped, and a field may not occur twice.
-/

namespace Parlor.Json

/-- A field of records of type `σ`: its name, and how its value is read into a record. -/
structure RecordField (σ : Type) where
  name : String
  required : Bool
  read : σ → Bytes → Except Fault (σ × Bytes)

namespace RecordField

/-- A field that is read by `read` and stored by `store`. -/
def of {σ α : Type} (name : String) (required : Bool)
    (read : Bytes → Except Fault (α × Bytes)) (store : α → σ → σ) : RecordField σ where
  name := name
  required := required
  read record bs := do
    let (a, rest) ← read bs
    .ok (store a record, rest)

end RecordField

/-- The fault of finding another value than the one asked for, given its first byte. -/
def refusal (b : UInt8) (rest : Bytes) : Fault :=
  if b = 0x5b ∨ b = 0x7b then .mistyped
  else match readScalar b rest with
    | .ok _ => .mistyped
    | .error fault => fault

/-- Reads a string. -/
def readText (bs : Bytes) : Except Fault (String × Bytes) :=
  match skipBlanks bs with
  | [] => .error .truncated
  | b :: rest => if b = 0x22 then readString rest else .error (refusal b rest)

/-- Reads an unsigned 64-bit word. -/
def readUnsigned (bs : Bytes) : Except Fault (UInt64 × Bytes) :=
  match skipBlanks bs with
  | [] => .error .truncated
  | b :: rest => do
    match ← readScalar b rest |>.mapError (fun _ => refusal b rest) with
    | (.number (.integer n), rest) =>
      match wordOfInt? n with
      | some w => .ok (w, rest)
      | none => .error .mistyped
    | _ => .error .mistyped

/-- Reads the members of an object whose containers nest at most `depth` deep, itself included. -/
def readMembers (depth : Nat) (bs : Bytes) : Except Fault (List (String × Value) × Bytes) :=
  match skipBlanks bs with
  | [] => .error .truncated
  | b :: rest =>
    if b = 0x7b then
      match depth with
      | 0 => .error .malformed
      | depth + 1 => readEntries 0x7d (readMember (readValue depth)) [] rest
    else .error (refusal b rest)

/-- Reads a value where `null` stands for none. -/
def readOptional {α : Type} (read : Bytes → Except Fault (α × Bytes)) (bs : Bytes) :
    Except Fault (Option α × Bytes) :=
  match skipBlanks bs with
  | 0x6e :: rest => do .ok (none, ← readWord nullTail rest)
  | bs => do
    let (a, rest) ← read bs
    .ok (some a, rest)

/-- Reads one member of a record, given the record so far and the names of the fields met. -/
def readFieldOf {σ : Type} (fields : List (RecordField σ)) (draft : σ × List String) (bs : Bytes) :
    Except Fault ((σ × List String) × Bytes) := do
  let (name, rest) ← readName bs
  match fields.find? (·.name == name) with
  | none => .ok (draft, ← skipValue (← readColon rest))
  | some field =>
    if draft.2.contains name then .error .mistyped
    else do
      let (record, rest) ← field.read draft.1 (← readColon rest)
      .ok ((record, name :: draft.2), rest)

/-- Reads the elements of a record in array form after the opening bracket. -/
def readPositional {σ : Type} : List (RecordField σ) → (first : Bool) → σ → Bytes →
    Except Fault (σ × Bytes)
  | [], _, record, bs =>
    match skipBlanks bs with
    | [] => .error .truncated
    | b :: rest => if b = 0x5d then .ok (record, rest) else .error .malformed
  | field :: fields, first, record, bs =>
    match skipBlanks bs with
    | [] => .error .truncated
    | b :: rest =>
      if b = 0x5d then
        if (field :: fields).any (·.required) then .error .mistyped else .ok (record, rest)
      else if first then do
        let (record, rest) ← field.read record (b :: rest)
        readPositional fields false record rest
      else if b = 0x2c then
        match skipBlanks rest with
        | [] => .error .truncated
        | c :: rest =>
          if c = 0x5d then .error .malformed
          else do
            let (record, rest) ← field.read record (c :: rest)
            readPositional fields false record rest
      else .error .malformed

/-- Reads a record in either form, starting from the record of missing fields. -/
def readRecord {σ : Type} (fields : List (RecordField σ)) (start : σ) (bs : Bytes) :
    Except Fault (σ × Bytes) :=
  match skipBlanks bs with
  | [] => .error .truncated
  | b :: rest =>
    if b = 0x5b then readPositional fields true start rest
    else if b = 0x7b then do
      let ((record, met), rest) ← readEntries 0x7d (readFieldOf fields) (start, []) rest
      if fields.all (fun field => !field.required || met.contains field.name) then
        .ok (record, rest)
      else .error .mistyped
    else .error (refusal b rest)

end Parlor.Json
