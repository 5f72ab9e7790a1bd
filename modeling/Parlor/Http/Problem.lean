import Parlor.Failure
import Parlor.Json.Printer

/-!
# Problems

What a caller over HTTP is told when a request is not fulfilled: a status, a code for programs and a
sentence for people.
-/

namespace Parlor.Http

open Json

/-- The kinds of problems. -/
inductive ProblemKind where
  | notFound
  | badRequest
  | unauthorized
  | forbidden
  | conflict
  | internal
  deriving DecidableEq, Repr

namespace ProblemKind

/-- The status of the answer. -/
def status : ProblemKind → Nat
  | .badRequest => 400
  | .unauthorized => 401
  | .forbidden => 403
  | .notFound => 404
  | .conflict => 409
  | .internal => 500

/-- The code for programs. -/
def code : ProblemKind → String
  | .notFound => "NOT_FOUND"
  | .badRequest => "BAD_REQUEST"
  | .unauthorized => "UNAUTHORIZED"
  | .forbidden => "FORBIDDEN"
  | .conflict => "CONFLICT"
  | .internal => "INTERNAL_ERROR"

/-- The beginning of the sentence for people. -/
def title : ProblemKind → String
  | .notFound => "Resource not found"
  | .badRequest => "Bad request"
  | .unauthorized => "Unauthorized"
  | .forbidden => "Forbidden"
  | .conflict => "Conflict"
  | .internal => "Internal server error"

/-- The name of a kind. -/
def name : ProblemKind → String
  | .notFound => "not_found"
  | .badRequest => "bad_request"
  | .unauthorized => "unauthorized"
  | .forbidden => "forbidden"
  | .conflict => "conflict"
  | .internal => "internal"

/-- The kind of a name. -/
def ofName? (name : String) : Option ProblemKind :=
  [notFound, badRequest, unauthorized, forbidden, conflict, internal].find? (·.name = name)

end ProblemKind

/-- A request that is not fulfilled, and why. -/
structure Problem where
  kind : ProblemKind
  detail : String
  deriving DecidableEq, Repr

namespace Problem

/-- The sentence for people. -/
def message (p : Problem) : String := p.kind.title ++ ": " ++ p.detail

/-- The body of the answer. -/
def body (p : Problem) : String :=
  (Value.object [("error", .string p.message), ("code", .string p.kind.code)]).text

/-- The kind of problem that a failed operation is. -/
def kindOf : Failure → ProblemKind
  | .roomFull | .peerLimit _ _ | .notJoinable | .creatorCannotJoin => .conflict
  | .roomNotFound _ => .notFound
  | .notYourTurn | .notParticipant => .forbidden
  | .invalidMove | .invalidMoveFormat | .createOverSocket | .unsupportedGame _ => .badRequest
  | .storage _ | .invalidTransition _ _ => .internal

/-- The problem of a failed operation. -/
def ofFailure (f : Failure) : Problem := ⟨kindOf f, f.clientMessage⟩

/-- The problem of a storage that fails outside of any operation on rooms. -/
def ofStorageFault (f : StorageFault) : Problem := ⟨.internal, f.fullText⟩

end Problem

end Parlor.Http
