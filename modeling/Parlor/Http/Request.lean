import Parlor.Http.MediaType
import Parlor.Http.Problem
import Parlor.Http.Query
import Parlor.Text.Blank
import Parlor.Text.Word

/-!
# Requests

A request as it comes in, and what is read off its headers: the caller, whether the body is JSON, and
whether a websocket is asked for in the right way.
-/

namespace Parlor.Http

open Json (Bytes)

/-- A request. -/
structure Request where
  method : String
  /-- The path, and the query after a question mark. -/
  target : String
  headers : List (String × Bytes)
  body : Bytes
  /-- Whether the line of the request can be used for a websocket. -/
  isUpgradable : Bool

namespace Request

/-! ## The target -/

/-- The target without a fragment. -/
def address (r : Request) : List Char := r.target.toList.takeWhile (· ≠ '#')

/-- The path of the target. -/
def path (r : Request) : String := String.ofList (r.address.takeWhile (· ≠ '?'))

/-- The query of the target. -/
def query (r : Request) : String := String.ofList (Text.cut '?' r.address).2

/-! ## Headers -/

/-- The lower case of ASCII letters. -/
def lowerAscii (s : String) : String := String.ofList (s.toList.map Char.toLower)

/-- The value of the first header of a name in lower case. -/
def header? (r : Request) (name : String) : Option Bytes :=
  (r.headers.find? fun (given, _) => lowerAscii given == name).map (·.2)

/-- The text of a header of printable ASCII characters. -/
def plainText? (value : Bytes) : Option String :=
  if value.all fun b => b == 0x09 || (0x20 ≤ b && b ≤ 0x7e) then Json.decodeUtf8 value else none

/-- The header that names the caller. -/
def userHeader : String := "x-user-id"

/-- The caller. -/
def user (r : Request) : Except Problem UserId :=
  match r.header? userHeader with
  | none => .error ⟨.unauthorized, "missing user id"⟩
  | some value =>
    match (plainText? value).bind fun text => Text.parseWord? (Text.trim text) with
    | some user => .ok user
    | none => .error ⟨.unauthorized, "invalid user id"⟩

/-- Tests for a body that is declared to be JSON. -/
def hasJsonBody (r : Request) : Bool :=
  match ((r.header? "content-type").bind plainText?).bind MediaType.ofText? with
  | some type => type.isJson
  | none => false

/-! ## Websockets -/

/-- Tests whether a list of characters occurs in another one. -/
def occursIn (part : List Char) : List Char → Bool
  | [] => part.isEmpty
  | c :: rest => part.isPrefixOf (c :: rest) || occursIn part rest

/-- Tests for a header with a value, whatever the case of its letters. -/
def headerIs (r : Request) (name value : String) : Bool :=
  ((r.header? name).bind Json.decodeUtf8).map lowerAscii == some value

/-- Tests for a header in which a word occurs, whatever the case of its letters. -/
def headerMentions (r : Request) (name word : String) : Bool :=
  match ((r.header? name).bind Json.decodeUtf8).map lowerAscii with
  | some value => occursIn word.toList value.toList
  | none => false

/-- The headers by which a client asks for a websocket. -/
def handshakeHeaders : List (String × Bytes) :=
  [("connection", "Upgrade"), ("upgrade", "websocket"), ("sec-websocket-version", "13"),
   ("sec-websocket-key", "dGhlIHNhbXBsZSBub25jZQ==")].map fun (name, value) =>
    (name, Json.encodeUtf8 value)

/-- The status of the answer if no websocket can be made of a request. -/
def upgradeRefusal? (r : Request) : Option Nat :=
  if r.method != "GET" then some 405
  else if !(r.headerMentions "connection" "upgrade" && r.headerIs "upgrade" "websocket"
      && (r.header? "sec-websocket-key").isSome && r.headerIs "sec-websocket-version" "13") then some 400
  else if !r.isUpgradable then some 426
  else none

end Request

end Parlor.Http
