import MediaVault.Json
import MediaVault.Http.Bytes
import MediaVault.Text.Letters

/-!
# Requests and responses

A request target splits into a path and an optional query; a fragment is
dropped.  Header names compare without regard to letter case.  A body is the
bytes that arrive and, when it breaks off, the reason.
-/

namespace MediaVault

/-- A header with its raw value. -/
abbrev RawHeader := String × ByteArray

/-- The payload of a request, which may break off. -/
structure RequestBody where
  bytes : ByteArray := ByteArray.empty
  failure : Option String := none
deriving Inhabited

/-- A request. -/
structure Request where
  method : String
  target : String
  headers : List RawHeader := []
  body : RequestBody := {}
deriving Inhabited

namespace Request

/-- The target without its fragment. -/
def withoutFragment (target : List Char) : List Char :=
  target.takeWhile (· != '#')

/-- The part of the target before the query. -/
def path (request : Request) : String :=
  String.ofList ((withoutFragment request.target.toList).takeWhile (· != '?'))

/-- The part of the target after the first question mark. -/
def query? (request : Request) : Option String :=
  (Text.cutAt '?' (withoutFragment request.target.toList)).map fun halves =>
    String.ofList halves.2

/-- The value of the first header with this name. -/
def header? (request : Request) (name : String) : Option ByteArray :=
  (request.headers.find? fun header => Text.sameIgnoringCase header.1 name).map (·.2)

end Request

namespace HeaderValue

/-- A byte that may stand in a header value. -/
def isAllowed (b : UInt8) : Bool :=
  b == 0x09 || (0x20 ≤ b && b != 0x7F)

/-- A byte that counts as readable text. -/
def isReadable (b : UInt8) : Bool :=
  b == 0x09 || (0x20 ≤ b && b < 0x7F)

/-- The text, when it may stand in a header. -/
def ofText? (s : String) : Option String :=
  if (Text.utf8 s).all isAllowed then some s else none

/-- A value as text, when all of it is readable ASCII. -/
def text? (value : ByteArray) : Option String :=
  let bytes := Bytes.list value
  if bytes.all isReadable then some (String.ofList (bytes.map fun b => Char.ofNat b.toNat))
  else none

end HeaderValue

/-- What a response carries. -/
inductive Content where
  | empty
  | text (value : String)
  | json (value : Json)
  | bytes (value : ByteArray)
deriving Inhabited

namespace Content

/-- The bytes on the wire. -/
def toBytes : Content → ByteArray
  | empty => ByteArray.empty
  | text value => value.toUTF8
  | json value => value.compact.toUTF8
  | bytes value => value

end Content

/-- A response; header names are in lower case. -/
structure Response where
  status : Nat
  headers : List (String × String) := []
  content : Content := .empty
deriving Inhabited

namespace Response

/-- The value of a header. -/
def header? (response : Response) (name : String) : Option String :=
  (response.headers.find? (·.1 == name)).map (·.2)

/-- A 2xx status. -/
def isSuccess (response : Response) : Bool :=
  200 ≤ response.status && response.status < 300

/-- A JSON answer. -/
def json (status : Nat) (value : Json) : Response :=
  { status := status, headers := [("content-type", "application/json")], content := .json value }

/-- An answer in plain text. -/
def text (status : Nat) (value : String) : Response :=
  { status := status, headers := [("content-type", "text/plain; charset=utf-8")]
    content := .text value }

/-- State the length of the content, unless a header already does. -/
def withLength (response : Response) : Response :=
  match response.header? "content-length" with
  | some _ => response
  | none =>
    { response with
      headers := ("content-length", toString response.content.toBytes.size) :: response.headers }

/-- The answer without its content; the headers still describe it. -/
def withoutContent (response : Response) : Response :=
  { response with content := .empty }

end Response

end MediaVault
