import MediaVault.Access.Decision
import MediaVault.Json
import MediaVault.Json.Parser
import MediaVault.Text.Blank
import MediaVault.Url.Origin

/-!
# Asking an authorization service

The question is a JSON document posted to `{base}/v1/access`.  Only a 2xx
answer whose body is a decision grants anything; every other outcome is an
error.
-/

namespace MediaVault.RemoteAccess

/-- The endpoint below a base URL. -/
def endpoint (base : String) : String :=
  Text.trimSlashes base ++ "/v1/access"

/-- The question about a token. -/
def question (token : String) (target : AccessTarget) : Json :=
  .object
    [("token", .text token),
      ("resource", .object (("kind", .text target.kind) ::
        match target.id? with
        | some id => [("id", .text id)]
        | none => []))]

/-- An answer of the service. -/
structure Reply where
  status : Nat
  body : ByteArray

/-- Why no answer came. -/
inductive TransportError where
  /-- The address cannot be read. -/
  | badAddress
  /-- The address cannot be reached by HTTP. -/
  | badScheme (address : String)
  /-- The service did not answer. -/
  | unreachable (reason : String)
deriving Repr, DecidableEq

namespace TransportError

/-- The wording of a transport error. -/
def message : TransportError → String
  | badAddress => "builder error"
  | badScheme address => "builder error for url (" ++ address ++ ")"
  | unreachable reason => reason

end TransportError

/-- Posts JSON to an address. -/
abbrev Transport (m : Type → Type) := (address : String) → Json → m (Except TransportError Reply)

/-- The identity that a value states: `null` or a text. -/
def readIdentity : Json.Leaf → Option (Option String)
  | .null => some none
  | .text identity => some (some identity)
  | _ => none

/-- The decision that a document states.  Members that say nothing about it are
ignored, but none of the others may be repeated. -/
def decisionOf? : Json.Outline → Option AccessDecision
  | .object members =>
    let named (name : String) := members.filter (·.1 == name)
    match named "allowed", named "identity" with
    | [(_, .bool allowed)], [] => some ⟨allowed, none⟩
    | [(_, .bool allowed)], [(_, identity)] =>
      (readIdentity identity).map fun identity => ⟨allowed, identity⟩
    | _, _ => none
  | .list [.bool allowed] => some ⟨allowed, none⟩
  | .list [.bool allowed, identity] =>
    (readIdentity identity).map fun identity => ⟨allowed, identity⟩
  | _ => none

/-- The usual words for a status. -/
def statusWords (status : Nat) : String :=
  match status with
  | 100 => "Continue" | 101 => "Switching Protocols" | 102 => "Processing"
  | 103 => "Early Hints" | 200 => "OK"
  | 201 => "Created" | 202 => "Accepted" | 203 => "Non Authoritative Information"
  | 204 => "No Content" | 205 => "Reset Content" | 206 => "Partial Content"
  | 207 => "Multi-Status" | 208 => "Already Reported" | 226 => "IM Used"
  | 300 => "Multiple Choices" | 301 => "Moved Permanently" | 302 => "Found"
  | 303 => "See Other" | 304 => "Not Modified" | 305 => "Use Proxy"
  | 307 => "Temporary Redirect" | 308 => "Permanent Redirect" | 400 => "Bad Request"
  | 401 => "Unauthorized" | 402 => "Payment Required" | 403 => "Forbidden" | 404 => "Not Found"
  | 405 => "Method Not Allowed" | 406 => "Not Acceptable"
  | 407 => "Proxy Authentication Required" | 408 => "Request Timeout" | 409 => "Conflict"
  | 410 => "Gone" | 411 => "Length Required" | 412 => "Precondition Failed"
  | 413 => "Payload Too Large" | 414 => "URI Too Long" | 415 => "Unsupported Media Type"
  | 416 => "Range Not Satisfiable" | 417 => "Expectation Failed" | 418 => "I'm a teapot"
  | 421 => "Misdirected Request" | 422 => "Unprocessable Entity" | 423 => "Locked"
  | 424 => "Failed Dependency" | 425 => "Too Early" | 426 => "Upgrade Required"
  | 428 => "Precondition Required" | 429 => "Too Many Requests"
  | 431 => "Request Header Fields Too Large" | 451 => "Unavailable For Legal Reasons"
  | 500 => "Internal Server Error" | 501 => "Not Implemented" | 502 => "Bad Gateway"
  | 503 => "Service Unavailable" | 504 => "Gateway Timeout" | 505 => "HTTP Version Not Supported"
  | 506 => "Variant Also Negotiates" | 507 => "Insufficient Storage" | 508 => "Loop Detected"
  | 510 => "Not Extended" | 511 => "Network Authentication Required"
  | _ => "<unknown status code>"

/-- What an answer of the service means. -/
def judge (reply : Reply) : Except AccessError AccessDecision :=
  if reply.status = 401 then .error .invalidCredentials
  else if 200 ≤ reply.status ∧ reply.status < 300 then
    match (Json.ofBytes? reply.body).bind decisionOf? with
    | some decision => .ok decision
    | none =>
      .error (.unavailable "unable to decode decision: error decoding response body")
  else
    .error (.unavailable
      ("status " ++ toString reply.status ++ " " ++ statusWords reply.status))

/-- Why an address cannot be posted to, before anything is sent. -/
def addressError? (address : String) : Option TransportError :=
  match Url.parse address.toList with
  | .error _ => some .badAddress
  | .ok url =>
    if url.host.isSome ∧ (url.scheme = "http" ∨ url.scheme = "https") then none
    else some (.badScheme address)

variable {m : Type → Type} [Monad m]

/-- The service's decision about a token. -/
def check (post : Transport m) (base token : String) (target : AccessTarget) :
    ExceptT AccessError m AccessDecision :=
  ExceptT.mk do
    match addressError? (endpoint base) with
    | some e => pure (.error (.unavailable e.message))
    | none =>
      match ← post (endpoint base) (question token target) with
      | .error e => pure (.error (.unavailable e.message))
      | .ok reply => pure (judge reply)

/-- The authorizer that asks the service at a base URL. -/
def authorizer (post : Transport m) (base : String) : Authorizer m := fun token target => do
  match ← (check post base token target).run with
  | .ok decision => pure (.decided decision)
  | .error e => pure (.failed e)

end MediaVault.RemoteAccess
