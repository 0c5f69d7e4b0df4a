import MediaVault.Http.Percent
import MediaVault.Text.Letters

/-!
# Routes

All object routes lie under one base path; two health probes lie at the root.
Fixed segments are compared as written, so an escaped spelling of one leads
nowhere.  The segments that name something are decoded later.
-/

namespace MediaVault

/-- What a path leads to; the names in it are still escaped. -/
inductive Route where
  | liveness
  | readiness
  | post (postId : String)
  | postFile (postId fileName : String)
  | postFileMeta (postId fileName : String)
  | postFileUrl (postId fileName : String)
  | profile (userId : String)
  | profileMeta (userId : String)
  | profileUrl (userId : String)
deriving Repr, DecidableEq

namespace Route

/-- The path under which all object routes lie. -/
def base : List Char := "/api/v2/storage/".toList

/-- The route of the segments under the base path.  A name at the end may not
be empty. -/
def ofSegments : List String → Option Route
  | ["posts", postId] => if postId = "" then none else some (.post postId)
  | ["posts", postId, fileName] => if fileName = "" then none else some (.postFile postId fileName)
  | ["posts", postId, fileName, "meta"] => some (.postFileMeta postId fileName)
  | ["posts", postId, fileName, "url"] => some (.postFileUrl postId fileName)
  | ["profiles", userId, "profile"] => some (.profile userId)
  | ["profiles", userId, "profile", "meta"] => some (.profileMeta userId)
  | ["profiles", userId, "profile", "url"] => some (.profileUrl userId)
  | _ => none

/-- The route of a path. -/
def ofPath (path : String) : Option Route :=
  if path = "/healthz" then some .liveness
  else if path = "/readyz" then some .readiness
  else
    (Text.dropLead? base path.toList).bind fun rest =>
      ofSegments ((rest.splitOn '/').map String.ofList)

/-- The methods that a route answers, in the order in which they are
announced. -/
def methods : Route → List String
  | .post _ => ["GET", "HEAD", "POST"]
  | .postFile _ _ => ["GET", "HEAD", "PUT", "DELETE"]
  | .profile _ => ["GET", "HEAD", "POST", "PUT", "DELETE"]
  | _ => ["GET", "HEAD"]

end Route

/-- A name in a path whose bytes are no text. -/
structure BadPathParam where
  name : String
deriving Repr, DecidableEq

namespace BadPathParam

/-- The wording of the error. -/
def message (bad : BadPathParam) : String :=
  "Invalid URL: Invalid UTF-8 in `" ++ bad.name ++ "`"

/-- The text that an escaped name stands for. -/
def decode (name raw : String) : Except BadPathParam String :=
  match Percent.decodeText? raw with
  | some text => .ok text
  | none => .error ⟨name⟩

end BadPathParam

end MediaVault
