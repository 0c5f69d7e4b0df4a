import MediaVault.Http.Message
import MediaVault.Http.Query
import MediaVault.Text.Blank

/-!
# Bearer tokens

A caller's token comes from the first `Authorization` header.  When that is
absent or unusable, the query parameter `token` takes its place, because
browsers cannot set headers for images.
-/

namespace MediaVault.Token

/-- The token in the text of an `Authorization` header. -/
def ofHeaderText? (value : String) : Option String :=
  ((Text.stripLead? "Bearer " value).or (Text.stripLead? "bearer " value)).bind fun rest =>
    Text.nonBlank (Text.trim rest)

/-- The token in the first `Authorization` header. -/
def ofHeaders? (request : Request) : Option String := do
  let value ← request.header? "authorization"
  let text ← HeaderValue.text? value
  ofHeaderText? text

/-- The token in the query, which has to be readable and may not be blank. -/
def ofQuery? (query : Option String) : Option String :=
  match Query.param "token" query with
  | .ok (some token) => Text.nonBlank token
  | _ => none

/-- The caller's token. -/
def ofRequest? (request : Request) : Option String :=
  (ofHeaders? request).or (ofQuery? request.query?)

end MediaVault.Token
