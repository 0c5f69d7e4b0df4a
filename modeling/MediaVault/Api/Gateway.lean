import MediaVault.Access.Permission
import MediaVault.Access.Token
import MediaVault.Api.Objects
import MediaVault.Api.Route

/-!
# The gateway

A gateway joins a media service with an authorizer and answers requests.  In
every handler the order is the same: read the path, the token and the rest of
the head, check the segments, ask the authorizer, and only then touch the
store.
-/

namespace MediaVault

/-- All that is needed to answer requests. -/
structure Gateway (m : Type → Type) where
  media : MediaService m
  authorizer : Authorizer m
  /-- The longest request body that an upload may have. -/
  maxUploadBytes : Nat

namespace Refusal

/-- How a refusal is reported. -/
def toResponse : Refusal → Response
  | .error e => Response.json e.status e.toJson
  | .unreadable status message => Response.text status message
  | .timedOut => { status := 408 }

end Refusal

namespace Gateway

variable {m : Type → Type} [Monad m]

/-! ## Reading a request -/

/-- A name in the path. -/
def pathParam (name raw : String) : ExceptT Refusal m String :=
  match BadPathParam.decode name raw with
  | .ok text => pure text
  | .error bad => throw (.unreadable 400 bad.message)

/-- The caller's token. -/
def token (request : Request) : ExceptT Refusal m String :=
  match Token.ofRequest? request with
  | some token => pure token
  | none => throw (.error (ApiError.unauthorized "missing credentials"))

/-- The boundary of the form in the body. -/
def boundary (request : Request) : ExceptT Refusal m String :=
  match Multipart.boundary? request with
  | some boundary => pure boundary
  | none => throw (.unreadable 400 "Invalid `boundary` for `multipart/form-data` request")

/-- The expiry that the query asks for. -/
def expiry (request : Request) : ExceptT Refusal m Duration :=
  match Query.param "expires" request.query? with
  | .ok raw => pure (Expiry.parse raw)
  | .error duplicate =>
    throw (.unreadable 400 ("Failed to deserialize query string: " ++ duplicate.message))

/-- Refuse segments that could leave their place. -/
def safe (segments : List String) : Except ApiError Unit :=
  match Segment.firstUnsafe? segments with
  | some bad => .error (ApiError.badRequest ("invalid path segment `" ++ bad ++ "`"))
  | none => .ok ()

/-- Refuse segments that could leave their place. -/
def requireSafe (segments : List String) : ExceptT Refusal m Unit :=
  match safe segments with
  | .ok _ => pure ()
  | .error error => throw (.error error)

/-- The key of a resource whose segments are safe. -/
def keyOf (resource : Resource) : ExceptT Refusal m String := do
  requireSafe resource.segments
  pure resource.key

/-- A store action; its failure is reported to the client. -/
def storeAction {α : Type} (action : ExceptT StorageError m α) : ExceptT Refusal m α :=
  ExceptT.mk (return (← action.run).mapError fun e => .error (ApiError.ofStorage e))

/-! ## Uploads -/

/-- No part of the form belongs to the wanted field. -/
def missingField (names : List String) : ApiError :=
  ApiError.badRequest ("missing file field `" ++ names.headD "file" ++ "`")

/-- The first part of the form that belongs to one of the fields. -/
def selectPart (gateway : Gateway m) (names : List String) (boundary : String)
    (body : RequestBody) : Except ApiError Multipart.Selected :=
  match (Multipart.ofBody gateway.maxUploadBytes boundary body).select names with
  | .error error =>
    .error (ApiError.badRequest ("invalid multipart payload: " ++ error.message))
  | .ok none => .error (missingField names)
  | .ok (some selected) => .ok selected

/-- Store the first part of the form that belongs to one of the fields.  The
key may depend on the client's file name. -/
def uploadField (gateway : Gateway m) (names : List String) (boundary : String)
    (body : RequestBody) (keyFor : String → String) : ExceptT Refusal m UploadedObject :=
  match gateway.selectPart names boundary body with
  | .error error => throw (.error error)
  | .ok selected =>
    let key := keyFor (selected.head.fileName.getD "")
    ExceptT.mk (return (← (gateway.media.upload key selected.head.contentType
      selected.content).run).mapError fun e => .error (ApiError.ofUpload e))

/-- The field of a post's attachment. -/
def attachmentFields : List String := ["file"]

/-- The fields of a profile image; older clients send the second one. -/
def profileFields : List String := ["profile_pic", "file"]

/-! ## Health -/

/-- The process runs. -/
def liveness : Response :=
  Response.json 200 (.object [("status", .text "ok")])

/-- The answer of the readiness probe. -/
def readinessOf (outcome : Except StorageError Unit) : Response :=
  let check (ok : Bool) (error : Json) : Json := .object [("ok", .bool ok), ("error", error)]
  match outcome with
  | .ok _ =>
    Response.json 200
      (.object [("status", .text "ok"), ("checks", .object [("bucket", check true .null)])])
  | .error e =>
    Response.json 503
      (.object
        [("status", .text "error"),
          ("checks", .object [("bucket", check false (.text e.message))])])

/-! ## Posts -/

/-- Store a new attachment under a fresh name. -/
def uploadPostFile (gateway : Gateway m) (id : Uuid) (request : Request) (rawPost : String) :
    ExceptT Refusal m Response := do
  let postId ← pathParam "id" rawPost
  let caller ← token request
  let separator ← boundary request
  requireSafe [postId]
  Permission.postEdit gateway.authorizer caller postId
  let uploaded ← gateway.uploadField attachmentFields separator request.body fun clientName =>
    (Resource.attachment id postId clientName).key
  pure (Response.json 201 uploaded.toJson)

/-- Replace an attachment. -/
def replacePostFile (gateway : Gateway m) (request : Request) (rawPost rawFile : String) :
    ExceptT Refusal m Response := do
  let postId ← pathParam "id" rawPost
  let fileName ← pathParam "file_name" rawFile
  let caller ← token request
  let separator ← boundary request
  let key ← keyOf (.postFile postId fileName)
  Permission.postEdit gateway.authorizer caller postId
  let uploaded ← gateway.uploadField attachmentFields separator request.body fun _ => key
  pure (Response.json 200 uploaded.toJson)

/-- List the attachments of a post. -/
def listPostFiles (gateway : Gateway m) (request : Request) (rawPost : String) :
    ExceptT Refusal m Response := do
  let postId ← pathParam "id" rawPost
  let caller ← token request
  requireSafe [postId]
  let _ ← Permission.identity gateway.authorizer caller
  let files ← storeAction (gateway.media.list (Resource.postPrefix postId))
  pure (ObjectResponse.listing files)

/-- Delete an attachment. -/
def deletePostFile (gateway : Gateway m) (request : Request) (rawPost rawFile : String) :
    ExceptT Refusal m Response := do
  let postId ← pathParam "id" rawPost
  let fileName ← pathParam "file_name" rawFile
  let caller ← token request
  let key ← keyOf (.postFile postId fileName)
  Permission.postEdit gateway.authorizer caller postId
  storeAction (gateway.media.delete key)
  pure (ObjectResponse.deleted key)

/-! ## Profile images -/

/-- Store a profile image; creating and replacing differ in the status only. -/
def writeProfile (gateway : Gateway m) (status : Nat) (request : Request) (rawUser : String) :
    ExceptT Refusal m Response := do
  let userId ← pathParam "user_id" rawUser
  let caller ← token request
  let separator ← boundary request
  let key ← keyOf (.profileImage userId)
  Permission.owner gateway.authorizer caller userId
  let uploaded ← gateway.uploadField profileFields separator request.body fun _ => key
  pure (Response.json status uploaded.toJson)

/-- Delete a profile image. -/
def deleteProfile (gateway : Gateway m) (request : Request) (rawUser : String) :
    ExceptT Refusal m Response := do
  let userId ← pathParam "user_id" rawUser
  let caller ← token request
  let key ← keyOf (.profileImage userId)
  Permission.owner gateway.authorizer caller userId
  storeAction (gateway.media.delete key)
  pure (ObjectResponse.deleted key)

/-! ## Reading objects -/

/-- The resource that a path names. -/
def postFile (rawPost rawFile : String) : ExceptT Refusal m Resource := do
  let postId ← pathParam "id" rawPost
  let fileName ← pathParam "file_name" rawFile
  pure (.postFile postId fileName)

/-- The resource that a path names. -/
def profileImage (rawUser : String) : ExceptT Refusal m Resource := do
  pure (.profileImage (← pathParam "user_id" rawUser))

/-- An object with its bytes, for anyone. -/
def getObject (gateway : Gateway m) (target : ExceptT Refusal m Resource) :
    ExceptT Refusal m Response := do
  let key ← keyOf (← target)
  let object ← storeAction (gateway.media.open key)
  pure (ObjectResponse.full object)

/-- The headers of an object, for any valid identity. -/
def headObject (gateway : Gateway m) (request : Request) (target : ExceptT Refusal m Resource) :
    ExceptT Refusal m Response := do
  let resource ← target
  let caller ← token request
  let key ← keyOf resource
  let _ ← Permission.identity gateway.authorizer caller
  let info ← storeAction (gateway.media.stat key)
  pure (ObjectResponse.headOnly info)

/-- The description of an object, for anyone. -/
def objectMeta (gateway : Gateway m) (request : Request) (target : ExceptT Refusal m Resource) :
    ExceptT Refusal m Response := do
  let resource ← target
  let wanted ← expiry request
  let key ← keyOf resource
  let description ← storeAction (gateway.media.describe key wanted)
  pure (Response.json 200 description.toJson)

/-- A delivery URL, for anyone. -/
def objectUrl (gateway : Gateway m) (request : Request) (target : ExceptT Refusal m Resource) :
    ExceptT Refusal m Response := do
  let resource ← target
  let wanted ← expiry request
  let key ← keyOf resource
  let delivery ← storeAction (gateway.media.deliveryUrl key wanted)
  pure (ObjectResponse.deliveryUrl delivery)

/-! ## Answering -/

/-- The answer on a route to a method that the route knows. -/
def handle (gateway : Gateway m) (id : Uuid) (request : Request) :
    Route → ExceptT Refusal m Response
  | .liveness => pure liveness
  | .readiness => ExceptT.lift (return readinessOf (← gateway.media.ready.run))
  | .post postId =>
    match request.method with
    | "POST" => gateway.uploadPostFile id request postId
    | _ => gateway.listPostFiles request postId
  | .postFile postId fileName =>
    match request.method with
    | "PUT" => gateway.replacePostFile request postId fileName
    | "DELETE" => gateway.deletePostFile request postId fileName
    | "HEAD" => gateway.headObject request (postFile postId fileName)
    | _ => gateway.getObject (postFile postId fileName)
  | .postFileMeta postId fileName => gateway.objectMeta request (postFile postId fileName)
  | .postFileUrl postId fileName => gateway.objectUrl request (postFile postId fileName)
  | .profile userId =>
    match request.method with
    | "POST" => gateway.writeProfile 201 request userId
    | "PUT" => gateway.writeProfile 200 request userId
    | "DELETE" => gateway.deleteProfile request userId
    | "HEAD" => gateway.headObject request (profileImage userId)
    | _ => gateway.getObject (profileImage userId)
  | .profileMeta userId => gateway.objectMeta request (profileImage userId)
  | .profileUrl userId => gateway.objectUrl request (profileImage userId)

/-- The outcome of a handler as a response. -/
def settle : Except Refusal Response → Response
  | .ok response => response
  | .error refusal => refusal.toResponse

/-- State the length of a response; the answer to `HEAD` has no content. -/
def finish (method : String) (response : Response) : Response :=
  let sized := response.withLength
  if method = "HEAD" then sized.withoutContent else sized

/-- The answer to a method that the route does not know. -/
def methodNotAllowed (route : Route) : Response :=
  { status := 405, headers := [("allow", ",".intercalate route.methods)] }

/-- Answer a request.  `id` names the object that an upload may create. -/
def respond (gateway : Gateway m) (id : Uuid) (request : Request) : m Response :=
  match Route.ofPath request.path with
  | none => pure { status := 404 }
  | some route =>
    if route.methods.contains request.method then
      return finish request.method (settle (← (gateway.handle id request route).run))
    else pure (finish request.method (methodNotAllowed route))

end Gateway

end MediaVault
