import MediaVault.Api.Gateway
import MediaVault.Proofs.Http.Arrival
import MediaVault.Proofs.Run

/-!
# Uploads and the forms they read

An upload passes its checks before it reads its form.  `admit?` takes the two apart, so
that a form can also be read while it arrives; `respondForm_patient` says that read as a
whole it is answered as before.  What is said of `respondBy` holds for both ways.
-/

namespace MediaVault

/-- How the part is found that belongs to one of the wanted fields. -/
abbrev Multipart.Reading :=
  (boundary : String) → (names : List String) → Except FormError (Option Selected)

/-- How the form of a request is read: in the given way, or from the body as a whole. -/
def Request.reading (request : Request) (limit : Nat) (form : Option Multipart.Reading) :
    Multipart.Reading :=
  form.getD fun boundary names => (Multipart.ofBody limit boundary request.body).select names

/-- The fields that an upload on the route looks for. -/
def Route.fields : Route → List String
  | .profile _ => Gateway.profileFields
  | _ => Gateway.attachmentFields

/-- The resource that an upload on the route writes, given the client's name for the file. -/
def Route.target? (id : Uuid) (clientName : String) : Route → Option Resource
  | .post rawPost =>
    (Percent.decodeText? rawPost).map fun postId => .attachment id postId clientName
  | .postFile rawPost rawFile =>
    (Percent.decodeText? rawPost).bind fun postId =>
      (Percent.decodeText? rawFile).map fun fileName => .postFile postId fileName
  | .profile rawUser => (Percent.decodeText? rawUser).map .profileImage
  | _ => none

namespace Gateway

section

variable {m : Type → Type} [Monad m]

/-! ## Reading the form -/

/-- The part that an upload stores; without one the client is told why. -/
def chosen (names : List String) :
    Except Multipart.FormError (Option Multipart.Selected) → Except ApiError Multipart.Selected
  | .error error => .error (ApiError.badRequest ("invalid multipart payload: " ++ error.message))
  | .ok none => .error (missingField names)
  | .ok (some selected) => .ok selected

/-- Store a part, if there is one. -/
def storePart (gateway : Gateway m) (keyFor : String → String) :
    Except ApiError Multipart.Selected → ExceptT Refusal m UploadedObject
  | .error error => throw (.error error)
  | .ok selected =>
    let key := keyFor (selected.head.fileName.getD "")
    ExceptT.mk (return (← (gateway.media.upload key selected.head.contentType
      selected.content).run).mapError fun e => .error (ApiError.ofUpload e))

theorem uploadField_eq (gateway : Gateway m) (names : List String) (separator : String)
    (body : RequestBody) (keyFor : String → String) :
    gateway.uploadField names separator body keyFor =
      gateway.storePart keyFor
        (chosen names ((Multipart.ofBody gateway.maxUploadBytes separator body).select names)) := by
  rw [uploadField, selectPart]
  cases (Multipart.ofBody gateway.maxUploadBytes separator body).select names with
  | error error => rfl
  | ok found => cases found <;> rfl

/-- What an upload may store, once its checks were passed. -/
structure Admission where
  names : List String
  separator : String
  /-- The key for the file name that the client gave. -/
  keyFor : String → String
  /-- The status of a success. -/
  status : Nat

/-- Read the form, and store the part. -/
def receive (gateway : Gateway m) (read : Multipart.Reading) (admission : Admission) :
    ExceptT Refusal m Response := do
  let uploaded ← gateway.storePart admission.keyFor
    (chosen admission.names (read admission.separator admission.names))
  pure (Response.json admission.status uploaded.toJson)

/-! ## Checks -/

/-- The checks of a new attachment. -/
def admitPostFile (gateway : Gateway m) (id : Uuid) (request : Request) (rawPost : String) :
    ExceptT Refusal m Admission := do
  let postId ← pathParam "id" rawPost
  let caller ← token request
  let separator ← boundary request
  requireSafe [postId]
  Permission.postEdit gateway.authorizer caller postId
  pure
    { names := attachmentFields, separator := separator, status := 201
      keyFor := fun clientName => (Resource.attachment id postId clientName).key }

/-- The checks of a replaced attachment. -/
def admitReplacement (gateway : Gateway m) (request : Request) (rawPost rawFile : String) :
    ExceptT Refusal m Admission := do
  let postId ← pathParam "id" rawPost
  let fileName ← pathParam "file_name" rawFile
  let caller ← token request
  let separator ← boundary request
  let key ← keyOf (.postFile postId fileName)
  Permission.postEdit gateway.authorizer caller postId
  pure { names := attachmentFields, separator := separator, keyFor := fun _ => key, status := 200 }

/-- The checks of a profile image. -/
def admitProfile (gateway : Gateway m) (status : Nat) (request : Request) (rawUser : String) :
    ExceptT Refusal m Admission := do
  let userId ← pathParam "user_id" rawUser
  let caller ← token request
  let separator ← boundary request
  let key ← keyOf (.profileImage userId)
  Permission.owner gateway.authorizer caller userId
  pure { names := profileFields, separator := separator, keyFor := fun _ => key, status := status }

/-- The checks of an upload; other requests have no form. -/
def admit? (gateway : Gateway m) (id : Uuid) (request : Request) :
    Route → Option (ExceptT Refusal m Admission)
  | .post rawPost =>
    match request.method with
    | "POST" => some (gateway.admitPostFile id request rawPost)
    | _ => none
  | .postFile rawPost rawFile =>
    match request.method with
    | "PUT" => some (gateway.admitReplacement request rawPost rawFile)
    | _ => none
  | .profile rawUser =>
    match request.method with
    | "POST" => some (gateway.admitProfile 201 request rawUser)
    | "PUT" => some (gateway.admitProfile 200 request rawUser)
    | _ => none
  | _ => none

/-- The uploads there are, with their checks. -/
inductive Admits (gateway : Gateway m) (id : Uuid) (request : Request) :
    Route → ExceptT Refusal m Admission → Prop where
  | attachment {rawPost : String} (method : request.method = "POST") :
      Admits gateway id request (.post rawPost) (gateway.admitPostFile id request rawPost)
  | replacement {rawPost rawFile : String} (method : request.method = "PUT") :
      Admits gateway id request (.postFile rawPost rawFile)
        (gateway.admitReplacement request rawPost rawFile)
  | newProfile {rawUser : String} (method : request.method = "POST") :
      Admits gateway id request (.profile rawUser) (gateway.admitProfile 201 request rawUser)
  | profile {rawUser : String} (method : request.method = "PUT") :
      Admits gateway id request (.profile rawUser) (gateway.admitProfile 200 request rawUser)

theorem admit?_eq_some_iff {gateway : Gateway m} {id : Uuid} {request : Request} {route : Route}
    {checks : ExceptT Refusal m Admission} :
    gateway.admit? id request route = some checks ↔ Admits gateway id request route checks := by
  constructor
  · intro admitted
    cases route with
    | post rawPost =>
      simp only [admit?] at admitted
      split at admitted
      next method => exact Option.some.inj admitted ▸ .attachment method
      next => cases admitted
    | postFile rawPost rawFile =>
      simp only [admit?] at admitted
      split at admitted
      next method => exact Option.some.inj admitted ▸ .replacement method
      next => cases admitted
    | profile rawUser =>
      simp only [admit?] at admitted
      split at admitted
      next method => exact Option.some.inj admitted ▸ .newProfile method
      next method => exact Option.some.inj admitted ▸ .profile method
      next => cases admitted
    | liveness | readiness | postFileMeta | postFileUrl | profileMeta | profileUrl =>
      cases admitted
  · rintro (method | method | method | method) <;> simp only [admit?, method]

theorem writeProfile_eq [LawfulMonad m] (gateway : Gateway m) (status : Nat) (request : Request)
    (rawUser : String) :
    gateway.writeProfile status request rawUser =
      gateway.admitProfile status request rawUser >>= gateway.receive fun separator names =>
        (Multipart.ofBody gateway.maxUploadBytes separator request.body).select names := by
  simp only [writeProfile, admitProfile, uploadField_eq, receive, bind_assoc, pure_bind]

/-- An upload is its checks and then the form, read as a whole. -/
theorem handle_of_admitted [LawfulMonad m] {gateway : Gateway m} {id : Uuid} {request : Request}
    {route : Route} {checks : ExceptT Refusal m Admission}
    (admitted : gateway.admit? id request route = some checks) :
    gateway.handle id request route =
      checks >>= gateway.receive fun separator names =>
        (Multipart.ofBody gateway.maxUploadBytes separator request.body).select names := by
  cases admit?_eq_some_iff.mp admitted with
  | attachment method =>
    simp only [handle, method, uploadPostFile, admitPostFile, uploadField_eq, receive, bind_assoc,
      pure_bind]
  | replacement method =>
    simp only [handle, method, replacePostFile, admitReplacement, uploadField_eq, receive,
      bind_assoc, pure_bind]
  | newProfile method => simp only [handle, method, writeProfile_eq]
  | profile method => simp only [handle, method, writeProfile_eq]

/-! ## Answering -/

/-- Answer a request by the handler of its route. -/
def answer (request : Request) (handler : Route → ExceptT Refusal m Response) : m Response :=
  match Route.ofPath request.path with
  | none => pure { status := 404 }
  | some route =>
    if route.methods.contains request.method then
      return finish request.method (settle (← (handler route).run))
    else pure (finish request.method (methodNotAllowed route))

theorem respond_eq_answer (gateway : Gateway m) (id : Uuid) (request : Request) :
    gateway.respond id request = answer request (gateway.handle id request) := rfl

/-- The answer on a route, with the form of an upload read in the given way. -/
def handleForm (gateway : Gateway m) (id : Uuid) (request : Request) (read : Multipart.Reading)
    (route : Route) : ExceptT Refusal m Response :=
  match gateway.admit? id request route with
  | some checks => checks >>= gateway.receive read
  | none => gateway.handle id request route

/-- Answer a request, with the form of an upload read in the given way. -/
def respondForm (gateway : Gateway m) (id : Uuid) (request : Request) (read : Multipart.Reading) :
    m Response :=
  answer request (gateway.handleForm id request read)

/-- A form that is read from the body of its request is answered as that request. -/
theorem respondForm_body [LawfulMonad m] (gateway : Gateway m) (id : Uuid) (request : Request) :
    (gateway.respondForm id request fun boundary names =>
      (Multipart.ofBody gateway.maxUploadBytes boundary request.body).select names) =
      gateway.respond id request := by
  rw [respondForm, respond_eq_answer]
  congr 1
  funext route
  rw [handleForm]
  cases admitted : gateway.admit? id request route with
  | none => rfl
  | some checks => exact (handle_of_admitted admitted).symm

/-- Answer a request whose form is read in the given way, or from the body as a whole. -/
def respondBy (gateway : Gateway m) (id : Uuid) (request : Request) :
    Option Multipart.Reading → m Response
  | none => gateway.respond id request
  | some read => gateway.respondForm id request read

theorem respondBy_eq [LawfulMonad m] (gateway : Gateway m) (id : Uuid) (request : Request)
    (form : Option Multipart.Reading) :
    gateway.respondBy id request form =
      gateway.respondForm id request (request.reading gateway.maxUploadBytes form) := by
  cases form with
  | none => exact (respondForm_body gateway id request).symm
  | some read => rfl

/-- Read as a whole, a form is answered as the body that it is. -/
theorem respondForm_patient [LawfulMonad m] (gateway : Gateway m) (id : Uuid) {request : Request}
    {frames : List ByteArray} {failure : Option String}
    (body : request.body = { bytes := Bytes.join frames, failure := failure }) :
    (gateway.respondForm id request fun boundary names =>
      Multipart.Reader.patient.select boundary names
        (.limited failure gateway.maxUploadBytes frames)) =
      gateway.respond id request := by
  rw [← respondForm_body, body]
  simp only [Multipart.Reader.select_ofBody]

end

variable {σ : Type} {before : σ} {request : Request}

/-- If the handler of the request keeps an invariant, so does the answer. -/
theorem answer_keeps {inv : σ → Prop} {handler : Route → ExceptT Refusal (StateM σ) Response}
    (keeps : ∀ route, Route.ofPath request.path = some route → request.method ∈ route.methods →
      Keeps inv (handler route))
    (kept : inv before) : inv ((answer request handler).run before).2 := by
  rw [answer]
  split
  next => exact kept
  next route found =>
    split
    next listed =>
      have known : request.method ∈ route.methods := List.contains_iff_mem.mp listed
      exact keeps route found known _ _ _ (ends_self (handler route) before) kept
    next => exact kept

end Gateway

end MediaVault
