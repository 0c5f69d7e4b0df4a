import MediaVault.Proofs.Access.Permission
import MediaVault.Proofs.Api.Forms
import MediaVault.Proofs.Media.Service
import MediaVault.Proofs.Object.Key

/-!
# What handlers do

Each handler that writes has a lemma `…_ends`: it is refused and changes
nothing, or every check was passed and exactly the object named by the checked
path changed.  All other handlers are quiet.
-/

namespace MediaVault

/-- The gateway of a site, with an authorizer that answers by a function. -/
def Site.gateway (site : Site) (faults : Faults) (now : Timestamp)
    (judge : String → AccessTarget → Verdict) : Gateway (StateM Contents) where
  media := site.media faults now
  authorizer := Permission.authorizerOf judge
  maxUploadBytes := site.maxUploadBytes

/-- The gateway of a service, with an authorizer that answers by a function. -/
def Gateway.over {σ : Type} (media : MediaService (StateM σ))
    (judge : String → AccessTarget → Verdict) (limit : Nat) : Gateway (StateM σ) where
  media := media
  authorizer := Permission.authorizerOf judge
  maxUploadBytes := limit

/-- The refusal is reported as one. -/
def Refusal.IsFailure (refusal : Refusal) : Prop :=
  refusal.toResponse.isSuccess = false

namespace Gateway

/-! ## Reading the request -/

section Reading

theorem pathParam_settled (name raw : String) :
    Settled Refusal.IsFailure (fun text => Percent.decodeText? raw = some text) fun _ =>
      pathParam name raw := by
  simp only [pathParam, BadPathParam.decode]
  cases Percent.decodeText? raw with
  | some text => exact settled_pure rfl
  | none => exact settled_throw rfl

theorem token_settled (request : Request) :
    Settled Refusal.IsFailure (fun caller => Token.ofRequest? request = some caller) fun _ =>
      token request := by
  simp only [token]
  cases Token.ofRequest? request with
  | some caller => exact settled_pure rfl
  | none => exact settled_throw rfl

theorem boundary_settled (request : Request) :
    Settled Refusal.IsFailure (fun separator => Multipart.boundary? request = some separator)
      fun _ => boundary request := by
  simp only [boundary]
  cases Multipart.boundary? request with
  | some separator => exact settled_pure rfl
  | none => exact settled_throw rfl

theorem expiry_settled (request : Request) :
    Settled Refusal.IsFailure (fun _ => True) fun _ => expiry request := by
  simp only [expiry]
  cases Query.param "expires" request.query? with
  | ok raw => exact settled_pure trivial
  | error duplicate => exact settled_throw rfl

theorem requireSafe_settled (segments : List String) :
    Settled Refusal.IsFailure (fun _ => ∀ segment ∈ segments, Segment.IsPlain segment) fun _ =>
      requireSafe segments := by
  simp only [requireSafe, safe]
  cases refused : Segment.firstUnsafe? segments with
  | none =>
    refine settled_pure fun segment member => Segment.isSafe_iff.mp ?_
    exact Segment.isSafe_of_firstUnsafe?_eq_none refused segment member
  | some bad => exact settled_throw rfl

theorem keyOf_settled (resource : Resource) :
    Settled Refusal.IsFailure (fun key => key = resource.key ∧ resource.IsPlain) fun _ =>
      keyOf resource :=
  (requireSafe_settled _).bind fun _ plain => settled_pure ⟨rfl, plain⟩

theorem postFile_settled (rawPost rawFile : String) :
    Settled Refusal.IsFailure (fun _ => True) fun _ => postFile rawPost rawFile :=
  (pathParam_settled _ _).bind fun _ _ => (pathParam_settled _ _).bind fun _ _ =>
    settled_pure trivial

theorem profileImage_settled (rawUser : String) :
    Settled Refusal.IsFailure (fun _ => True) fun _ => profileImage rawUser :=
  (pathParam_settled _ _).bind fun _ _ => settled_pure trivial

end Reading

/-! ## Asking the authorizer -/

section Asking

variable {judge : String → AccessTarget → Verdict} {caller : String}

theorem ask_settled {target : AccessTarget} :
    Settled Refusal.IsFailure (fun decision => judge caller target = .decided decision) fun _ =>
      Permission.ask (Permission.authorizerOf judge) caller target := by
  refine ⟨Permission.answered (judge caller target), ?_, fun σ state =>
    Permission.ask_ends (Permission.run_authorizerOf rfl state)⟩
  cases judge caller target with
  | decided decision => rfl
  | failed error => cases error <;> rfl
  | silent => rfl

theorem identity_settled :
    Settled Refusal.IsFailure
      (fun user => judge caller .authenticated =
        .decided { allowed := true, identity := some user })
      fun _ => Permission.identity (Permission.authorizerOf judge) caller := by
  refine ask_settled.bind fun ⟨allowed, found⟩ verdict => ?_
  cases allowed with
  | false => exact settled_throw rfl
  | true =>
    cases found with
    | none => exact settled_throw rfl
    | some user => exact settled_pure verdict

theorem postEdit_settled {postId : String} :
    Settled Refusal.IsFailure
      (fun _ => ∃ owner, judge caller (.editPost postId) =
        .decided { allowed := true, identity := owner })
      fun _ => Permission.postEdit (Permission.authorizerOf judge) caller postId := by
  refine ask_settled.bind fun ⟨allowed, owner⟩ verdict => ?_
  cases allowed with
  | true => exact settled_pure ⟨owner, verdict⟩
  | false => exact settled_throw rfl

theorem owner_settled {userId : String} :
    Settled Refusal.IsFailure
      (fun _ => judge caller .authenticated =
        .decided { allowed := true, identity := some userId })
      fun _ => Permission.owner (Permission.authorizerOf judge) caller userId := by
  refine identity_settled.bind fun found verdict => ?_
  by_cases same : found = userId
  · simp only [if_pos same]
    exact settled_pure (same ▸ verdict)
  · simp only [if_neg same]
    exact settled_throw rfl

end Asking

/-! ## Receiving a form -/

/-- The part that a form offers was read to its end and stored under the key for its
file name. -/
inductive Stored (site : Site) (faults : Faults) (now : Timestamp) (read : Multipart.Reading)
    (admission : Admission) (before : Contents) : String → UploadedObject → Contents → Prop where
  | part (selected : Multipart.Selected) (bytes : ByteArray) {key : String}
      (found : read admission.separator admission.names = .ok (some selected))
      (named : admission.keyFor (selected.head.fileName.getD "") = key)
      (taken : Chunk.collect selected.content = .ok bytes)
      (free : site.obstacle? faults .put key before = none) :
      Stored site faults now read admission before key
        (site.receipt key selected.head.contentType bytes)
        (before.write key (site.written now key selected.head.contentType bytes))

variable {site : Site} {faults : Faults} {now : Timestamp}
  {judge : String → AccessTarget → Verdict} {before after : Contents} {id : Uuid}
  {request : Request} {read : Multipart.Reading} {admission : Admission}

theorem chosen_eq_ok_iff {names : List String}
    {found : Except Multipart.FormError (Option Multipart.Selected)}
    {selected : Multipart.Selected} :
    chosen names found = .ok selected ↔ found = .ok (some selected) := by
  rcases found with error | none | part <;> simp [chosen]

theorem chosen_fails {names : List String}
    {found : Except Multipart.FormError (Option Multipart.Selected)} {error : ApiError}
    (refused : chosen names found = .error error) : Refusal.IsFailure (.error error) := by
  rcases found with malformed | none | part
  · obtain rfl := Except.error.inj refused
    rfl
  · obtain rfl := Except.error.inj refused
    rfl
  · cases refused

/-- A form is refused, or its part is stored and that is the answer. -/
theorem receive_ends {out : Except Refusal Response}
    (h : Ends ((site.gateway faults now judge).receive read admission) before out after) :
    Declined before out after ∨
      ∃ key uploaded, Stored site faults now read admission before key uploaded after ∧
        out = .ok (Response.json admission.status uploaded.toJson) := by
  obtain ⟨inner, ended, rfl⟩ := ends_map_iff.mp h
  cases offered : chosen admission.names (read admission.separator admission.names) with
  | error error =>
    rw [offered] at ended
    obtain ⟨rfl, rfl⟩ := ends_throw_iff.mp ended
    exact .inl ⟨rfl, _, rfl⟩
  | ok selected =>
    rw [offered] at ended
    obtain ⟨inner, uploaded, rfl⟩ := ends_mapError_iff.mp ended
    rcases Site.upload_ends uploaded with ⟨bytes, taken, free, rfl, rfl⟩ | ⟨same, error, rfl⟩
    · exact .inr ⟨_, _, .part selected bytes (chosen_eq_ok_iff.mp offered) rfl taken free, rfl⟩
    · exact .inl ⟨same, _, rfl⟩

theorem receive_fails {m : MediaService (StateM Contents)} {limit : Nat} :
    FailsWith Refusal.IsFailure ((Gateway.over m judge limit).receive read admission) := by
  refine FailsWith.bind ?_ fun uploaded => failsWith_pure _
  cases offered : chosen admission.names (read admission.separator admission.names) with
  | error error => exact failsWith_throw (chosen_fails offered)
  | ok selected =>
    refine failsWith_mapError fun error => ?_
    cases error <;> rfl

/-! ## What a request is granted -/

/-- The caller named a post and may change its attachments. -/
structure MayEdit (judge : String → AccessTarget → Verdict) (request : Request)
    (rawPost postId : String) : Prop where
  decoded : Percent.decodeText? rawPost = some postId
  safe : Segment.isSafe postId = true
  allowed : ∃ caller owner, Token.ofRequest? request = some caller ∧
    judge caller (.editPost postId) = .decided { allowed := true, identity := owner }

/-- The caller named a user and is that user. -/
structure IsOwner (judge : String → AccessTarget → Verdict) (request : Request)
    (rawUser userId : String) : Prop where
  decoded : Percent.decodeText? rawUser = some userId
  safe : Segment.isSafe userId = true
  allowed : ∃ caller, Token.ofRequest? request = some caller ∧
    judge caller .authenticated = .decided { allowed := true, identity := some userId }

/-- The resource that a request may change, once all checks were passed. -/
inductive Granted (judge : String → AccessTarget → Verdict) (id : Uuid) (request : Request) :
    Route → Resource → Prop where
  | attach {rawPost postId : String} (clientName : String) (method : request.method = "POST")
      (may : MayEdit judge request rawPost postId) :
      Granted judge id request (.post rawPost) (.attachment id postId clientName)
  | attachment {rawPost rawFile postId fileName : String}
      (method : request.method = "PUT" ∨ request.method = "DELETE")
      (may : MayEdit judge request rawPost postId)
      (decoded : Percent.decodeText? rawFile = some fileName)
      (safe : Segment.isSafe fileName = true) :
      Granted judge id request (.postFile rawPost rawFile) (.postFile postId fileName)
  | profile {rawUser userId : String}
      (method : request.method = "POST" ∨ request.method = "PUT" ∨ request.method = "DELETE")
      (owner : IsOwner judge request rawUser userId) :
      Granted judge id request (.profile rawUser) (.profileImage userId)

/-- What a granted upload stores, once its form has a boundary. -/
def granting (request : Request) (route : Route) (naming : String → Resource)
    (separator : String) : Admission where
  names := route.fields
  separator := separator
  keyFor clientName := (naming clientName).key
  status := if request.method = "POST" then 201 else 200

/-- The admission of an upload that was granted, whatever the client calls its file. -/
inductive Admitted (judge : String → AccessTarget → Verdict) (id : Uuid) (request : Request)
    (route : Route) : Admission → Prop where
  | intro (naming : String → Resource) (separator : String)
      (target : ∀ clientName, route.target? id clientName = some (naming clientName))
      (granted : ∀ clientName, Granted judge id request route (naming clientName))
      (delimited : Multipart.boundary? request = some separator) :
      Admitted judge id request route (granting request route naming separator)

/-- An upload that passes its checks was granted what it stores. -/
theorem admit_checked {σ : Type} {media : MediaService (StateM σ)} {limit : Nat} {route : Route}
    {checks : ExceptT Refusal (StateM σ) Admission}
    (admitted : (Gateway.over media judge limit).admit? id request route = some checks) :
    Checked Refusal.IsFailure (Admitted judge id request route) checks := by
  have profile {status : Nat} {rawUser : String}
      (method : request.method = "POST" ∨ request.method = "PUT")
      (same : status = if request.method = "POST" then 201 else 200) :
      Checked Refusal.IsFailure (Admitted judge id request (.profile rawUser))
        ((Gateway.over media judge limit).admitProfile status request rawUser) := by
    refine (pathParam_settled _ _).checked.bind fun userId user => ?_
    refine (token_settled _).checked.bind fun caller presented => ?_
    refine (boundary_settled _).checked.bind fun separator delimited => ?_
    refine (keyOf_settled _).checked.bind fun key made => ?_
    obtain ⟨named, plain⟩ := made
    refine owner_settled.checked.bind fun _ allowed => ?_
    have safe := Segment.isSafe_iff.mpr (plain userId (by simp [Resource.segments]))
    have owner : IsOwner judge request rawUser userId := ⟨user, safe, caller, presented, allowed⟩
    have target (clientName : String) : (Route.profile rawUser).target? id clientName =
        some (.profileImage userId) := by
      rw [Route.target?, user, Option.map_some]
    rw [named, same]
    exact checked_pure (.intro (fun _ => .profileImage userId) separator target
      (fun _ => .profile (method.imp_right .inl) owner) delimited)
  cases admit?_eq_some_iff.mp admitted with
  | @attachment rawPost method =>
    refine (pathParam_settled _ _).checked.bind fun postId post => ?_
    refine (token_settled _).checked.bind fun caller presented => ?_
    refine (boundary_settled _).checked.bind fun separator delimited => ?_
    refine (requireSafe_settled _).checked.bind fun _ plain => ?_
    refine postEdit_settled.checked.bind fun _ judged => ?_
    obtain ⟨owner, allowed⟩ := judged
    have safe := Segment.isSafe_iff.mpr (plain postId List.mem_cons_self)
    have may : MayEdit judge request rawPost postId :=
      ⟨post, safe, caller, owner, presented, allowed⟩
    have target (clientName : String) : (Route.post rawPost).target? id clientName =
        some (.attachment id postId clientName) := by
      rw [Route.target?, post, Option.map_some]
    have created : (if request.method = "POST" then 201 else 200) = 201 := if_pos method
    rw [← created]
    exact checked_pure (.intro (Resource.attachment id postId) separator target
      (fun clientName => .attach clientName method may) delimited)
  | @replacement rawPost rawFile method =>
    refine (pathParam_settled _ _).checked.bind fun postId post => ?_
    refine (pathParam_settled _ _).checked.bind fun fileName file => ?_
    refine (token_settled _).checked.bind fun caller presented => ?_
    refine (boundary_settled _).checked.bind fun separator delimited => ?_
    refine (keyOf_settled _).checked.bind fun key made => ?_
    obtain ⟨named, plain⟩ := made
    refine postEdit_settled.checked.bind fun _ judged => ?_
    obtain ⟨owner, allowed⟩ := judged
    have safe_post := Segment.isSafe_iff.mpr (plain postId (by simp [Resource.segments]))
    have safe_file := Segment.isSafe_iff.mpr (plain fileName (by simp [Resource.segments]))
    have may : MayEdit judge request rawPost postId :=
      ⟨post, safe_post, caller, owner, presented, allowed⟩
    have target (clientName : String) : (Route.postFile rawPost rawFile).target? id clientName =
        some (.postFile postId fileName) := by
      rw [Route.target?, post, file, Option.bind_some, Option.map_some]
    have replaced : (if request.method = "POST" then 201 else 200) = 200 := by
      rw [method]
      rfl
    rw [named, ← replaced]
    exact checked_pure (.intro (fun _ => .postFile postId fileName) separator target
      (fun _ => .attachment (.inl method) may file safe_file) delimited)
  | newProfile method => exact profile (.inl method) (if_pos method).symm
  | profile method => exact profile (.inr method) (by rw [method]; rfl)

/-! ## Deleting -/

theorem storeAction_quiet {α : Type} {action : ExceptT StorageError (StateM Contents) α}
    (quiet : Quiet action) : Quiet (storeAction action) :=
  quiet.mapError _

/-- Handlers end by answering that the object under a key is gone. -/
theorem dropped_of_delete {key : String} {out : Except Refusal Response}
    (h : Ends (do
      storeAction ((site.gateway faults now judge).media.delete key)
      pure (ObjectResponse.deleted key)) before out after) :
    Declined before out after ∨
      ∃ object, before.objects[key]? = some object ∧ after = before.drop key ∧
        out = .ok (ObjectResponse.deleted key) := by
  obtain ⟨_, acted, rfl⟩ := ends_map_iff.mp h
  obtain ⟨inner, ended, rfl⟩ := ends_mapError_iff.mp acted
  rcases Site.delete_ends ended with ⟨object, present, rfl, rfl⟩ | ⟨same, error, rfl⟩
  · exact .inr ⟨object, present, rfl, rfl⟩
  · exact .inl ⟨same, _, rfl⟩

theorem deletePostFile_ends {rawPost rawFile : String} {out : Except Refusal Response}
    (method : request.method = "DELETE")
    (h : Ends ((site.gateway faults now judge).deletePostFile request rawPost rawFile) before out
      after) :
    Declined before out after ∨
      ∃ resource object, Granted judge id request (.postFile rawPost rawFile) resource ∧
        before.objects[resource.key]? = some object ∧ after = before.drop resource.key ∧
          out = .ok (ObjectResponse.deleted resource.key) := by
  rcases h.past (pathParam_settled _ _).checked with stopped | ⟨postId, post, h⟩
  · exact .inl stopped
  rcases h.past (pathParam_settled _ _).checked with stopped | ⟨fileName, file, h⟩
  · exact .inl stopped
  rcases h.past (token_settled _).checked with stopped | ⟨caller, presented, h⟩
  · exact .inl stopped
  rcases h.past (keyOf_settled _).checked with stopped | ⟨_, ⟨rfl, plain⟩, h⟩
  · exact .inl stopped
  rcases h.past postEdit_settled.checked with stopped | ⟨_, ⟨owner, allowed⟩, h⟩
  · exact .inl stopped
  rcases dropped_of_delete h with stopped | ⟨object, present, dropped, answer⟩
  · exact .inl stopped
  have safe_post := Segment.isSafe_iff.mpr (plain postId (by simp [Resource.segments]))
  have safe_file := Segment.isSafe_iff.mpr (plain fileName (by simp [Resource.segments]))
  exact .inr ⟨.postFile postId fileName, object, .attachment (.inr method)
    ⟨post, safe_post, caller, owner, presented, allowed⟩ file safe_file, present, dropped, answer⟩

theorem deleteProfile_ends {rawUser : String} {out : Except Refusal Response}
    (method : request.method = "DELETE")
    (h : Ends ((site.gateway faults now judge).deleteProfile request rawUser) before out after) :
    Declined before out after ∨
      ∃ resource object, Granted judge id request (.profile rawUser) resource ∧
        before.objects[resource.key]? = some object ∧ after = before.drop resource.key ∧
          out = .ok (ObjectResponse.deleted resource.key) := by
  rcases h.past (pathParam_settled _ _).checked with stopped | ⟨userId, user, h⟩
  · exact .inl stopped
  rcases h.past (token_settled _).checked with stopped | ⟨caller, presented, h⟩
  · exact .inl stopped
  rcases h.past (keyOf_settled _).checked with stopped | ⟨_, ⟨rfl, plain⟩, h⟩
  · exact .inl stopped
  rcases h.past owner_settled.checked with stopped | ⟨_, allowed, h⟩
  · exact .inl stopped
  rcases dropped_of_delete h with stopped | ⟨object, present, dropped, answer⟩
  · exact .inl stopped
  have safe := Segment.isSafe_iff.mpr (plain userId (by simp [Resource.segments]))
  exact .inr ⟨.profileImage userId, object, .profile (.inr (.inr method))
    ⟨user, safe, caller, presented, allowed⟩, present, dropped, answer⟩

/-! ## Reading -/

theorem getObject_quiet {target : ExceptT Refusal (StateM Contents) Resource}
    (named : Quiet target) : Quiet ((site.gateway faults now judge).getObject target) :=
  named.bind fun _ => (keyOf_settled _).quiet.bind fun _ =>
    (storeAction_quiet Site.open_quiet).bind fun _ => quiet_pure _

theorem headObject_quiet {target : ExceptT Refusal (StateM Contents) Resource}
    (named : Quiet target) : Quiet ((site.gateway faults now judge).headObject request target) :=
  named.bind fun _ => (token_settled _).quiet.bind fun _ => (keyOf_settled _).quiet.bind fun _ =>
    identity_settled.quiet.bind fun _ =>
      (storeAction_quiet Site.stat_quiet).bind fun _ => quiet_pure _

theorem objectMeta_quiet {target : ExceptT Refusal (StateM Contents) Resource}
    (named : Quiet target) : Quiet ((site.gateway faults now judge).objectMeta request target) :=
  named.bind fun _ => (expiry_settled _).quiet.bind fun _ => (keyOf_settled _).quiet.bind fun _ =>
    (storeAction_quiet Site.describe_quiet).bind fun _ => quiet_pure _

theorem objectUrl_quiet {target : ExceptT Refusal (StateM Contents) Resource}
    (named : Quiet target) : Quiet ((site.gateway faults now judge).objectUrl request target) :=
  named.bind fun _ => (expiry_settled _).quiet.bind fun _ => (keyOf_settled _).quiet.bind fun _ =>
    (storeAction_quiet Site.deliveryUrl_quiet).bind fun _ => quiet_pure _

theorem listPostFiles_quiet {rawPost : String} :
    Quiet ((site.gateway faults now judge).listPostFiles request rawPost) :=
  (pathParam_settled _ _).quiet.bind fun _ => (token_settled _).quiet.bind fun _ =>
    (requireSafe_settled _).quiet.bind fun _ => identity_settled.quiet.bind fun _ =>
      (storeAction_quiet Site.list_quiet).bind fun _ => quiet_pure _

end Gateway

end MediaVault
