import MediaVault.Proofs.Api.Gateway
import MediaVault.Proofs.Api.Route

/-!
# What a request can change

`handleForm_rewrites` inverts all handlers at once: the contents stay as they are,
or the request was granted one resource, exactly the object of this resource was
written or dropped, and the answer is a success.  So a request that is not
answered with success changes nothing, wherever it or its form failed.
-/

namespace MediaVault

namespace Gateway

/-- The object under a key was written or dropped. -/
inductive Touched (before : Contents) (key : String) : Contents → Prop where
  | written (object : StoredObject) : Touched before key (before.write key object)
  | dropped : Touched before key (before.drop key)

/-- The object under a key was replaced by an upload of the site, or dropped. -/
inductive Rewritten (site : Site) (now : Timestamp) (before : Contents) (key : String) :
    Contents → Prop where
  | uploaded (contentType : Option String) (bytes : ByteArray) :
      Rewritten site now before key (before.write key (site.written now key contentType bytes))
  | dropped : Rewritten site now before key (before.drop key)

theorem Rewritten.touched {site : Site} {now : Timestamp} {before after : Contents} {key : String}
    (rewritten : Rewritten site now before key after) : Touched before key after := by
  cases rewritten with
  | uploaded contentType bytes => exact .written _
  | dropped => exact .dropped

theorem Stored.rewritten {site : Site} {faults : Faults} {now : Timestamp}
    {read : Multipart.Reading} {admission : Admission} {before after : Contents} {key : String}
    {uploaded : UploadedObject}
    (stored : Stored site faults now read admission before key uploaded after) :
    Rewritten site now before key after ∧ ∃ clientName, admission.keyFor clientName = key := by
  cases stored with
  | part selected bytes found named taken free => exact ⟨.uploaded _ _, _, named⟩

theorem Touched.created_eq {before after : Contents} {key : String}
    (touched : Touched before key after) : after.created = before.created := by
  cases touched with
  | written object => simp
  | dropped => simp

theorem Touched.elsewhere {before after : Contents} {key other : String}
    (touched : Touched before key after) (differ : other ≠ key) :
    after.objects[other]? = before.objects[other]? := by
  cases touched with
  | written object => simp [Ne.symm differ]
  | dropped => simp [Ne.symm differ]

/-! ## Requests and handlers -/

/-- The answer to `HEAD` and the length that is stated leave the status alone. -/
theorem isSuccess_finish (method : String) (response : Response) :
    (finish method response).isSuccess = response.isSuccess := by
  have sized : response.withLength.isSuccess = response.isSuccess := by
    rw [Response.withLength]
    split <;> rfl
  rw [finish]
  split
  · exact sized
  · exact sized

/-- A request is answered by a handler, or it leads nowhere and is refused. -/
theorem answer_ends {σ : Type} (request : Request)
    (handler : Route → ExceptT Refusal (StateM σ) Response) (before : σ) :
    let run := (answer request handler).run before
    (run.2 = before ∧ run.1.isSuccess = false) ∨
      ∃ route out, Route.ofPath request.path = some route ∧
        route.methods.contains request.method = true ∧ Ends (handler route) before out run.2 ∧
        run.1 = finish request.method (settle out) := by
  intro run
  cases found : Route.ofPath request.path with
  | none =>
    have ran : run = (({ status := 404 } : Response), before) := by
      simp only [run, answer, found]
      rfl
    refine .inl ⟨congrArg Prod.snd ran, ?_⟩
    rw [ran]
    rfl
  | some route =>
    by_cases known : route.methods.contains request.method = true
    · have ran : run = (finish request.method (settle ((handler route).run.run before).1),
          ((handler route).run.run before).2) := by
        simp only [run, answer, found, if_pos known]
        rfl
      refine .inr ⟨route, _, rfl, known, ?_, congrArg Prod.fst ran⟩
      rw [ran]
      exact ends_self _ before
    · have ran : run = (finish request.method (methodNotAllowed route), before) := by
        simp only [run, answer, found, if_neg known]
        rfl
      refine .inl ⟨congrArg Prod.snd ran, ?_⟩
      rw [ran, isSuccess_finish]
      rfl

theorem respondBy_ends {σ : Type} (gateway : Gateway (StateM σ)) (id : Uuid) (request : Request)
    (form : Option Multipart.Reading) (before : σ) :
    let run := (gateway.respondBy id request form).run before
    (run.2 = before ∧ run.1.isSuccess = false) ∨
      ∃ route out, Route.ofPath request.path = some route ∧
        route.methods.contains request.method = true ∧
        Ends (gateway.handleForm id request (request.reading gateway.maxUploadBytes form) route)
          before out run.2 ∧
        run.1 = finish request.method (settle out) := by
  rw [respondBy_eq]
  exact answer_ends request _ before

/-! ## The resource that is changed -/

variable {site : Site} {faults : Faults} {now : Timestamp}
  {judge : String → AccessTarget → Verdict} {before after : Contents} {id : Uuid}
  {request : Request} {read : Multipart.Reading} {route : Route} {out : Except Refusal Response}

/-- An upload is refused, or it was granted a name for its file and stored the part it read. -/
theorem handleForm_uploads {checks : ExceptT Refusal (StateM Contents) Admission}
    (admitted : (site.gateway faults now judge).admit? id request route = some checks)
    (h : Ends ((site.gateway faults now judge).handleForm id request read route) before out after) :
    Declined before out after ∨ ∃ admission key uploaded, Admitted judge id request route admission ∧
      Stored site faults now read admission before key uploaded after ∧
      out = .ok (Response.json admission.status uploaded.toJson) := by
  rw [handleForm, admitted] at h
  rcases h.past (admit_checked admitted) with stopped | ⟨admission, passed, h⟩
  · exact .inl stopped
  rcases receive_ends h with stopped | ⟨key, uploaded, stored, answer⟩
  · exact .inl stopped
  · exact .inr ⟨admission, key, uploaded, passed, stored, answer⟩

/-- Without a form nothing is written, so at most the object of a granted resource is gone. -/
theorem handle_drops (formless : (site.gateway faults now judge).admit? id request route = none)
    (h : Ends ((site.gateway faults now judge).handle id request route) before out after) :
    after = before ∨ ∃ resource response, Granted judge id request route resource ∧
      after = before.drop resource.key ∧ out = .ok response ∧ response.isSuccess = true := by
  cases route with
  | liveness => exact .inl (quiet_pure _ _ _ _ h)
  | readiness =>
    have kept := Site.ready_quiet _ _ _ (ends_self (site.media faults now).ready before)
    exact .inl ((Prod.mk.inj h).2.symm.trans kept)
  | post rawPost =>
    simp only [admit?] at formless
    simp only [handle] at h
    split at h
    next method => simp [method] at formless
    next => exact .inl (listPostFiles_quiet _ _ _ h)
  | postFile rawPost rawFile =>
    simp only [admit?] at formless
    simp only [handle] at h
    split at h
    next method => simp [method] at formless
    next method =>
      rcases deletePostFile_ends method h with stopped | ⟨resource, _, granted, _, rfl, rfl⟩
      · exact .inl stopped.same
      · exact .inr ⟨resource, _, granted, rfl, rfl, rfl⟩
    next => exact .inl (headObject_quiet (postFile_settled _ _).quiet _ _ _ h)
    next => exact .inl (getObject_quiet (postFile_settled _ _).quiet _ _ _ h)
  | postFileMeta rawPost rawFile =>
    exact .inl (objectMeta_quiet (postFile_settled _ _).quiet _ _ _ h)
  | postFileUrl rawPost rawFile =>
    exact .inl (objectUrl_quiet (postFile_settled _ _).quiet _ _ _ h)
  | profile rawUser =>
    simp only [admit?] at formless
    simp only [handle] at h
    split at h
    next method => simp [method] at formless
    next method => simp [method] at formless
    next method =>
      rcases deleteProfile_ends method h with stopped | ⟨resource, _, granted, _, rfl, rfl⟩
      · exact .inl stopped.same
      · exact .inr ⟨resource, _, granted, rfl, rfl, rfl⟩
    next => exact .inl (headObject_quiet (profileImage_settled _).quiet _ _ _ h)
    next => exact .inl (getObject_quiet (profileImage_settled _).quiet _ _ _ h)
  | profileMeta rawUser => exact .inl (objectMeta_quiet (profileImage_settled _).quiet _ _ _ h)
  | profileUrl rawUser => exact .inl (objectUrl_quiet (profileImage_settled _).quiet _ _ _ h)

/-- A handler changes nothing, or it rewrites the object of a granted resource
and succeeds, however it reads its form. -/
theorem handleForm_rewrites
    (h : Ends ((site.gateway faults now judge).handleForm id request read route) before out after) :
    after = before ∨ ∃ resource response, Granted judge id request route resource ∧
      Rewritten site now before resource.key after ∧ out = .ok response ∧
      response.isSuccess = true := by
  cases admitted : (site.gateway faults now judge).admit? id request route with
  | none =>
    rw [handleForm, admitted] at h
    rcases handle_drops admitted h with same | ⟨resource, response, granted, rfl, answered⟩
    · exact .inl same
    · exact .inr ⟨resource, response, granted, .dropped, answered⟩
  | some checks =>
    rcases handleForm_uploads admitted h with
      stopped | ⟨_, _, uploaded, ⟨naming, separator, _, granted, _⟩, stored, rfl⟩
    · exact .inl stopped.same
    obtain ⟨rewritten, clientName, rfl⟩ := stored.rewritten
    refine .inr ⟨naming clientName, _, granted clientName, rewritten, rfl, ?_⟩
    -- Creating and replacing differ in the status only, and both are successes.
    rw [granting]
    split <;> rfl

theorem handleForm_changes
    (h : Ends ((site.gateway faults now judge).handleForm id request read route) before out after) :
    after = before ∨ ∃ resource response, Granted judge id request route resource ∧
      Touched before resource.key after ∧ out = .ok response ∧ response.isSuccess = true := by
  rcases handleForm_rewrites h with same | ⟨resource, response, granted, rewritten, answered⟩
  · exact .inl same
  · exact .inr ⟨resource, response, granted, rewritten.touched, answered⟩

/-! ## Failures -/

/-- Whatever fails, and wherever: a request that is not answered with success
leaves the contents as they were, however its form is read and at whatever piece it
breaks off.  So does an upload whose payload breaks off at any piece. -/
theorem failures_change_nothing (site : Site) (faults : Faults) (now : Timestamp)
    (before : Contents) :
    (∀ (judge : String → AccessTarget → Verdict) (id : Uuid) (request : Request)
      (form : Option Multipart.Reading),
      let run := ((site.gateway faults now judge).respondBy id request form).run before
      run.1.isSuccess = false → run.2 = before) ∧
    ∀ (key : String) (contentType : Option String) (body : List Chunk) (error : UploadError),
      let run := ((site.media faults now).upload key contentType body).run.run before
      run.1 = .error error → run.2 = before := by
  constructor
  · intro judge id request form run failed
    rcases respondBy_ends (site.gateway faults now judge) id request form before with
      ⟨same, _⟩ | ⟨route, out, found, _, handled, answer⟩
    · exact same
    rcases handleForm_changes handled with same | ⟨resource, response, _, _, rfl, succeeded⟩
    · exact same
    · -- A handler that changed something succeeded, and so did the answer made of it.
      have answered : run.1.isSuccess = true := by
        rw [answer, isSuccess_finish]
        exact succeeded
      rw [answered] at failed
      cases failed
  · intro key contentType body error run failed
    rcases Site.upload_ends (ends_self _ before) with ⟨bytes, _, _, succeeded, _⟩ | stopped
    · cases failed.symm.trans succeeded
    · exact stopped.same

/-- A new profile image that breaks off leaves the old one in its place, whether its body was
sent without an end or the connection is lost while it is stored. -/
theorem failures_change_nothing_on_broken_body :
    let site : Site :=
      { bucket := "media", cdn := none, publicSigner := none, signer := fun key _ => .ok key
        extract := fun _ _ => none, maxUploadBytes := 1000 }
    let judge : String → AccessTarget → Verdict := fun _ _ =>
      .decided { allowed := true, identity := some "ada" }
    let form := "--B\r\nContent-Disposition: form-data; name=\"file\"\r\n\r\nabc"
    let request : Request :=
      { method := "PUT", target := "/api/v2/storage/profiles/ada/profile?token=t"
        headers := [("content-type", "multipart/form-data; boundary=B".toUTF8)]
        body := { bytes := form.toUTF8 } }
    let torn : Multipart.Reading := fun _ _ =>
      .ok (some ⟨⟨some "file", none, none⟩, [.data "abc".toUTF8, .failed "connection reset"]⟩)
    let before := ({ created := true } : Contents).write "profiles/ada/profile" default
    let run (form : Option Multipart.Reading) :=
      ((site.gateway (fun _ => none) default judge).respondBy default request form).run before
    (run none).1.status = 400 ∧ (run none).2 = before ∧
      (run (some torn)).1.status = 400 ∧ (run (some torn)).2 = before := by
  intro site judge form request torn before run
  have kept {form : Option Multipart.Reading} (answered : (run form).1.status = 400) :
      (run form).2 = before := by
    have failed : (run form).1.isSuccess = false := by
      simp only [Response.isSuccess, answered]
      rfl
    exact (failures_change_nothing _ _ _ _).1 _ _ _ _ failed
  have cut : (run none).1.status = 400 := by decide +kernel
  have lost : (run (some torn)).1.status = 400 := by decide +kernel
  exact ⟨cut, kept cut, lost, kept lost⟩

end Gateway

end MediaVault
