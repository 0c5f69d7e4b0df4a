import MediaVault.Proofs.Api.UploadLimit
import MediaVault.Proofs.Http.Selection

/-!
# Which part an upload stores

All uploads look through their form in the same way, for fields that depend on the route.
`first_field_uploaded` says that the first part of such a field is all that counts: its file
name goes into the key, its type and its bytes are stored, and nothing else in the form shows.
A form without one is refused before anything is asked of the store.
-/

namespace MediaVault

namespace Gateway

/-! ## Forms that agree on the wanted fields -/

section

variable {m : Type → Type} [Monad m] [LawfulMonad m] {request : Request}
  {read other : Multipart.Reading}

theorem boundary_congr {α : Type} {next next₁ : String → ExceptT Refusal m α}
    (same : ∀ separator, Multipart.boundary? request = some separator →
      next separator = next₁ separator) :
    boundary request >>= next = boundary request >>= next₁ := by
  rw [boundary]
  cases declared : Multipart.boundary? request with
  | some separator => simp only [pure_bind, same separator declared]
  | none => exact ExceptT.ext (by simp only [ExceptT.run_bind, ExceptT.run_throw, pure_bind])

/-- Readings that select the same part from the fields of the route are answered alike. -/
theorem handleForm_congr (gateway : Gateway m) (id : Uuid) {route : Route}
    (same : ∀ separator, Multipart.boundary? request = some separator →
      read separator route.fields = other separator route.fields) :
    gateway.handleForm id request read route = gateway.handleForm id request other route := by
  -- What is read is read behind the declared boundary and for the fields of the route.
  have received {names : List String} (fields : names = route.fields) {separator : String}
      (declared : Multipart.boundary? request = some separator) (keyFor : String → String)
      (status : Nat) :
      gateway.receive read ⟨names, separator, keyFor, status⟩ =
        gateway.receive other ⟨names, separator, keyFor, status⟩ := by
    rw [receive, receive, fields, same separator declared]
  have profile (status : Nat) (rawUser : String) (fields : profileFields = route.fields) :
      gateway.admitProfile status request rawUser >>= gateway.receive read =
        gateway.admitProfile status request rawUser >>= gateway.receive other := by
    simp only [admitProfile, bind_assoc, pure_bind]
    exact bind_congr fun _ => bind_congr fun _ => boundary_congr fun _ declared =>
      bind_congr fun _ => bind_congr fun _ => received fields declared _ _
  rw [handleForm, handleForm]
  cases admitted : gateway.admit? id request route with
  | none => rfl
  | some checks =>
    cases admit?_eq_some_iff.mp admitted with
    | attachment =>
      simp only [admitPostFile, bind_assoc, pure_bind]
      exact bind_congr fun _ => bind_congr fun _ => boundary_congr fun _ declared =>
        bind_congr fun _ => bind_congr fun _ => received rfl declared _ _
    | replacement =>
      simp only [admitReplacement, bind_assoc, pure_bind]
      exact bind_congr fun _ => bind_congr fun _ => bind_congr fun _ =>
        boundary_congr fun _ declared => bind_congr fun _ => bind_congr fun _ =>
          received rfl declared _ _
    | newProfile => exact profile 201 _ rfl
    | profile => exact profile 200 _ rfl

theorem respondForm_congr (gateway : Gateway m) (id : Uuid) {route : Route}
    (found : Route.ofPath request.path = some route)
    (same : ∀ separator, Multipart.boundary? request = some separator →
      read separator route.fields = other separator route.fields) :
    gateway.respondForm id request read = gateway.respondForm id request other := by
  rw [respondForm, respondForm, answer, answer, found]
  simp only [handleForm_congr gateway id same]

end

/-! ## Uploads of one form -/

open Multipart (Parts Selected)

section

variable {σ : Type} {media : MediaService (StateM σ)} {judge : String → AccessTarget → Verdict}
  {limit : Nat} {id : Uuid} {request : Request} {route : Route} {form : Parts} {before : σ}

/-- The answer to an upload, as the service ended it. -/
def uploadAnswer (status : Nat) : Except UploadError UploadedObject → Response
  | .ok receipt => Response.json status receipt.toJson
  | .error error => (Refusal.error (ApiError.ofUpload error)).toResponse

theorem receive_of_offers {part : Selected} {after : σ}
    {out : Except UploadError UploadedObject} (gateway : Gateway (StateM σ)) (admission : Admission)
    (offers : form.Offers admission.names part)
    (uploaded : Ends (gateway.media.upload (admission.keyFor (part.head.fileName.getD ""))
      part.head.contentType part.content) before out after) :
    ∃ answer, Ends (gateway.receive (fun _ names => form.select names) admission) before answer
        after ∧
      settle answer = uploadAnswer admission.status out := by
  rw [receive, Parts.select_of_offers offers]
  refine ⟨_, ends_map_iff.mpr ⟨_, ends_mapError_iff.mpr ⟨_, uploaded, rfl⟩, rfl⟩, ?_⟩
  cases out with
  | ok receipt => rfl
  | error error => rfl

/-- A granted upload is the upload of the part that its form offers. -/
theorem respondForm_of_offers {resource : Resource} {part : Selected} {separator : String}
    (found : Route.ofPath request.path = some route)
    (granted : Granted judge id request route resource) (uploads : request.method ≠ "DELETE")
    (delimited : Multipart.boundary? request = some separator)
    (offers : form.Offers route.fields part) :
    ∃ target, route.target? id (part.head.fileName.getD "") = some target ∧
      let uploaded := (media.upload target.key part.head.contentType part.content).run.run before
      let status := if request.method = "POST" then 201 else 200
      ((Gateway.over media judge limit).respondForm id request
          fun _ names => form.select names).run before =
        (finish request.method (uploadAnswer status uploaded.1), uploaded.2) := by
  obtain ⟨naming, named, received, -⟩ := respondForm_of_granted media limit found granted uploads
    (fun _ names => form.select names) before
  obtain ⟨answer, ended, told⟩ := receive_of_offers (Gateway.over media judge limit)
    (granting request route naming separator) offers (ends_self _ before)
  refine ⟨naming (part.head.fileName.getD ""), named _, ?_⟩
  rw [received separator _ _ delimited ended, told]
  rfl

/-! ## Forms that offer nothing -/

theorem admits_of_method {m : Type → Type} [Monad m] (gateway : Gateway m) (id : Uuid)
    {request : Request} {route : Route} (known : request.method ∈ route.methods)
    (uploads : request.method = "POST" ∨ request.method = "PUT") :
    ∃ checks, Admits gateway id request route checks := by
  cases route with
  | post rawPost =>
    rcases uploads with method | method
    · exact ⟨_, .attachment method⟩
    · simp [Route.methods, method] at known
  | postFile rawPost rawFile =>
    rcases uploads with method | method
    · simp [Route.methods, method] at known
    · exact ⟨_, .replacement method⟩
  | profile rawUser =>
    rcases uploads with method | method
    · exact ⟨_, .newProfile method⟩
    · exact ⟨_, .profile method⟩
  | liveness | readiness | postFileMeta | postFileUrl | profileMeta | profileUrl =>
    rcases uploads with method | method <;> simp [Route.methods, method] at known

theorem chosen_of_unoffered {names : List String}
    (passed : ∀ part ∈ form.streams, ¬ part.head.BelongsTo names) (wanted : List String) :
    ∃ error : ApiError, chosen wanted (form.select names) = .error error ∧ error.status = 400 := by
  rw [Parts.select_of_unoffered passed]
  cases form.verdict with
  | some error => exact ⟨_, rfl, rfl⟩
  | none => exact ⟨missingField wanted, rfl, rfl⟩

theorem receive_of_unoffered {names : List String}
    (passed : ∀ part ∈ form.streams, ¬ part.head.BelongsTo names) (gateway : Gateway (StateM σ))
    (admission : Admission) :
    ∃ error : ApiError, error.status = 400 ∧ ∀ before,
      Ends (gateway.receive (fun _ _ => form.select names) admission) before
        (.error (.error error)) before := by
  obtain ⟨error, chooses, blamed⟩ := chosen_of_unoffered passed admission.names
  refine ⟨error, blamed, fun before => ?_⟩
  rw [receive, chooses]
  exact ends_bind_iff.mpr (.inl ⟨_, ends_throw_iff.mpr ⟨rfl, rfl⟩, rfl⟩)

/-- An upload of such a form asks nothing of the store; a granted one is answered with 400. -/
theorem respondForm_of_unoffered (found : Route.ofPath request.path = some route)
    (uploads : request.method = "POST" ∨ request.method = "PUT")
    (passed : ∀ part ∈ form.streams, ¬ part.head.BelongsTo route.fields) :
    let run := ((Gateway.over media judge limit).respondForm id request
      fun _ names => form.select names).run before
    run.2 = before ∧ ∀ resource, Granted judge id request route resource → run.1.status = 400 := by
  -- Only the fields of the route are ever looked for, so the reader may as well know them.
  have same : (Gateway.over media judge limit).respondForm id request
        (fun _ names => form.select names) =
      (Gateway.over media judge limit).respondForm id request fun _ _ => form.select route.fields :=
    respondForm_congr _ id found fun _ _ => rfl
  rw [same]
  refine ⟨?_, fun resource granted => ?_⟩
  · refine @answer_keeps _ _ _ (· = before) _ (fun other leads known => ?_) rfl
    obtain ⟨checks, admits⟩ := admits_of_method (Gateway.over media judge limit) id known uploads
    have admitted := admit?_eq_some_iff.mpr admits
    rw [handleForm, admitted]
    refine ((admit_checked admitted).quiet.bind fun admission before out after ended => ?_).keeps
    obtain ⟨error, -, refuses⟩ := receive_of_unoffered passed _ admission
    exact (Prod.mk.inj (ended.symm.trans (refuses before))).2
  · have keeping : request.method ≠ "DELETE" := by
      rcases uploads with method | method <;> rw [method] <;> decide
    obtain ⟨naming, -, received, refused⟩ := respondForm_of_granted media limit found granted
      keeping (fun _ _ => form.select route.fields) before
    cases delimited : Multipart.boundary? request with
    | none =>
      obtain ⟨refusal, blamed, ended⟩ := refused delimited
      rw [ended]
      exact (Response.status_finish _ _).trans blamed
    | some separator =>
      obtain ⟨error, blamed, refuses⟩ := receive_of_unoffered passed
        (Gateway.over media judge limit) (granting request route naming separator)
      rw [received separator _ _ delimited (refuses before)]
      exact (Response.status_finish _ _).trans blamed

end

/-- The first part of a field of the route is all that counts in the form of an upload.  If the
upload is granted, it is exactly the upload of that part, under the key for its own file name,
and the answer tells how it ended.  Forms that offer the same part are answered alike by any
gateway.  If no part belongs to the fields, nothing is asked of the store, whatever its state
records, and a granted upload is answered with 400.  When the form is what is read from the
body, this is how the request is answered. -/
theorem first_field_uploaded (judge : String → AccessTarget → Verdict) (id : Uuid)
    (request : Request) (route : Route) (found : Route.ofPath request.path = some route)
    (uploads : request.method = "POST" ∨ request.method = "PUT") (form : Parts) :
    let read (form : Parts) : Multipart.Reading := fun _ names => form.select names
    (∀ resource separator, Granted judge id request route resource →
      Multipart.boundary? request = some separator →
      (∃ part ∈ form.streams, part.head.BelongsTo route.fields) →
      ∃ part, form.Offers route.fields part ∧
        ∀ (σ : Type) (media : MediaService (StateM σ)) (limit : Nat) (before : σ),
        ∃ target, route.target? id (part.head.fileName.getD "") = some target ∧
          let uploaded :=
            (media.upload target.key part.head.contentType part.content).run.run before
          let status := if request.method = "POST" then 201 else 200
          ((Gateway.over media judge limit).respondForm id request (read form)).run before =
            (finish request.method (uploadAnswer status uploaded.1), uploaded.2)) ∧
    (∀ part, form.Offers route.fields part → ∀ other : Parts, other.Offers route.fields part →
      ∀ (m : Type → Type) [Monad m] [LawfulMonad m] (gateway : Gateway m),
        gateway.respondForm id request (read form) =
          gateway.respondForm id request (read other)) ∧
    ((∀ part ∈ form.streams, ¬ part.head.BelongsTo route.fields) →
      ∀ (σ : Type) (media : MediaService (StateM σ)) (limit : Nat) (before : σ),
        let run := ((Gateway.over media judge limit).respondForm id request (read form)).run before
        run.2 = before ∧
          ∀ resource, Granted judge id request route resource → run.1.status = 400) ∧
    ∀ (m : Type → Type) [Monad m] [LawfulMonad m] (gateway : Gateway m),
      (∀ separator, Multipart.boundary? request = some separator →
        Multipart.ofBody gateway.maxUploadBytes separator request.body = form) →
      gateway.respondForm id request (read form) = gateway.respond id request := by
  intro read
  have keeping : request.method ≠ "DELETE" := by
    rcases uploads with method | method <;> rw [method] <;> decide
  refine ⟨fun resource separator granted delimited ⟨stream, member, belongs⟩ => ?_,
    fun part offers other offers_too m _ _ gateway => ?_,
    fun passed σ media limit before => respondForm_of_unoffered found uploads passed,
    fun m _ _ gateway reads => ?_⟩
  · obtain ⟨part, offers⟩ := Parts.offers_of_mem member belongs
    exact ⟨part, offers, fun σ media limit before =>
      respondForm_of_offers found granted keeping delimited offers⟩
  · refine respondForm_congr gateway id found fun separator _ => ?_
    exact (Parts.select_of_offers offers).trans (Parts.select_of_offers offers_too).symm
  · rw [← respondForm_body]
    refine respondForm_congr gateway id found fun separator declared => ?_
    rw [reads separator declared]

/-- Behind a note, two files are sent and then the form breaks off.  The first file becomes the
profile image, as if it had come alone.  With the note alone nothing happens. -/
theorem first_field_uploaded_of_ada :
    let site : Site :=
      { bucket := "media", cdn := none, publicSigner := none, signer := fun key _ => .ok key
        extract := fun _ _ => none, maxUploadBytes := 1000 }
    let judge : String → AccessTarget → Verdict := fun _ _ =>
      .decided { allowed := true, identity := some "ada" }
    let request : Request :=
      { method := "POST", target := "/api/v2/storage/profiles/ada/profile?token=t"
        headers := [("content-type", "multipart/form-data; boundary=B".toUTF8)]
        body := { bytes :=
          "--B\r\nContent-Disposition: form-data; name=\"file\"\r\n\r\nfirst\r\n--B--".toUTF8 } }
    let head (name : String) : Multipart.PartHead := ⟨some name, some "a.txt", some "text/plain"⟩
    let alone : Parts := .part (head "file") "first".toUTF8 .finished
    let note : Parts := .part (head "note") "second".toUTF8 .finished
    let form : Parts := .part (head "note") "zeroth".toUTF8 (.part (head "file") "first".toUTF8
      (.part (head "profile_pic") "second".toUTF8 (.malformed .incomplete)))
    let contents : Contents := { created := true }
    let gateway := site.gateway (fun _ => none) default judge
    let run (form : Parts) :=
      (gateway.respondForm default request fun _ names => form.select names).run contents
    (run form).1.status = 201 ∧
      (run form).2.objects["profiles/ada/profile"]?.map (·.bytes) = some "first".toUTF8 ∧
      run form = run alone ∧ (run note).1.status = 400 ∧ (run note).2 = contents ∧
      run (Multipart.ofBody 1000 "B" request.body) =
        (gateway.respond default request).run contents := by
  intro site judge request head alone note form contents gateway run
  have leads : Route.ofPath request.path = some (.profile "ada") := by decide +kernel
  have granted : Granted judge default request (.profile "ada") (.profileImage "ada") :=
    .profile (.inl rfl) ⟨by decide, by decide, "t", by decide +kernel, rfl⟩
  have delimited : Multipart.boundary? request = some "B" := by decide +kernel
  have general (form : Parts) := first_field_uploaded judge default request (.profile "ada") leads
    (.inl rfl) form
  have belongs : (head "file").BelongsTo profileFields := ⟨"file", by decide, rfl⟩
  have unwanted : ¬ (head "note").BelongsTo profileFields := by
    rintro ⟨name, wanted, said⟩
    obtain rfl := Option.some.inj said
    exact absurd wanted (by decide)
  have offers : form.Offers profileFields ⟨head "file", [.data "first".toUTF8]⟩ :=
    ⟨[_], [_], rfl, belongs, fun other member => List.mem_singleton.mp member ▸ unwanted⟩
  have offers_alone : alone.Offers profileFields ⟨head "file", [.data "first".toUTF8]⟩ :=
    ⟨[], [], rfl, belongs, by simp⟩
  obtain ⟨part, first, becomes⟩ :=
    (general form).1 _ "B" granted delimited ⟨_, .tail _ (.head _), belongs⟩
  obtain rfl : ⟨head "file", [.data "first".toUTF8]⟩ = part :=
    Option.some.inj (Except.ok.inj ((Parts.select_of_offers offers).symm.trans
      (Parts.select_of_offers first)))
  obtain ⟨target, named, ended⟩ :=
    becomes Contents (site.media (fun _ => none) default) 1000 contents
  obtain rfl : Resource.profileImage "ada" = target :=
    Option.some.inj ((show _ = _ by decide +kernel).symm.trans named)
  have whole : run form = _ := ended
  obtain ⟨quiet, refused⟩ := (general note).2.2.1
    (fun other member => List.mem_singleton.mp member ▸ unwanted) Contents
    (site.media (fun _ => none) default) 1000 contents
  refine ⟨by rw [whole]; decide +kernel, by rw [whole]; decide +kernel,
    congrArg (StateT.run · contents) ((general form).2.1 _ offers alone offers_alone _ gateway),
    refused _ granted, quiet, congrArg (StateT.run · contents) ((general _).2.2.2 _ gateway ?_)⟩
  intro separator declared
  exact Option.some.inj (delimited.symm.trans declared) ▸ rfl

end Gateway

end MediaVault
