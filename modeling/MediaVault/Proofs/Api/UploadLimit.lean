import MediaVault.Proofs.Api.Forms
import MediaVault.Proofs.Api.ImageViews
import MediaVault.Proofs.Media.Blame
import MediaVault.Proofs.Media.Limit

/-!
# The upload limit

Behind the limit a body may end anywhere, also in the middle of the part that is being
stored.  A reader reports that as a failed piece, and neither the service nor the store
takes what came before it for the whole.  So no object ever exceeds the limit, and an upload
whose part is not closed within it is refused.
-/

namespace MediaVault

namespace Gateway

/-! ## Handlers keep the limit -/

section Keeping

variable {σ : Type} {media : MediaService (StateM σ)} {judge : String → AccessTarget → Verdict}
  {limit : Nat} {inv : σ → Prop} {id : Uuid} {request : Request}

theorem storeAction_keeps {α : Type} {action : ExceptT StorageError (StateM σ) α}
    (keeps : Keeps inv action) : Keeps inv (storeAction action) :=
  keeps.mapError _

theorem listPostFiles_keeps (keeps : media.KeepsWithin limit inv) {rawPost : String} :
    Keeps inv ((Gateway.over media judge limit).listPostFiles request rawPost) :=
  (pathParam_settled _ _).quiet.keeps.bind fun _ => (token_settled _).quiet.keeps.bind fun _ =>
    (requireSafe_settled _).quiet.keeps.bind fun _ => identity_settled.quiet.keeps.bind fun _ =>
      (storeAction_keeps (keeps.list _)).bind fun _ => keeps_pure _

theorem deletePostFile_keeps (keeps : media.KeepsWithin limit inv) {rawPost rawFile : String} :
    Keeps inv ((Gateway.over media judge limit).deletePostFile request rawPost rawFile) :=
  (pathParam_settled _ _).quiet.keeps.bind fun _ => (pathParam_settled _ _).quiet.keeps.bind fun _ =>
    (token_settled _).quiet.keeps.bind fun _ => (keyOf_settled _).quiet.keeps.bind fun _ =>
      postEdit_settled.quiet.keeps.bind fun _ =>
        (storeAction_keeps keeps.delete).bind fun _ => keeps_pure _

theorem deleteProfile_keeps (keeps : media.KeepsWithin limit inv) {rawUser : String} :
    Keeps inv ((Gateway.over media judge limit).deleteProfile request rawUser) :=
  (pathParam_settled _ _).quiet.keeps.bind fun _ => (token_settled _).quiet.keeps.bind fun _ =>
    (keyOf_settled _).quiet.keeps.bind fun _ => owner_settled.quiet.keeps.bind fun _ =>
      (storeAction_keeps keeps.delete).bind fun _ => keeps_pure _

variable {target : ExceptT Refusal (StateM σ) Resource}

theorem getObject_keeps (keeps : media.KeepsWithin limit inv) (named : Quiet target) :
    Keeps inv ((Gateway.over media judge limit).getObject target) :=
  named.keeps.bind fun _ => (keyOf_settled _).quiet.keeps.bind fun _ =>
    (storeAction_keeps (keeps.store.get _)).bind fun _ => keeps_pure _

theorem headObject_keeps (keeps : media.KeepsWithin limit inv) (named : Quiet target) :
    Keeps inv ((Gateway.over media judge limit).headObject request target) :=
  named.keeps.bind fun _ => (token_settled _).quiet.keeps.bind fun _ => (keyOf_settled _).quiet.keeps.bind fun _ =>
    identity_settled.quiet.keeps.bind fun _ =>
      (storeAction_keeps (keeps.store.stat _)).bind fun _ => keeps_pure _

theorem objectMeta_keeps (keeps : media.KeepsWithin limit inv) (named : Quiet target) :
    Keeps inv ((Gateway.over media judge limit).objectMeta request target) :=
  named.keeps.bind fun _ => (expiry_settled _).quiet.keeps.bind fun _ => (keyOf_settled _).quiet.keeps.bind fun _ =>
    (storeAction_keeps keeps.describe).bind fun _ => keeps_pure _

theorem objectUrl_keeps (keeps : media.KeepsWithin limit inv) (named : Quiet target) :
    Keeps inv ((Gateway.over media judge limit).objectUrl request target) :=
  named.keeps.bind fun _ => (expiry_settled _).quiet.keeps.bind fun _ => (keyOf_settled _).quiet.keeps.bind fun _ =>
    (storeAction_keeps (keeps.deliveryUrl _ _)).bind fun _ => keeps_pure _

/-- A request without a form puts nothing. -/
theorem handle_keeps (keeps : media.KeepsWithin limit inv) {route : Route}
    (formless : (Gateway.over media judge limit).admit? id request route = none) :
    Keeps inv ((Gateway.over media judge limit).handle id request route) := by
  cases route with
  | liveness => exact keeps_pure _
  | readiness => exact Keeps.recover keeps.ready fun outcome => keeps_pure _
  | post rawPost =>
    simp only [admit?] at formless
    simp only [handle]
    split
    next method => simp [method] at formless
    next => exact listPostFiles_keeps keeps
  | postFile rawPost rawFile =>
    simp only [admit?] at formless
    simp only [handle]
    split
    next method => simp [method] at formless
    next => exact deletePostFile_keeps keeps
    next => exact headObject_keeps keeps (postFile_settled _ _).quiet
    next => exact getObject_keeps keeps (postFile_settled _ _).quiet
  | profile rawUser =>
    simp only [admit?] at formless
    simp only [handle]
    split
    next method => simp [method] at formless
    next method => simp [method] at formless
    next => exact deleteProfile_keeps keeps
    next => exact headObject_keeps keeps (profileImage_settled _).quiet
    next => exact getObject_keeps keeps (profileImage_settled _).quiet
  | postFileMeta rawPost rawFile => exact objectMeta_keeps keeps (postFile_settled _ _).quiet
  | postFileUrl rawPost rawFile => exact objectUrl_keeps keeps (postFile_settled _ _).quiet
  | profileMeta rawUser => exact objectMeta_keeps keeps (profileImage_settled _).quiet
  | profileUrl rawUser => exact objectUrl_keeps keeps (profileImage_settled _).quiet

/-- The parts that are read to their end do not exceed the limit. -/
def ReadsWithin (limit : Nat) (read : Multipart.Reading) : Prop :=
  ∀ {boundary names selected bytes}, read boundary names = .ok (some selected) →
    Chunk.collect selected.content = .ok bytes → bytes.size ≤ limit

theorem receive_keeps (keeps : media.KeepsWithin limit inv) {read : Multipart.Reading}
    (small : ReadsWithin limit read) (admission : Admission) :
    Keeps inv ((Gateway.over media judge limit).receive read admission) := by
  refine Keeps.bind ?_ fun uploaded => keeps_pure _
  cases found : read admission.separator admission.names with
  | error error => exact keeps_throw _
  | ok part =>
    cases part with
    | none => exact keeps_throw _
    | some selected => exact (keeps.upload fun bytes => small found).mapError _

theorem respondForm_keeps (keeps : media.KeepsWithin limit inv) {read : Multipart.Reading}
    (small : ReadsWithin limit read) {before : σ} (kept : inv before) :
    inv (((Gateway.over media judge limit).respondForm id request read).run before).2 := by
  refine answer_keeps (fun route _ _ => ?_) kept
  rw [handleForm]
  cases admitted : (Gateway.over media judge limit).admit? id request route with
  | some checks => exact (admit_checked admitted).quiet.keeps.bind (receive_keeps keeps small)
  | none => exact handle_keeps keeps admitted

end Keeping

/-! ## Granted uploads -/

/-- The boundary that a request declares; a form without one cannot be read. -/
def declared (request : Request) : Except Refusal String :=
  match Multipart.boundary? request with
  | some separator => .ok separator
  | none => .error (.unreadable 400 "Invalid `boundary` for `multipart/form-data` request")

theorem boundary_ends {σ : Type} {before : σ} {request : Request} :
    Ends (boundary request) before (declared request) before := by
  rw [boundary, declared]
  cases Multipart.boundary? request with
  | some separator => exact ends_pure_iff.mpr ⟨rfl, rfl⟩
  | none => exact ends_throw_iff.mpr ⟨rfl, rfl⟩

/-- An upload that is granted passes all checks, if its form has a boundary. -/
theorem admits_of_granted {σ : Type} (media : MediaService (StateM σ))
    {judge : String → AccessTarget → Verdict} (limit : Nat) {id : Uuid} {request : Request}
    {route : Route} {resource : Resource} (granted : Granted judge id request route resource)
    (uploads : request.method ≠ "DELETE") :
    request.method ∈ route.methods ∧ ∃ checks, ∃ naming : String → Resource,
      (Gateway.over media judge limit).admit? id request route = some checks ∧
      (∀ clientName, route.target? id clientName = some (naming clientName)) ∧ ∀ before : σ,
        Ends checks before
          (declared request >>= fun separator => .ok (granting request route naming separator))
          before := by
  have plain := granted.isPlain
  cases granted with
  | @attach rawPost postId clientName method may =>
    obtain ⟨post, safe, caller, owner, presented, allowed⟩ := may
    refine ⟨by simp [Route.methods, method],
      (Gateway.over media judge limit).admitPostFile id request rawPost,
      Resource.attachment id postId, admit?_eq_some_iff.mpr (.attachment method),
      fun name => by rw [Route.target?, post, Option.map_some], fun before => ?_⟩
    simp only [granting, if_pos method]
    refine (pathParam_answers post).bind ((token_answers presented).bind ?_)
    refine boundary_ends.bind_settled fun separator => ?_
    refine (requireSafe_answers fun segment member => ?_).bind ?_
    · exact List.mem_singleton.mp member ▸ Segment.isSafe_iff.mp safe
    · have permitted := Permission.postEdit_ends (Permission.run_authorizerOf allowed before)
      exact permitted.bind (ends_pure_iff.mpr ⟨rfl, rfl⟩)
  | @attachment rawPost rawFile postId fileName either may decoded safe =>
    have method := either.resolve_right uploads
    obtain ⟨post, -, caller, owner, presented, allowed⟩ := may
    refine ⟨by simp [Route.methods, method],
      (Gateway.over media judge limit).admitReplacement request rawPost rawFile,
      fun _ => .postFile postId fileName, admit?_eq_some_iff.mpr (.replacement method),
      fun name => by rw [Route.target?, post, decoded, Option.bind_some, Option.map_some],
      fun before => ?_⟩
    simp only [granting, show request.method ≠ "POST" by rw [method]; decide, if_false]
    refine (pathParam_answers post).bind ((pathParam_answers decoded).bind ?_)
    refine (token_answers presented).bind (boundary_ends.bind_settled fun separator => ?_)
    refine (keyOf_answers plain).bind ?_
    have permitted := Permission.postEdit_ends (Permission.run_authorizerOf allowed before)
    exact permitted.bind (ends_pure_iff.mpr ⟨rfl, rfl⟩)
  | @profile rawUser userId either owner =>
    obtain ⟨user, -, caller, presented, allowed⟩ := owner
    have named (name : String) : (Route.profile rawUser).target? id name =
        some (.profileImage userId) := by
      rw [Route.target?, user, Option.map_some]
    have passes (status : Nat) (before : σ) :
        Ends ((Gateway.over media judge limit).admitProfile status request rawUser) before
          (declared request >>= fun separator =>
            .ok
              { names := profileFields, separator := separator, status := status
                keyFor := fun _ => (Resource.profileImage userId).key }) before := by
      refine (pathParam_answers user).bind ((token_answers presented).bind ?_)
      refine boundary_ends.bind_settled fun separator => ?_
      refine (keyOf_answers plain).bind ?_
      have permitted := Permission.owner_answers (Permission.run_authorizerOf allowed before)
      exact permitted.bind (ends_pure_iff.mpr ⟨rfl, rfl⟩)
    rcases either with method | method | method
    · simp only [granting, if_pos method]
      exact ⟨by simp [Route.methods, method], _, fun _ => .profileImage userId,
        admit?_eq_some_iff.mpr (.newProfile method), named, passes 201⟩
    · simp only [granting, show request.method ≠ "POST" by rw [method]; decide, if_false]
      exact ⟨by simp [Route.methods, method], _, fun _ => .profileImage userId,
        admit?_eq_some_iff.mpr (.profile method), named, passes 200⟩
    · exact absurd method uploads

/-- A granted upload comes down to receiving its form; without a boundary it is refused. -/
theorem respondForm_of_granted {σ : Type} (media : MediaService (StateM σ))
    {judge : String → AccessTarget → Verdict} (limit : Nat) {id : Uuid} {request : Request}
    {route : Route} {resource : Resource} (found : Route.ofPath request.path = some route)
    (granted : Granted judge id request route resource) (uploads : request.method ≠ "DELETE")
    (read : Multipart.Reading) (before : σ) :
    ∃ naming : String → Resource,
      (∀ clientName, route.target? id clientName = some (naming clientName)) ∧
      (∀ separator out after, Multipart.boundary? request = some separator →
        Ends ((Gateway.over media judge limit).receive read
          (granting request route naming separator)) before out after →
        ((Gateway.over media judge limit).respondForm id request read).run before =
          (finish request.method (settle out), after)) ∧
      (Multipart.boundary? request = none →
        ∃ refusal : Refusal, refusal.toResponse.status = 400 ∧
          ((Gateway.over media judge limit).respondForm id request read).run before =
            (finish request.method refusal.toResponse, before)) := by
  obtain ⟨known, checks, naming, admitted, named, passes⟩ :=
    admits_of_granted media limit granted uploads
  have checked := passes before
  have handled {out : Except Refusal Response} {after : σ}
      (ended : Ends (checks >>= (Gateway.over media judge limit).receive read) before out after) :
      ((Gateway.over media judge limit).respondForm id request read).run before =
        (finish request.method (settle out), after) := by
    refine answer_run found known ?_
    rw [handleForm, admitted]
    exact ended
  refine ⟨naming, named, fun separator out after delimited received => ?_, fun undelimited => ?_⟩
  · rw [declared, delimited] at checked
    exact handled (Ends.bind checked received)
  · rw [declared, undelimited] at checked
    refine ⟨.unreadable 400 "Invalid `boundary` for `multipart/form-data` request", rfl, ?_⟩
    exact handled (ends_bind_iff.mpr (.inl ⟨_, checked, rfl⟩))

end Gateway

/-! ## Forms that are not closed in time -/

namespace Site

/-- With its bucket, the store in memory lets an upload get to where its payload breaks off. -/
theorem upload_of_unread (site : Site) (now : Timestamp) (key : String)
    (contentType : Option String) {body : List Chunk} {contents : Contents}
    (created : contents.created = true) (unread : ∀ bytes, Chunk.collect body ≠ .ok bytes) :
    ∃ reason, Ends ((site.media (fun _ => none) now).upload key contentType body) contents
      (.error (.read reason)) contents := by
  obtain ⟨out, after, ended⟩ : ∃ out after,
      Ends ((site.media (fun _ => none) now).upload key contentType body) contents out after :=
    ⟨_, _, ends_self _ contents⟩
  obtain ⟨reason, failed⟩ : ∃ reason, Chunk.failure? body = some reason := by
    refine Option.ne_none_iff_exists'.mp fun whole => unread (Bytes.join (Chunk.pieces body)) ?_
    rw [Chunk.collect_eq, whole]
  have free : (site.media (fun _ => none) now).refusalOf
      (fun contents _ _ => MemoryStore.obstacle? site.bucket (fun _ => none) .put key contents)
      contents contentType body = none := by
    rw [MediaService.refusalOf]
    split
    · rfl
    · simp [MemoryStore.obstacle?, created]
  have settled := MediaService.upload_settled
    (MemoryStore.explains site.bucket (fun _ => none) now key) ended
  rw [free, failed] at settled
  cases settled
  rcases upload_ends ended with ⟨bytes, read, -⟩ | ⟨rfl, -⟩
  · exact absurd read (unread bytes)
  · exact ⟨reason, ended⟩

/-- An upload whose part is not read to its end is the client's fault. -/
theorem receive_of_unread (site : Site) (now : Timestamp)
    (judge : String → AccessTarget → Verdict) {read : Multipart.Reading}
    (admission : Gateway.Admission) {contents : Contents} (created : contents.created = true)
    (unread : ∀ selected bytes, read admission.separator admission.names = .ok (some selected) →
      Chunk.collect selected.content ≠ .ok bytes) :
    ∃ refusal, Ends ((site.gateway (fun _ => none) now judge).receive read admission) contents
      (.error refusal) contents ∧ refusal.toResponse.status = 400 := by
  have stops {refusal : Refusal} {part : Except ApiError Multipart.Selected}
      (found : Gateway.chosen admission.names (read admission.separator admission.names) = part)
      (stopped : Ends ((site.gateway (fun _ => none) now judge).storePart admission.keyFor part)
        contents (.error refusal) contents) :
      Ends ((site.gateway (fun _ => none) now judge).receive read admission) contents
        (.error refusal) contents := by
    rw [Gateway.receive, found]
    exact ends_bind_iff.mpr (.inl ⟨refusal, stopped, rfl⟩)
  cases found : read admission.separator admission.names with
  | error error =>
    exact ⟨_, stops (by rw [found, Gateway.chosen]) (ends_throw_iff.mpr ⟨rfl, rfl⟩), rfl⟩
  | ok part =>
    cases part with
    | none =>
      exact ⟨_, stops (by rw [found, Gateway.chosen]) (ends_throw_iff.mpr ⟨rfl, rfl⟩), rfl⟩
    | some selected =>
      obtain ⟨reason, ended⟩ := site.upload_of_unread now
        (admission.keyFor (selected.head.fileName.getD "")) selected.head.contentType created
        fun bytes => unread selected bytes found
      have blamed : Ends ((site.gateway (fun _ => none) now judge).storePart admission.keyFor
          (.ok selected)) contents (.error (.error (ApiError.ofUpload (.read reason)))) contents :=
        ends_mapError_iff.mpr ⟨_, ended, rfl⟩
      exact ⟨_, stops (by rw [found, Gateway.chosen]) blamed, rfl⟩

/-- A granted upload whose part is not read to its end is refused, and nothing is stored. -/
theorem respondForm_of_unread (site : Site) (now : Timestamp)
    {judge : String → AccessTarget → Verdict} {id : Uuid} {request : Request}
    {read : Multipart.Reading} {route : Route} {resource : Resource} {contents : Contents}
    (created : contents.created = true) (found : Route.ofPath request.path = some route)
    (granted : Gateway.Granted judge id request route resource)
    (uploads : request.method ≠ "DELETE")
    (unread : ∀ separator selected bytes, Multipart.boundary? request = some separator →
      read separator route.fields = .ok (some selected) →
      Chunk.collect selected.content ≠ .ok bytes) :
    let run := ((site.gateway (fun _ => none) now judge).respondForm id request read).run contents
    run.1.status = 400 ∧ run.2 = contents := by
  obtain ⟨naming, -, received, refused⟩ := Gateway.respondForm_of_granted
    (site.media (fun _ => none) now) site.maxUploadBytes found granted uploads read contents
  intro run
  cases delimited : Multipart.boundary? request with
  | none =>
    obtain ⟨refusal, blamed, ended⟩ := refused delimited
    rw [show run = _ from ended]
    exact ⟨(Response.status_finish _ _).trans blamed, rfl⟩
  | some separator =>
    obtain ⟨refusal, stopped, blamed⟩ := site.receive_of_unread now judge
      (Gateway.granting request route naming separator) created
      fun selected bytes => unread separator selected bytes delimited
    rw [show run = _ from received separator _ _ delimited stopped]
    exact ⟨(Response.status_finish _ _).trans blamed, rfl⟩

end Site

/-! ## Requests with forms that arrive in frames -/

/-- A request whose body arrives in frames, with the reader of its form. -/
structure FormVisit extends Occasion where
  reader : Multipart.Reader
  frames : List ByteArray
  /-- The body breaks off after the frames. -/
  failure : Option String

namespace FormVisit

/-- What the reader finds behind a limit. -/
def reading (visit : FormVisit) (limit : Nat) : Multipart.Reading := fun boundary names =>
  visit.reader.select boundary names (.limited visit.failure limit visit.frames)

theorem reading_within (visit : FormVisit) (limit : Nat) :
    Gateway.ReadsWithin limit (visit.reading limit) :=
  fun found read => visit.reader.size_le_of_select found read

/-- The answer of a gateway. -/
def answer {m : Type → Type} [Monad m] (visit : FormVisit) (gateway : Gateway m) : m Response :=
  gateway.respondForm visit.id visit.request (visit.reading gateway.maxUploadBytes)

end FormVisit

namespace Site

/-- The contents after one more request. -/
def afterForm (site : Site) (contents : Contents) (visit : FormVisit) : Contents :=
  ((visit.answer (site.gateway visit.faults visit.now visit.judge)).run contents).2

/-- The exchanges with a remote service after one more request. -/
def afterRemoteForm (site : Site) (service : S3.Service) (region : String) (maxPages : Nat)
    (log : List S3.Exchange) (visit : FormVisit) : List S3.Exchange :=
  ((visit.answer (Gateway.over (site.remote service region maxPages) visit.judge
    site.maxUploadBytes)).run log).2

/-- After any requests, whatever their readers and in whatever frames their bodies arrive, no
object in memory or at a remote service exceeds the limit.  In memory, a granted upload whose
part is not closed within the limit is refused with 400 and stores nothing, be it while the
part is read or while it is stored.  With the reader that waits for all of a body, this is
how every request is answered. -/
theorem uploads_within_limit (site : Site) :
    (∀ (created : Bool) (visits : List FormVisit) (key : String) (object : StoredObject),
      (visits.foldl site.afterForm { created := created }).objects[key]? = some object →
        object.bytes.size ≤ site.maxUploadBytes) ∧
    (∀ (service : S3.Service) (region : String) (maxPages : Nat) (visits : List FormVisit)
      (key : String) (kept : S3.Kept),
      let log := visits.foldl (site.afterRemoteForm service region maxPages) []
      (S3.Bucket.after log).objects[key]? = some kept → kept.body.size ≤ site.maxUploadBytes) ∧
    (∀ (visit : FormVisit) (contents : Contents) (route : Route) (resource : Resource),
      visit.faults = (fun _ => none) → contents.created = true →
      Route.ofPath visit.request.path = some route → visit.request.method ≠ "DELETE" →
      Gateway.Granted visit.judge visit.id visit.request route resource →
      (∀ separator, Multipart.boundary? visit.request = some separator →
        ¬ Multipart.ClosesWithin site.maxUploadBytes separator route.fields
          (Bytes.join visit.frames)) →
      let run := (visit.answer (site.gateway visit.faults visit.now visit.judge)).run contents
      run.1.status = 400 ∧ run.2 = contents) ∧
    ∀ (visit : FormVisit), visit.reader = .patient →
      visit.request.body = { bytes := Bytes.join visit.frames, failure := visit.failure } →
      ∀ (m : Type → Type) [Monad m] [LawfulMonad m] (gateway : Gateway m),
        visit.answer gateway = gateway.respond visit.id visit.request := by
  refine ⟨fun created visits key object => ?_, fun service region maxPages visits key kept => ?_,
    fun visit contents route resource healthy created found uploads granted late => ?_,
    fun visit patient body m _ _ gateway => ?_⟩
  · have empty : Contents.Within site.maxUploadBytes { created := created } := by
      intro key object present
      simp at present
    refine (List.foldlRecOn visits site.afterForm empty
      fun contents within visit _ => ?_) key object
    exact Gateway.respondForm_keeps (site.media_keepsWithin visit.faults visit.now _)
      (visit.reading_within site.maxUploadBytes) within
  · have empty : S3.LogWithin site.maxUploadBytes [] := by
      intro key kept present
      simp [S3.Bucket.after] at present
    refine (List.foldlRecOn visits (site.afterRemoteForm service region maxPages) empty
      fun log within visit _ => ?_) key kept
    exact Gateway.respondForm_keeps (site.remote_keepsWithin service region maxPages _)
      (visit.reading_within site.maxUploadBytes) within
  · rw [healthy]
    refine site.respondForm_of_unread visit.now created found granted uploads ?_
    intro separator selected bytes delimited selects read
    exact late separator delimited (visit.reader.closesWithin_of_select selects read)
  · rw [FormVisit.answer, ← gateway.respondForm_patient visit.id body, ← patient]
    rfl

/-- Behind a limit of 64 bytes a form of 62 is stored, in memory and at a service.  Of one of
68 all the content arrives, but not what closes it, so it is refused. -/
theorem uploads_within_limit_of_ada :
    let site : Site :=
      { bucket := "media", cdn := none, publicSigner := none, signer := fun key _ => .ok key
        extract := fun _ _ => none, maxUploadBytes := 64 }
    let head := "--B\r\nContent-Disposition: form-data; name=\"file\"\r\n\r\n".toUTF8
    let visit (content : ByteArray) (reader : Multipart.Reader) : FormVisit :=
      { faults := fun _ => none, now := default, id := default, failure := none, reader := reader
        judge := fun _ _ => .decided { allowed := true, identity := some "ada" }
        request :=
          { method := "PUT", target := "/api/v2/storage/profiles/ada/profile?token=t"
            headers := [("content-type", "multipart/form-data; boundary=B".toUTF8)]
            body := { bytes := Bytes.join [head, content, "\r\n--B--".toUTF8] } }
        frames := [head, content, "\r\n--B--".toUTF8] }
    let short := "abc".toUTF8
    let long := "abcdefghi".toUTF8
    let key := "profiles/ada/profile"
    let contents : Contents := { created := true }
    let stored := [visit short .prompt].foldl site.afterForm contents
    let log := [visit short .prompt].foldl (site.afterRemoteForm .accepting "us-east-1" 1) []
    let gateway := site.gateway (fun _ => none) default (visit long .prompt).judge
    let run := ((visit long .prompt).answer gateway).run contents
    (∃ object, stored.objects[key]? = some object ∧ object.bytes.size ≤ 64) ∧
      (∃ kept, (S3.Bucket.after log).objects[key]? = some kept ∧ kept.body.size ≤ 64) ∧
      (Bytes.join (visit long .prompt).frames).size = 68 ∧ run.1.status = 400 ∧
      run.2 = contents ∧
      (visit long .patient).answer gateway =
        gateway.respond default (visit long .patient).request := by
  intro site head visit short long key contents stored log gateway run
  obtain ⟨in_memory, at_service, refused, whole⟩ := uploads_within_limit site
  have present : stored.objects[key]?.isSome = true := by decide +kernel
  have kept_there : (S3.Bucket.after log).objects[key]?.isSome = true := by decide +kernel
  obtain ⟨object, found⟩ := Option.isSome_iff_exists.mp present
  obtain ⟨kept, there⟩ := Option.isSome_iff_exists.mp kept_there
  have leads : Route.ofPath (visit long .prompt).request.path = some (.profile "ada") := by
    decide +kernel
  have owner : Gateway.IsOwner (visit long .prompt).judge (visit long .prompt).request
      "ada" "ada" :=
    ⟨by decide, by decide, "t", by decide +kernel, rfl⟩
  have delimited : Multipart.boundary? (visit long .prompt).request = some "B" := by decide +kernel
  let begun := (Bytes.join (visit long .prompt).frames).extract 0 64
  have breaks : ((Multipart.parts "B" begun).select Gateway.profileFields).toOption.map
      (Option.map fun part => Chunk.failure? part.content) =
        some (some (some Multipart.brokenPart)) := by decide +kernel
  have late : ¬ Multipart.ClosesWithin 64 "B" Gateway.profileFields
      (Bytes.join (visit long .prompt).frames) := by
    rintro ⟨head, bytes, closed⟩
    rw [show Multipart.Parts.select _ _ = _ from closed] at breaks
    cases breaks
  obtain ⟨status, same⟩ := refused (visit long .prompt) contents (.profile "ada")
    (.profileImage "ada") rfl rfl leads (by decide) (.profile (.inr (.inl rfl)) owner)
    fun separator declared => Option.some.inj (delimited.symm.trans declared) ▸ late
  exact ⟨⟨object, found, in_memory true [visit short .prompt] key object found⟩,
    ⟨kept, there, at_service .accepting "us-east-1" 1 [visit short .prompt] key kept there⟩,
    by decide +kernel, status, same, whole (visit long .patient) rfl rfl _ gateway⟩

end Site

end MediaVault
