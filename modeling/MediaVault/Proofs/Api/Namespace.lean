import MediaVault.Proofs.Api.Change
import MediaVault.Proofs.Api.Trace

/-!
# The namespace of keys

Client text enters a key from the path and, through the extension that a fresh
name keeps, from a form.  Over an observed store every handler shows what it
hands on: `Names` says what that may be on which route, and each handler has a
lemma `…_traced` that it is nothing else.  The keys that are stored follow, for
requests of any number.
-/

namespace MediaVault

/-! ## What a route names -/

namespace Route

/-- The names in a route, still escaped. -/
def names : Route → List String
  | .liveness | .readiness => []
  | .post postId => [postId]
  | .postFile postId fileName => [postId, fileName]
  | .postFileMeta postId fileName => [postId, fileName]
  | .postFileUrl postId fileName => [postId, fileName]
  | .profile userId => [userId]
  | .profileMeta userId => [userId]
  | .profileUrl userId => [userId]

/-- Every name in the route stands for a text that stays where it is put. -/
def IsPlain (route : Route) : Prop :=
  ∀ raw ∈ route.names, ∃ name, Percent.decodeText? raw = some name ∧ Segment.IsPlain name

end Route

/-- The resource that a request on a route is about.  On the route of a post this
is the attachment that an upload creates, under a name made from `id`. -/
inductive Addresses (id : Uuid) : Route → Resource → Prop where
  | attachment (clientName : String) {rawPost postId : String}
      (post : Percent.decodeText? rawPost = some postId) :
      Addresses id (.post rawPost) (.attachment id postId clientName)
  | postFile {route : Route} {rawPost rawFile postId fileName : String}
      (path : route ∈ [Route.postFile rawPost rawFile, .postFileMeta rawPost rawFile,
        .postFileUrl rawPost rawFile])
      (post : Percent.decodeText? rawPost = some postId)
      (file : Percent.decodeText? rawFile = some fileName) :
      Addresses id route (.postFile postId fileName)
  | profileImage {route : Route} {rawUser userId : String}
      (path : route ∈ [Route.profile rawUser, .profileMeta rawUser, .profileUrl rawUser])
      (user : Percent.decodeText? rawUser = some userId) :
      Addresses id route (.profileImage userId)

/-- What a request on a route may name to the store. -/
inductive Names (id : Uuid) : Route → Access → Prop where
  | bucket : Names id .readiness .bucket
  | listing {rawPost postId : String} (post : Percent.decodeText? rawPost = some postId)
      (plain : Segment.IsPlain postId) :
      Names id (.post rawPost) (.listing (Resource.postPrefix postId))
  | object {route : Route} {resource : Resource} (addressed : Addresses id route resource)
      (plain : resource.IsPlain) : Names id route (.object resource.key)

theorem Addresses.isPlain {id : Uuid} {route : Route} {resource : Resource}
    (addressed : Addresses id route resource) (plain : resource.IsPlain) : route.IsPlain := by
  cases addressed with
  | @attachment clientName rawPost postId post =>
    have plain_post := plain postId (by simp [Resource.attachment, Resource.segments])
    simpa [Route.IsPlain, Route.names, post] using plain_post
  | @postFile _ rawPost rawFile postId fileName path post file =>
    have plain_post := plain postId (by simp [Resource.segments])
    have plain_file := plain fileName (by simp [Resource.segments])
    simp only [List.mem_cons, List.not_mem_nil, or_false] at path
    rcases path with rfl | rfl | rfl
    all_goals simp [Route.IsPlain, Route.names, post, file, plain_post, plain_file]
  | @profileImage _ rawUser userId path user =>
    have plain_user := plain userId (by simp [Resource.segments])
    simp only [List.mem_cons, List.not_mem_nil, or_false] at path
    rcases path with rfl | rfl | rfl
    all_goals simp [Route.IsPlain, Route.names, user, plain_user]

/-- Only a route whose names are plain leads to the store. -/
theorem Names.isPlain {id : Uuid} {route : Route} {access : Access}
    (names : Names id route access) : route.IsPlain := by
  cases names with
  | bucket => simp [Route.IsPlain, Route.names]
  | listing post plain => simp [Route.IsPlain, Route.names, post, plain]
  | object addressed plain => exact addressed.isPlain plain

theorem isPlain_attachment {id : Uuid} {postId clientName : String}
    (plain : Segment.IsPlain postId) : (Resource.attachment id postId clientName).IsPlain := by
  have fresh := FileName.isPlain_fresh id clientName
  simp [Resource.attachment, Resource.IsPlain, Resource.segments, plain, fresh]

/-! ## Handlers -/

namespace Gateway

variable {σ : Type} {site : Site} {store : ObjectStore (StateM σ)}
  {judge : String → AccessTarget → Verdict} {id : Uuid} {request : Request} {route : Route}

theorem listPostFiles_traced {rawPost : String} :
    Traced (Names id (.post rawPost)) Refusal.IsFailure (fun _ => (Route.post rawPost).IsPlain)
      ((site.observedGateway store judge).listPostFiles request rawPost) := by
  refine (pathParam_settled _ _).traced.bind fun postId post => ?_
  refine (token_settled _).traced.bind fun caller _ => ?_
  refine (requireSafe_settled _).traced.bind fun _ safe => ?_
  refine identity_settled.traced.bind fun _ _ => ?_
  have listing : Names id (.post rawPost) (.listing (Resource.postPrefix postId)) :=
    .listing post (safe postId List.mem_cons_self)
  exact (storeAction_traced (Site.list_traced listing)).bind fun _ _ =>
    traced_pure listing.isPlain

theorem postFile_traced {named : Access → Prop} {rawPost rawFile : String}
    (path : route ∈ [Route.postFile rawPost rawFile, .postFileMeta rawPost rawFile,
      .postFileUrl rawPost rawFile]) :
    Traced named Refusal.IsFailure (Addresses id route)
      (postFile rawPost rawFile : ExceptT Refusal (StateM (σ × List Access)) Resource) :=
  (pathParam_settled _ _).traced.bind fun _ post => (pathParam_settled _ _).traced.bind fun _ file =>
    traced_pure (.postFile path post file)

theorem profileImage_traced {named : Access → Prop} {rawUser : String}
    (path : route ∈ [Route.profile rawUser, .profileMeta rawUser, .profileUrl rawUser]) :
    Traced named Refusal.IsFailure (Addresses id route)
      (profileImage rawUser : ExceptT Refusal (StateM (σ × List Access)) Resource) :=
  (pathParam_settled _ _).traced.bind fun _ user => traced_pure (.profileImage path user)

theorem deletePostFile_traced {rawPost rawFile : String} :
    Traced (Names id (.postFile rawPost rawFile)) Refusal.IsFailure
      (fun _ => (Route.postFile rawPost rawFile).IsPlain)
      ((site.observedGateway store judge).deletePostFile request rawPost rawFile) := by
  refine (pathParam_settled _ _).traced.bind fun postId post => ?_
  refine (pathParam_settled _ _).traced.bind fun fileName file => ?_
  refine (token_settled _).traced.bind fun caller _ => ?_
  refine (keyOf_settled _).traced.bind fun key ⟨same, plain⟩ => ?_
  refine postEdit_settled.traced.bind fun _ _ => ?_
  have addressed : Addresses id (.postFile rawPost rawFile) (.postFile postId fileName) :=
    .postFile List.mem_cons_self post file
  refine (storeAction_traced (Site.delete_traced ?_)).bind fun _ _ =>
    traced_pure (addressed.isPlain plain)
  exact same ▸ .object addressed plain

theorem deleteProfile_traced {rawUser : String} :
    Traced (Names id (.profile rawUser)) Refusal.IsFailure
      (fun _ => (Route.profile rawUser).IsPlain)
      ((site.observedGateway store judge).deleteProfile request rawUser) := by
  refine (pathParam_settled _ _).traced.bind fun userId user => ?_
  refine (token_settled _).traced.bind fun caller _ => ?_
  refine (keyOf_settled _).traced.bind fun key ⟨same, plain⟩ => ?_
  refine owner_settled.traced.bind fun _ _ => ?_
  have addressed : Addresses id (.profile rawUser) (.profileImage userId) :=
    .profileImage List.mem_cons_self user
  refine (storeAction_traced (Site.delete_traced ?_)).bind fun _ _ =>
    traced_pure (addressed.isPlain plain)
  exact same ▸ .object addressed plain

/-! ### Reading objects -/

section Target

variable {target : ExceptT Refusal (StateM (σ × List Access)) Resource}
  (addressed : Traced (Names id route) Refusal.IsFailure (Addresses id route) target)

include addressed

theorem getObject_traced :
    Traced (Names id route) Refusal.IsFailure (fun _ => route.IsPlain)
      ((site.observedGateway store judge).getObject target) := by
  refine addressed.bind fun resource about => ?_
  refine (keyOf_settled _).traced.bind fun key ⟨same, plain⟩ => ?_
  refine (storeAction_traced (traced_noted ?_)).bind fun _ _ => traced_pure (about.isPlain plain)
  exact same ▸ .object about plain

theorem headObject_traced :
    Traced (Names id route) Refusal.IsFailure (fun _ => route.IsPlain)
      ((site.observedGateway store judge).headObject request target) := by
  refine addressed.bind fun resource about => ?_
  refine (token_settled _).traced.bind fun caller _ => ?_
  refine (keyOf_settled _).traced.bind fun key ⟨same, plain⟩ => ?_
  refine identity_settled.traced.bind fun _ _ => ?_
  refine (storeAction_traced (traced_noted ?_)).bind fun _ _ => traced_pure (about.isPlain plain)
  exact same ▸ .object about plain

theorem objectMeta_traced :
    Traced (Names id route) Refusal.IsFailure (fun _ => route.IsPlain)
      ((site.observedGateway store judge).objectMeta request target) := by
  refine addressed.bind fun resource about => ?_
  refine (expiry_settled _).traced.bind fun wanted _ => ?_
  refine (keyOf_settled _).traced.bind fun key ⟨same, plain⟩ => ?_
  refine (storeAction_traced (Site.describe_traced ?_)).bind fun _ _ =>
    traced_pure (about.isPlain plain)
  exact same ▸ .object about plain

theorem objectUrl_traced :
    Traced (Names id route) Refusal.IsFailure (fun _ => route.IsPlain)
      ((site.observedGateway store judge).objectUrl request target) := by
  refine addressed.bind fun resource about => ?_
  refine (expiry_settled _).traced.bind fun wanted _ => ?_
  refine (keyOf_settled _).traced.bind fun key ⟨same, plain⟩ => ?_
  refine (storeAction_traced (Site.deliveryUrl_traced ?_)).bind fun _ _ =>
    traced_pure (about.isPlain plain)
  exact same ▸ .object about plain

end Target

/-- Without a form, the store is told nothing but what the route may name, and only
when all names in it are plain can the request succeed. -/
theorem handle_traced (route : Route)
    (formless : (site.observedGateway store judge).admit? id request route = none) :
    Traced (Names id route) Refusal.IsFailure (fun _ => route.IsPlain)
      ((site.observedGateway store judge).handle id request route) := by
  cases route with
  | liveness => exact traced_pure (by simp [Route.IsPlain, Route.names])
  | readiness =>
    have probe : Traced (Names id .readiness) (fun _ => True) (fun _ => True)
        (site.observedMedia store).ready := Site.ready_traced .bucket
    have whole : Traced (Names id .readiness) Refusal.IsFailure (fun _ => Route.readiness.IsPlain)
        (attempt (site.observedMedia store).ready >>= fun out => pure (readinessOf out)) :=
      probe.attempt.bind fun _ _ => traced_pure (by simp [Route.IsPlain, Route.names])
    exact whole
  | post rawPost =>
    simp only [admit?] at formless
    simp only [handle]
    split
    next method => simp [method] at formless
    next => exact listPostFiles_traced
  | postFile rawPost rawFile =>
    simp only [admit?] at formless
    simp only [handle]
    split
    next method => simp [method] at formless
    next => exact deletePostFile_traced
    next => exact headObject_traced (postFile_traced (by simp))
    next => exact getObject_traced (postFile_traced (by simp))
  | postFileMeta rawPost rawFile => exact objectMeta_traced (postFile_traced (by simp))
  | postFileUrl rawPost rawFile => exact objectUrl_traced (postFile_traced (by simp))
  | profile rawUser =>
    simp only [admit?] at formless
    simp only [handle]
    split
    next method => simp [method] at formless
    next method => simp [method] at formless
    next => exact deleteProfile_traced
    next => exact headObject_traced (profileImage_traced (by simp))
    next => exact getObject_traced (profileImage_traced (by simp))
  | profileMeta rawUser => exact objectMeta_traced (profileImage_traced (by simp))
  | profileUrl rawUser => exact objectUrl_traced (profileImage_traced (by simp))

/-- A resource that was granted has plain names. -/
theorem Granted.isPlain {resource : Resource} (granted : Granted judge id request route resource) :
    resource.IsPlain := by
  cases granted with
  | attach clientName method may => exact isPlain_attachment (Segment.isSafe_iff.mp may.safe)
  | attachment method may decoded safe =>
    have plain_post := Segment.isSafe_iff.mp may.safe
    have plain_file := Segment.isSafe_iff.mp safe
    simp [Resource.IsPlain, Resource.segments, plain_post, plain_file]
  | profile method owner =>
    have plain_user := Segment.isSafe_iff.mp owner.safe
    simp [Resource.IsPlain, Resource.segments, plain_user]

/-- What is granted is what the route is about. -/
theorem Granted.addresses {resource : Resource}
    (granted : Granted judge id request route resource) : Addresses id route resource := by
  cases granted with
  | attach clientName method may => exact .attachment clientName may.decoded
  | attachment method may decoded safe => exact .postFile List.mem_cons_self may.decoded decoded
  | profile method owner => exact .profileImage List.mem_cons_self owner.decoded

/-- The same holds with a form, whatever is read from it: its client's name for the file is
known only then, but the key is plain for any. -/
theorem handleForm_traced (read : Multipart.Reading) (route : Route) :
    Traced (Names id route) Refusal.IsFailure (fun _ => route.IsPlain)
      ((site.observedGateway store judge).handleForm id request read route) := by
  rw [handleForm]
  cases admitted : (site.observedGateway store judge).admit? id request route with
  | none => exact handle_traced route admitted
  | some checks =>
    refine (admit_checked admitted).traced.bind fun _ passed => ?_
    obtain ⟨naming, separator, _, granted, _⟩ := passed
    have named (clientName : String) : Names id route (.object (naming clientName).key) :=
      .object (granted clientName).addresses (granted clientName).isPlain
    intro before out after h
    obtain ⟨log, known⟩ := receive_traced named before out after h
    refine ⟨log, ?_⟩
    cases out with
    | ok response => exact (named "").isPlain
    | error refusal => exact known

/-! ## Requests -/

/-- Whatever a request is answered: the store was told only what its route may
name, and on a success all names in the route are plain. -/
theorem respondBy_names (form : Option Multipart.Reading) (before : σ) (log : List Access) :
    let run := ((site.observedGateway store judge).respondBy id request form).run (before, log)
    ∃ accesses, run.2.2 = log ++ accesses ∧
      (∀ access ∈ accesses, ∃ route, Route.ofPath request.path = some route ∧
        Names id route access) ∧
      (run.1.isSuccess = true → ∃ route, Route.ofPath request.path = some route ∧
        route.IsPlain) := by
  intro run
  rcases respondBy_ends (site.observedGateway store judge) id request form (before, log) with
    ⟨same, refused⟩ | ⟨route, out, found, _, handled, answer⟩
  · refine ⟨[], by simp [run, same], by simp, fun succeeded => ?_⟩
    cases refused.symm.trans succeeded
  -- The handler's outcome decides the status, since finishing an answer keeps it.
  obtain ⟨⟨accesses, grown, may⟩, known⟩ := handleForm_traced _ route _ _ _ handled
  refine ⟨accesses, grown, fun access member => ⟨route, found, may access member⟩, ?_⟩
  intro succeeded
  cases out with
  | ok response => exact ⟨route, found, known⟩
  | error refusal =>
    have refused : run.1.isSuccess = false := by
      rw [answer, isSuccess_finish]
      exact known
    cases refused.symm.trans succeeded

end Gateway

/-- A request and the circumstances in which it is answered. -/
structure Occasion where
  faults : Faults
  now : Timestamp
  judge : String → AccessTarget → Verdict
  id : Uuid
  request : Request

/-- A request whose form is read in the given way, or from its body as a whole. -/
structure Visit extends Occasion where
  form : Option Multipart.Reading := none

/-- The contents after one more request. -/
def Site.afterVisit (site : Site) (contents : Contents) (visit : Visit) : Contents :=
  let gateway := site.gateway visit.faults visit.now visit.judge
  ((gateway.respondBy visit.id visit.request visit.form).run contents).2

/-- Every object is stored under the key of a resource with plain names. -/
def Contents.InNamespace (contents : Contents) : Prop :=
  ∀ key object, contents.objects[key]? = some object →
    ∃ resource : Resource, resource.IsPlain ∧ key = resource.key

theorem Contents.InNamespace.afterVisit {contents : Contents} (kept : contents.InNamespace)
    (site : Site) (visit : Visit) : (site.afterVisit contents visit).InNamespace := by
  intro key object present
  rcases Gateway.respondBy_ends (site.gateway visit.faults visit.now visit.judge) visit.id
    visit.request visit.form contents with ⟨same, _⟩ | ⟨route, out, _, _, handled, _⟩
  · exact kept key object (same ▸ present)
  rcases Gateway.handleForm_changes handled with same | ⟨resource, _, granted, touched, _, _⟩
  · exact kept key object (same ▸ present)
  -- One object was touched, under the key of the granted resource.
  by_cases differ : key = resource.key
  · exact ⟨resource, granted.isPlain, differ⟩
  · exact kept key object (touched.elsewhere differ ▸ present)

theorem Contents.InNamespace.afterVisits {contents : Contents} (kept : contents.InNamespace)
    (site : Site) (visits : List Visit) :
    (visits.foldl site.afterVisit contents).InNamespace := by
  induction visits generalizing contents with
  | nil => exact kept
  | cons visit visits ih => exact ih (kept.afterVisit site visit)

namespace Gateway

/-- Over any store and authorizer, a request names to the store only what its
route may name, and one with any other name is refused without an access, however
its form is read.  So after any requests all keys have the shape of their
namespace, and no two resources share a key. -/
theorem keys_stay_in_namespace (site : Site) :
    (∀ (σ : Type) (store : ObjectStore (StateM σ)) (judge : String → AccessTarget → Verdict)
      (id : Uuid) (request : Request) (form : Option Multipart.Reading) (before : σ),
      let run := ((site.observedGateway store judge).respondBy id request form).run (before, [])
      (∀ access ∈ run.2.2, ∃ route, Route.ofPath request.path = some route ∧
        Names id route access) ∧
      ((∀ route, Route.ofPath request.path = some route → ¬ route.IsPlain) →
        run.1.isSuccess = false ∧ run.2.2 = [])) ∧
    (∀ (created : Bool) (visits : List Visit) (key : String) (object : StoredObject),
      (visits.foldl site.afterVisit { created := created }).objects[key]? = some object →
        (∃ resource : Resource, resource.IsPlain ∧ key = resource.key) ∧
        (key.toList.splitOn '/').length = 3 ∧
        ∀ part ∈ key.toList.splitOn '/', part ≠ [] ∧ part ≠ ['.'] ∧ part ≠ ['.', '.']) ∧
    ∀ resource other : Resource, resource.IsPlain → other.IsPlain →
      (resource.key = other.key ↔ resource = other) := by
  refine ⟨?_, ?_, fun resource other plain plain_other => Resource.key_inj_iff plain plain_other⟩
  · intro σ store judge id request form before run
    obtain ⟨accesses, log, may, plain_of_success⟩ := respondBy_names form before []
    replace log : run.2.2 = accesses := log
    rw [log]
    refine ⟨may, fun unplain => ⟨?_, ?_⟩⟩
    · refine Bool.eq_false_iff.mpr fun succeeded => ?_
      obtain ⟨route, found, plain⟩ := plain_of_success succeeded
      exact unplain route found plain
    · refine List.eq_nil_iff_forall_not_mem.mpr fun access member => ?_
      obtain ⟨route, found, names⟩ := may access member
      exact unplain route found names.isPlain
  · intro created visits key object present
    have empty : Contents.InNamespace { created := created } := by
      intro key object present
      simp at present
    obtain ⟨resource, plain, rfl⟩ := empty.afterVisits site visits key object present
    exact ⟨⟨resource, plain, rfl⟩, Resource.parts_of_key plain⟩

/-- Escaped dots lead nowhere; plain names lead to their own object. -/
theorem keys_stay_in_namespace_of_ada :
    let site : Site :=
      { bucket := "media", cdn := none, publicSigner := none, signer := fun key _ => .ok key
        extract := fun _ _ => none, maxUploadBytes := 1000 }
    let judge : String → AccessTarget → Verdict := fun _ _ =>
      .decided { allowed := true, identity := some "ada" }
    let store := MemoryStore.faulty "media" (fun _ => none) default
    let escaping : Request := { method := "GET", target := "/api/v2/storage/posts/%2E%2E/notes" }
    let reading : Request := { method := "GET", target := "/api/v2/storage/posts/7/notes" }
    let log (request : Request) :=
      (((site.observedGateway store judge).respondBy default request none).run
        ({ created := true }, [])).2.2
    let form :=
      "--B\r\nContent-Disposition: form-data; name=\"file\"\r\n\r\nabc\r\n--B--"
    let image : Visit :=
      { faults := fun _ => none, now := default, judge := judge, id := default
        request :=
          { method := "PUT", target := "/api/v2/storage/profiles/ada/profile?token=t"
            headers := [("content-type", "multipart/form-data; boundary=B".toUTF8)]
            body := { bytes := form.toUTF8 } } }
    let after := [image].foldl site.afterVisit { created := true }
    log escaping = [] ∧
      (∃ route, Route.ofPath reading.path = some route ∧
        Names default route (.object "posts/7/notes")) ∧
      (∃ resource : Resource, resource.IsPlain ∧ "profiles/ada/profile" = resource.key) ∧
      after.objects["profiles/ada/profile"]?.isSome = true ∧
      (Resource.postFile "7" "notes").key ≠ (Resource.profileImage "7").key := by
  intro site judge store escaping reading log form image after
  obtain ⟨named, stored, apart⟩ := keys_stay_in_namespace site
  have unplain : ∀ route, Route.ofPath escaping.path = some route → ¬ route.IsPlain := by
    intro route found plain
    have leads : Route.ofPath escaping.path = some (.postFile "%2E%2E" "notes") := by
      decide +kernel
    obtain rfl := Option.some.inj (leads.symm.trans found)
    obtain ⟨name, decoded, plain_name⟩ := plain "%2E%2E" (by simp [Route.names])
    have up : Percent.decodeText? "%2E%2E" = some ".." := by decide
    exact plain_name.not_up (Option.some.inj (decoded.symm.trans up))
  have reached : Access.object "posts/7/notes" ∈ log reading := by decide +kernel
  have present : after.objects["profiles/ada/profile"]?.isSome = true := by decide +kernel
  obtain ⟨object, found⟩ := Option.isSome_iff_exists.mp present
  have plain (resource : Resource)
      (safe : ∀ segment ∈ resource.segments, Segment.isSafe segment = true) : resource.IsPlain :=
    fun segment member => Segment.isSafe_iff.mp (safe segment member)
  have differ := apart (.postFile "7" "notes") (.profileImage "7") (plain _ (by decide))
    (plain _ (by decide))
  have refused := (named Contents store judge default escaping none { created := true }).2 unplain
  have answered := (named Contents store judge default reading none { created := true }).1 _ reached
  have placed := stored true [image] "profiles/ada/profile" object found
  refine ⟨refused.2, answered, placed.1, present, fun same => ?_⟩
  cases differ.mp same

end Gateway

end MediaVault
