import MediaVault.Proofs.Api.ImageViews
import MediaVault.Proofs.Api.Lookups
import MediaVault.Proofs.Media.Lookup

/-!
# A bucket that is gone

A failed look-up is answered with 404 when the object is missing and with 500
otherwise, so a lost bucket must not pass for a missing object.  In memory it never
does.  A remote service tells by its answer, and there the status decides: with 404
even the code for a missing bucket counts as a missing object.
-/

namespace MediaVault

/-- A request for an operation on the object under a key, by a caller who may ask for it. -/
inductive Request.Demands (judge : String → AccessTarget → Verdict) (id : Uuid) (request : Request)
    (key : String) : LookUp → Prop where
  | open (asks : request.AsksFor "GET" key) : Demands judge id request key .open
  | stat (asks : request.AsksFor "HEAD" key) (known : Gateway.IsKnown judge request) :
      Demands judge id request key .stat
  | describe {route : Route} {raw : Option String} (method : request.method = "GET")
      (points : request.PointsAt key route) (description : route.isMeta = true)
      (asked : Query.param "expires" request.query? = .ok raw) :
      Demands judge id request key (.describe (Expiry.parse raw))
  | delete {route : Route} {resource : Resource} (method : request.method = "DELETE")
      (found : Route.ofPath request.path = some route)
      (granted : Gateway.Granted judge id request route resource) (same : resource.key = key) :
      Demands judge id request key .delete

namespace Gateway

variable {σ : Type} {media : MediaService (StateM σ)} {judge : String → AccessTarget → Verdict}
  {limit : Nat} {id : Uuid} {request : Request} {route : Route} {resource : Resource} {key : String}
  {before after : σ}

theorem respond_describe {raw : Option String} {found : Except StorageError ObjectMeta}
    (method : request.method = "GET") (points : request.PointsAt key route)
    (description : route.isMeta = true) (asked : Query.param "expires" request.query? = .ok raw)
    (described : Ends (media.describe key (Expiry.parse raw)) before found after) :
    ((Gateway.over media judge limit).respond id request).run before =
      (finish "GET" (settle (told (fun d => Response.json 200 d.toJson) found)), after) := by
  obtain ⟨leads, named, resource, addressed, plain, rfl⟩ := points
  obtain ⟨get, target, ends, handled⟩ := handle_meta addressed description
  have answered : Ends ((Gateway.over media judge limit).objectMeta request target) before
      (told (fun d => Response.json 200 d.toJson) found) after :=
    objectMeta_tells (ends before) plain asked described
  rw [← handled (Gateway.over media judge limit) request] at answered
  rw [respond_of_handle leads (method ▸ get) answered, method]

/-- A deletion that was granted is answered as the store carries it out. -/
theorem handle_delete_tells {found : Except StorageError Unit}
    (method : request.method = "DELETE") (granted : Granted judge id request route resource)
    (deleted : Ends (media.delete resource.key) before found after) :
    "DELETE" ∈ route.methods ∧
      Ends ((Gateway.over media judge limit).handle id request route) before
        (told (fun _ => ObjectResponse.deleted resource.key) found) after := by
  have plain := granted.isPlain
  cases granted with
  | attach clientName post =>
    rw [method] at post
    exact absurd post (by decide)
  | attachment _ may decoded safe =>
    obtain ⟨post, -, caller, owner, presented, allowed⟩ := may
    refine ⟨by simp [Route.methods], ?_⟩
    simp only [handle, method]
    refine (pathParam_answers post).bind ((pathParam_answers decoded).bind ?_)
    refine (token_answers presented).bind ((keyOf_answers plain).bind ?_)
    have permitted := Permission.postEdit_ends (Permission.run_authorizerOf allowed before)
    exact permitted.bind (storeAction_tells deleted)
  | profile _ owner =>
    obtain ⟨user, -, caller, presented, allowed⟩ := owner
    refine ⟨by simp [Route.methods], ?_⟩
    simp only [handle, method]
    refine (pathParam_answers user).bind ((token_answers presented).bind ?_)
    refine (keyOf_answers plain).bind ?_
    have permitted := Permission.owner_answers (Permission.run_authorizerOf allowed before)
    exact permitted.bind (storeAction_tells deleted)

end Gateway

/-! ## Failures and answers -/

namespace MediaService

variable {σ : Type} {media : MediaService (StateM σ)} {before after : σ} {key : String}
  {op : LookUp} {error : StorageError}

/-- Asked for an operation on an object, the service fails with this error, and whoever
demands the operation over HTTP is answered with the report. -/
structure Refuses (media : MediaService (StateM σ)) (before : σ) (key : String) (op : LookUp)
    (error : StorageError) (report : ApiError) (after : σ) : Prop where
  failed : Ends (media.lookUp key op) before (.error error) after
  answered : ∀ judge limit id request, request.Demands judge id key op →
    let run := ((Gateway.over media judge limit).respond id request).run before
    run.1.status = report.status ∧ run.2 = after ∧
      run.1 = Gateway.finish request.method (Response.json report.status report.toJson)

theorem respond_of_failed {judge : String → AccessTarget → Verdict} {limit : Nat} {id : Uuid}
    {request : Request} (failed : Ends (media.lookUp key op) before (.error error) after)
    (demands : request.Demands judge id key op) :
    ((Gateway.over media judge limit).respond id request).run before =
      (Gateway.finish request.method (Refusal.error (ApiError.ofStorage error)).toResponse,
        after) := by
  cases demands with
  | «open» asks =>
    have opened : Ends (media.open key) before (.error error) after := ends_dropped_iff.mp failed
    rw [Gateway.respond_get asks opened, asks.method_eq]
    rfl
  | stat asks known =>
    obtain ⟨caller, user, presented, granted⟩ := known
    have known : Ends (media.stat key) before (.error error) after := ends_dropped_iff.mp failed
    rw [Gateway.respond_head asks presented (Permission.run_authorizerOf granted before) known,
      asks.method_eq]
    rfl
  | describe method points description asked =>
    have described := ends_dropped_iff.mp failed
    rw [Gateway.respond_describe method points description asked described, method]
    rfl
  | delete method found granted same =>
    subst same
    obtain ⟨known, handled⟩ := Gateway.handle_delete_tells method granted failed
    exact Gateway.respond_of_handle found (method ▸ known) handled

theorem refuses_of_failed (failed : Ends (media.lookUp key op) before (.error error) after) :
    media.Refuses before key op error (ApiError.ofStorage error) after where
  failed := failed
  answered judge limit id request demands := by
    rw [respond_of_failed failed demands]
    exact ⟨Response.status_finish _ _, rfl, rfl⟩

end MediaService

namespace Site

/-- A store in memory without its bucket refuses every operation on an object with 500,
and reports a missing object only when the bucket is there and the object is not.  A
remote store reports one exactly when the first look-up was answered with the code that
this call has for a missing object or with status 404, so a missing bucket that comes with another status is
answered with 500, and one that comes with 404 as a missing file. -/
theorem lost_bucket_reported (site : Site) (key : String) (op : LookUp) :
    (∀ (faults : Faults) (now : Timestamp) (contents : Contents), contents.created = false →
      ∃ error : StorageError, error.isNotFound = false ∧
        (faults op.operation = none → error = .bucketNotFound site.bucket) ∧
        (site.media faults now).Refuses contents key op error (.internal error.message)
          contents) ∧
    (∀ (faults : Faults) (now : Timestamp) (contents after : Contents) (error : StorageError),
      Ends ((site.media faults now).lookUp key op) contents (.error error) after →
      error.isNotFound = true → contents.created = true ∧ contents.objects[key]? = none) ∧
    ∀ (service : S3.Service) (region : String) (maxPages : Nat) (log : List S3.Exchange),
      let remote := site.remote service region maxPages
      (∀ (after : List S3.Exchange) (error : StorageError),
        Ends (remote.lookUp key op) log (.error error) after →
        (error.isNotFound = true ↔ ∃ cause : S3.CallError,
          service log (op.call key) = .error cause ∧
            (cause.hasCode op.missingCode = true ∨ cause.hasStatus 404 = true))) ∧
      ∀ (status : Nat) (text : String),
        let lost : S3.CallError := .refused status (some "NoSuchBucket") text
        service log (op.call key) = .error lost →
        ∃ (error : StorageError) (report : ApiError),
          remote.Refuses log key op error report (log ++ [⟨op.call key, .error lost⟩]) ∧
            (status = 404 → error = .objectNotFound key ∧ report = .notFound "file not found") ∧
            (status ≠ 404 → error = .backend op.operation.name key text ∧
              report = .internal error.message) := by
  refine ⟨fun faults now contents lost => ?_,
    fun faults now contents after error failed missing => ?_,
    fun service region maxPages log => ⟨fun after error failed => ?_, fun status text => ?_⟩⟩
  · obtain ⟨error, found, same, failed⟩ := lookUp_of_lost lost
    have reported : ApiError.ofStorage error = .internal error.message := by
      simp [ApiError.ofStorage, found]
    exact ⟨error, found, same, reported ▸ MediaService.refuses_of_failed failed⟩
  · obtain ⟨created, absent, -⟩ := missing_of_isNotFound failed missing
    exact ⟨created, absent⟩
  · simp only [remote_isNotFound_iff failed, S3.CallError.isMissing, Bool.or_eq_true]
  · intro lost answer
    refine ⟨_, _, MediaService.refuses_of_failed (remote_lookUp_of_lost answer), fun missing => ?_,
      fun other => ?_⟩
    · rw [if_pos missing]
      exact ⟨rfl, rfl⟩
    · rw [if_neg other]
      exact ⟨rfl, rfl⟩

/-- A store without its bucket, in memory and at a service that is being moved. -/
theorem lost_bucket_reported_to_reader :
    let site : Site :=
      { bucket := "media", cdn := none, publicSigner := none, signer := fun key _ => .ok key
        extract := fun _ _ => none, maxUploadBytes := 1000 }
    let contents : Contents := {}
    let moved : S3.Service := fun _ _ => .error (.refused 503 (some "NoSuchBucket") "moved")
    let remote := site.remote moved "us-east-1" 1
    let key := "posts/p1/a"
    let judge : String → AccessTarget → Verdict := fun _ _ => .silent
    let reading : Request := { method := "GET", target := "/api/v2/storage/posts/p1/a" }
    contents.created = false ∧ reading.Demands judge default key .open ∧
      (((Gateway.over (site.media (fun _ => none) default) judge 1000).respond default reading).run
        contents).1.status = 500 ∧
      moved [] (.getObject key) = .error (.refused 503 (some "NoSuchBucket") "moved") ∧
      (((Gateway.over remote judge 1000).respond default reading).run []).1.status = 500 := by
  intro site contents moved remote key judge reading
  have points : reading.PointsAt key (.postFile "p1" "a") :=
    ⟨by decide +kernel, default, .postFile "p1" "a",
      .postFile (List.mem_cons_self (a := Route.postFile "p1" "a")) (by decide) (by decide),
      fun segment member => Segment.isSafe_iff.mp (by revert segment; decide), rfl⟩
  have demands : reading.Demands judge default key .open := .open ⟨rfl, _, points, rfl⟩
  obtain ⟨in_memory, -, at_service⟩ := lost_bucket_reported site key .open
  obtain ⟨_, -, -, refuses⟩ := in_memory (fun _ => none) default contents rfl
  obtain ⟨error, report, refused, -, other⟩ := (at_service moved "us-east-1" 1 []).2 503 "moved" rfl
  obtain ⟨-, rfl⟩ := other (by decide)
  exact ⟨rfl, demands, (refuses.answered judge 1000 default reading demands).1, rfl,
    (refused.answered judge 1000 default reading demands).1⟩

/-- The service says with status 404 that the bucket is gone, and the reader of a file
is told that there is no such file. -/
theorem lost_bucket_passes_for_missing_file :
    let site : Site :=
      { bucket := "media", cdn := none, publicSigner := none, signer := fun key _ => .ok key
        extract := fun _ _ => none, maxUploadBytes := 1000 }
    let lost : S3.CallError := .refused 404 (some "NoSuchBucket") "The bucket does not exist"
    let remote := site.remote (fun _ _ => .error lost) "us-east-1" 1
    let key := "posts/p1/a"
    let judge : String → AccessTarget → Verdict := fun _ _ => .silent
    let reading : Request := { method := "GET", target := "/api/v2/storage/posts/p1/a" }
    let answer := (((Gateway.over remote judge 1000).respond default reading).run []).1
    Ends (remote.open key) [] (.error (.objectNotFound key)) [⟨.getObject key, .error lost⟩] ∧
      (StorageError.objectNotFound key).isNotFound = true ∧ answer.status = 404 ∧
      answer.content.toBytes = "\x7b\"error\":\"file not found\",\"status\":404\x7d".toUTF8 := by
  intro site lost remote key judge reading answer
  have missing : S3.Store.lookupError "get" "NoSuchKey" key lost = .objectNotFound key := by decide +kernel
  refine ⟨?_, rfl, by decide +kernel, by decide +kernel⟩
  rw [← missing]
  rfl

end Site

end MediaVault
