import MediaVault.Proofs.Api.Attachments
import MediaVault.Proofs.Store.Records

/-!
# Looking up an object over HTTP

`GET` opens an object and sends its bytes; `HEAD` asks for its record alone.  The
two reach the store along different operations, so that they agree is a fact about
the store: every write leaves a record that is true of the bytes.
-/

namespace MediaVault

/-- A request with this method on the path of the object under a key. -/
structure Request.AsksFor (request : Request) (method key : String) : Prop where
  method_eq : request.method = method
  leads : ∃ route, request.PointsAt key route ∧ route.isObject = true

namespace ObjectResponse

/-- An object's own headers state its length, so none is added. -/
theorem finish_full (object : StoredObject) : Gateway.finish "GET" (full object) = full object := by
  simp [Gateway.finish, Response.withLength, Response.header?, full, headers]

/-- An object is described in the same way whether or not its bytes follow. -/
theorem headers_headOnly (object : StoredObject) :
    (headOnly object.info).headers = (full object).headers := rfl

end ObjectResponse

/-- The headers of an object whose record is true state the length and the digest of
its bytes. -/
theorem StoredObject.Faithful.values_full {key : String} {object : StoredObject}
    (faithful : object.Faithful key) :
    (ObjectResponse.full object).values "content-length" = [toString object.bytes.size] ∧
      (ObjectResponse.full object).values "etag" =
        ["\"" ++ Digest.md5Hex object.bytes ++ "\""] := by
  have described := ObjectResponse.values_headOnly object.info
  rw [faithful.size_eq, faithful.etag_eq, Digest.ofText?_quoted_md5Hex] at described
  exact described

namespace Gateway

variable {σ : Type} {gateway : Gateway (StateM σ)} {id : Uuid} {request : Request} {key : String}
  {before asked after : σ}

theorem respond_get {found : Except StorageError StoredObject} (asks : request.AsksFor "GET" key)
    (opened : Ends (gateway.media.open key) before found after) :
    (gateway.respond id request).run before =
      (finish "GET" (settle (told ObjectResponse.full found)), after) := by
  obtain ⟨method, route, ⟨leads, named, resource, addressed, plain, rfl⟩, object⟩ := asks
  obtain ⟨get, -, target, ends, handled⟩ := handle_object addressed object
  have answered := getObject_tells (ends before) plain opened
  rw [← (handled gateway request).1 method] at answered
  rw [respond_of_handle leads (method ▸ get) answered, method]

theorem respond_head {caller user : String} {found : Except StorageError ObjectInfo}
    (asks : request.AsksFor "HEAD" key) (presented : Token.ofRequest? request = some caller)
    (granted : (gateway.authorizer caller .authenticated).run before =
      (.decided { allowed := true, identity := some user }, asked))
    (known : Ends (gateway.media.stat key) asked found after) :
    (gateway.respond id request).run before =
      (finish "HEAD" (settle (told ObjectResponse.headOnly found)), after) := by
  obtain ⟨method, route, ⟨leads, named, resource, addressed, plain, rfl⟩, object⟩ := asks
  obtain ⟨-, head, target, ends, handled⟩ := handle_object addressed object
  have answered := headObject_tells (ends before) plain presented granted known
  rw [← (handled gateway request).2 method] at answered
  rw [respond_of_handle leads (method ▸ head) answered, method]

end Gateway

namespace Site

/-- After any run of operations on a store with its bucket, `GET` and `HEAD` find the
same objects.  For one that is there they send the same headers, which state the
length and the digest of the bytes that follow on `GET`; otherwise both answer 404. -/
theorem get_and_head_agree (site : Site) (history : List StoreEvent) (key : String)
    (now : Timestamp) (judge : String → AccessTarget → Verdict) (id : Uuid)
    (reading asking : Request) (reads : reading.AsksFor "GET" key)
    (asks : asking.AsksFor "HEAD" key) (known : Gateway.IsKnown judge asking) :
    let contents := history.foldl (Contents.afterEvent site.bucket) { created := true }
    let gateway := site.gateway (fun _ => none) now judge
    let fetched := (gateway.respond id reading).run contents
    let headed := (gateway.respond id asking).run contents
    fetched.2 = contents ∧ headed.2 = contents ∧
      (headed.1.status = 200 ↔ fetched.1.status = 200) ∧
      match contents.objects[key]? with
      | none => fetched.1.status = 404 ∧ headed.1.status = 404
      | some object =>
        fetched.1.status = 200 ∧ headed.1.status = 200 ∧
          headed.1.headers = fetched.1.headers ∧ headed.1.content = .empty ∧
          fetched.1.content = .bytes object.bytes ∧
          fetched.1.values "content-length" = [toString object.bytes.size] ∧
          fetched.1.values "etag" = ["\"" ++ Digest.md5Hex object.bytes ++ "\""] := by
  intro contents gateway fetched headed
  obtain ⟨caller, user, presented, granted⟩ := known
  have faithful : contents.Faithful := Contents.Faithful.empty.afterEvents site.bucket history
  have allowed : (gateway.authorizer caller .authenticated).run contents =
      (.decided { allowed := true, identity := some user }, contents) :=
    Permission.run_authorizerOf granted _
  have got : fetched = _ :=
    Gateway.respond_get reads (open_ends_of_created site key faithful.created now)
  have had : headed = _ :=
    Gateway.respond_head asks presented allowed (stat_ends_of_created site key faithful.created now)
  rw [got, had, Contents.find]
  cases present : contents.objects[key]? with
  | none => exact ⟨rfl, rfl, Iff.rfl, rfl, rfl⟩
  | some object =>
    have told := (faithful.records key object present).values_full
    have sent : Gateway.finish "GET" (Gateway.settle
        (Gateway.told ObjectResponse.full (.ok object))) = ObjectResponse.full object :=
      ObjectResponse.finish_full object
    have described : Gateway.finish "HEAD" (Gateway.settle
        (Gateway.told ObjectResponse.headOnly (.ok object.info))) =
          ObjectResponse.headOnly object.info := ObjectResponse.finish_headOnly object.info
    refine ⟨rfl, rfl, ?_⟩
    dsimp only [Except.map]
    rw [sent, described]
    exact ⟨Iff.rfl, rfl, rfl, ObjectResponse.headers_headOnly object, rfl, rfl, told⟩

/-- A note is stored; a new version of it breaks off, and a deletion fails.  The path
of one of the two requests is escaped. -/
theorem get_and_head_agree_on_note :
    let site : Site :=
      { bucket := "media", cdn := none, publicSigner := none, signer := fun key _ => .ok key
        extract := fun _ _ => none, maxUploadBytes := 1000 }
    let key := "posts/7/note"
    let none_fail : Faults := fun _ => none
    let history : List StoreEvent :=
      [{ now := default, faults := none_fail, call := .put key (.buffered ⟨#[1, 2, 3]⟩) {} },
        { now := default, faults := none_fail
          call := .put key (.streamed [.data ⟨#[4]⟩, .failed "connection reset"]) {} },
        { now := default, faults := fun _ => some "timeout", call := .delete key }]
    let judge : String → AccessTarget → Verdict := fun _ _ =>
      .decided { allowed := true, identity := some "ada" }
    let reading : Request := { method := "GET", target := "/api/v2/storage/posts/7/note" }
    let asking : Request := { method := "HEAD", target := "/api/v2/storage/posts/7/n%6Fte?token=t" }
    let contents := history.foldl (Contents.afterEvent site.bucket) { created := true }
    let answer (request : Request) :=
      (((site.gateway none_fail default judge).respond default request).run contents).1
    reading.AsksFor "GET" key ∧ asking.AsksFor "HEAD" key ∧ Gateway.IsKnown judge asking ∧
      (answer asking).status = 200 ∧ (answer asking).content = .empty ∧
      (answer reading).content = .bytes ⟨#[1, 2, 3]⟩ ∧
      (answer reading).values "content-length" = ["3"] ∧
      (answer asking).headers = (answer reading).headers := by
  intro site key none_fail history judge reading asking contents answer
  have points (request : Request) (rawFile : String)
      (found : Route.ofPath request.path = some (.postFile "7" rawFile))
      (file : Percent.decodeText? rawFile = some "note") :
      request.PointsAt key (.postFile "7" rawFile) :=
    ⟨found, default, .postFile "7" "note",
      .postFile (List.mem_cons_self (a := Route.postFile "7" rawFile)) (by decide) file,
      fun segment member => Segment.isSafe_iff.mp (by revert segment; decide), rfl⟩
  have reads : reading.AsksFor "GET" key :=
    ⟨rfl, _, points reading "note" (by decide +kernel) (by decide), rfl⟩
  have asks : asking.AsksFor "HEAD" key :=
    ⟨rfl, _, points asking "n%6Fte" (by decide +kernel) (by decide), rfl⟩
  have known : Gateway.IsKnown judge asking := ⟨"t", "ada", by decide +kernel, rfl⟩
  have kept : contents.objects[key]?.map (·.bytes) = some ⟨#[1, 2, 3]⟩ := by decide +kernel
  obtain ⟨object, present, bytes⟩ := Option.map_eq_some_iff.mp kept
  obtain ⟨-, -, -, agree⟩ :=
    get_and_head_agree site history key default judge default reading asking reads asks known
  rw [show (history.foldl (Contents.afterEvent site.bucket) { created := true }).objects[key]? =
    some object from present] at agree
  dsimp only at agree
  rw [bytes] at agree
  obtain ⟨-, found, same, nothing, sent, sized, -⟩ := agree
  exact ⟨reads, asks, known, found, nothing, sent, sized, same⟩

end Site

end MediaVault
