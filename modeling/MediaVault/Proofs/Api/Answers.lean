import MediaVault.Proofs.Api.Gateway
import MediaVault.Proofs.Api.Namespace

/-!
# Answers to readers

What the service finds is what the gateway answers: when the path names the
object, and the caller may ask, a read ends as the store's look-up does.  This
holds over any store: each handler has a lemma `…_tells` that takes whatever the
service ends with, and `…_answers` is its case of a success.
-/

namespace MediaVault

namespace Response

/-- The values of all headers of a name, in order. -/
def values (response : Response) (name : String) : List String :=
  response.headers.filterMap fun header => if header.1 = name then some header.2 else none

/-- Stating the length and leaving out the content touch no other header. -/
theorem values_finish (method : String) (response : Response) {name : String}
    (other : name ≠ "content-length") :
    (Gateway.finish method response).values name = response.values name := by
  have sized : response.withLength.values name = response.values name := by
    rw [withLength]
    split
    · rfl
    · simp [values, Ne.symm other]
  rw [Gateway.finish]
  split
  · exact sized
  · exact sized

theorem status_finish (method : String) (response : Response) :
    (Gateway.finish method response).status = response.status := by
  have sized : response.withLength.status = response.status := by
    rw [withLength]
    split <;> rfl
  rw [Gateway.finish]
  split
  · exact sized
  · exact sized

end Response

namespace ObjectResponse

theorem values_header? (name other : String) (value : Option String) :
    (header? other value).filterMap (fun header => if header.1 = name then some header.2 else none) =
      if other = name then (value.bind HeaderValue.ofText?).toList else [] := by
  rw [header?]
  cases value.bind HeaderValue.ofText? with
  | none => simp
  | some text => by_cases same : other = name <;> simp [same]

/-- The headers that describe an object, each with its text; whether that may be sent is open. -/
def sources (info : ObjectInfo) : List (String × Option String) :=
  [("content-type", some (contentType info)), ("content-length", some (toString info.size.toNat)),
    ("etag", some ("\"" ++ info.etag ++ "\"")),
    ("last-modified", some info.lastModified.httpDate), ("cache-control", info.cacheControl),
    ("x-blurhash", metadataValue? info ImageAttributes.blurhashName),
    ("x-image-width", metadataValue? info ImageAttributes.widthName),
    ("x-image-height", metadataValue? info ImageAttributes.heightName),
    ("content-disposition", if ContentType.isPdf info.contentType then some "inline" else none)]

theorem header?_of_sendable {name text : String}
    (sendable : HeaderValue.ofText? text = some text) :
    header? name (some text) = [(name, text)] := by
  rw [header?, Option.bind_some, sendable]

theorem ofText?_contentType (info : ObjectInfo) :
    HeaderValue.ofText? (contentType info) = some (contentType info) := by
  rw [contentType]
  cases sendable : HeaderValue.ofText? info.contentType with
  | none => decide
  | some text =>
    obtain ⟨rfl, -⟩ := HeaderValue.ofText?_eq_some_iff.mp sendable
    exact sendable

/-- The type, the length and the disposition may always be sent, so no header is special. -/
theorem headers_eq_flatMap (info : ObjectInfo) :
    headers info = (sources info).flatMap fun source => header? source.1 source.2 := by
  have type : header? "content-type" (some (contentType info)) =
      [("content-type", contentType info)] := header?_of_sendable (ofText?_contentType info)
  have length : header? "content-length" (some (toString info.size.toNat)) =
      [("content-length", toString info.size.toNat)] :=
    header?_of_sendable (HeaderValue.presentable_toString _).sendable
  have disposition :
      header? "content-disposition"
          (if ContentType.isPdf info.contentType then some "inline" else none) =
        if ContentType.isPdf info.contentType then [("content-disposition", "inline")] else [] := by
    split <;> rfl
  simp only [sources, List.flatMap_cons, List.flatMap_nil, type, length, disposition, headers,
    List.append_assoc, List.cons_append, List.nil_append, List.append_nil]

/-- The names of these headers, whatever the object. -/
def headerNames : List String :=
  ["content-type", "content-length", "etag", "last-modified", "cache-control", "x-blurhash",
    "x-image-width", "x-image-height", "content-disposition"]

theorem map_fst_sources (info : ObjectInfo) : (sources info).map Prod.fst = headerNames := rfl

theorem distinct_sources (info : ObjectInfo) : ((sources info).map Prod.fst).Nodup := by
  rw [map_fst_sources]
  decide

/-- Among sources of distinct names, a name has the values of its own source. -/
theorem flatMap_source {listed : List (String × Option String)}
    (distinct : (listed.map Prod.fst).Nodup) {name : String} {value : Option String}
    (member : (name, value) ∈ listed) :
    (listed.flatMap fun source =>
      if source.1 = name then (source.2.bind HeaderValue.ofText?).toList else []) =
      (value.bind HeaderValue.ofText?).toList := by
  induction listed with
  | nil => cases member
  | cons source rest ih =>
    rw [List.map_cons, List.nodup_cons] at distinct
    rw [List.flatMap_cons]
    cases member with
    | head =>
      have elsewhere : ∀ other ∈ rest, other.1 ≠ name := fun other among same =>
        distinct.1 (List.mem_map.mpr ⟨other, among, same⟩)
      rw [if_pos rfl, List.flatMap_eq_nil_iff.mpr fun other among => if_neg (elsewhere other among),
        List.append_nil]
    | tail _ among =>
      have differ : source.1 ≠ name := fun same =>
        distinct.1 (List.mem_map.mpr ⟨_, among, same.symm⟩)
      rw [if_neg differ, List.nil_append, ih distinct.2 among]

/-- Every header is sent once if its text may be sent, and else not at all. -/
theorem values_of_source {response : Response} {info : ObjectInfo}
    (described : response.headers = headers info) {name : String} {value : Option String}
    (listed : (name, value) ∈ sources info) :
    response.values name = (value.bind HeaderValue.ofText?).toList := by
  rw [Response.values, described, headers_eq_flatMap, List.filterMap_flatMap]
  simp only [values_header?]
  exact flatMap_source (distinct_sources info) listed

theorem values_length {response : Response} {info : ObjectInfo}
    (described : response.headers = headers info) :
    response.values "content-length" = [toString info.size.toNat] := by
  have listed : ("content-length", some (toString info.size.toNat)) ∈ sources info := by
    simp [sources]
  rw [values_of_source described listed, Option.bind_some,
    (HeaderValue.presentable_toString _).sendable, Option.toList_some]

end ObjectResponse

/-! ## Routes of objects -/

/-- The route is that of an object itself. -/
def Route.isObject : Route → Bool
  | .postFile _ _ | .profile _ => true
  | _ => false

/-- The route is that of an object's description. -/
def Route.isMeta : Route → Bool
  | .postFileMeta _ _ | .profileMeta _ => true
  | _ => false

/-- The path of a request leads to a route about the object under a key. -/
structure Request.PointsAt (request : Request) (key : String) (route : Route) : Prop where
  found : Route.ofPath request.path = some route
  about : ∃ id resource, Addresses id route resource ∧ resource.IsPlain ∧ resource.key = key

namespace Gateway

variable {σ : Type} {before after : σ} {request : Request}

/-! ## Reading the request -/

theorem pathParam_answers {name raw text : String} (decoded : Percent.decodeText? raw = some text) :
    Ends (pathParam name raw) before (.ok text) before := by
  rw [pathParam, BadPathParam.decode, decoded]
  exact ends_pure_iff.mpr ⟨rfl, rfl⟩

theorem token_answers {caller : String} (presented : Token.ofRequest? request = some caller) :
    Ends (token request) before (.ok caller) before := by
  rw [token, presented]
  exact ends_pure_iff.mpr ⟨rfl, rfl⟩

theorem expiry_answers {raw : Option String}
    (asked : Query.param "expires" request.query? = .ok raw) :
    Ends (expiry request) before (.ok (Expiry.parse raw)) before := by
  rw [expiry, asked]
  exact ends_pure_iff.mpr ⟨rfl, rfl⟩

theorem requireSafe_answers {segments : List String}
    (plain : ∀ segment ∈ segments, Segment.IsPlain segment) :
    Ends (requireSafe segments) before (.ok ()) before := by
  rw [requireSafe, safe, Segment.firstUnsafe?_eq_none plain]
  exact ends_pure_iff.mpr ⟨rfl, rfl⟩

theorem keyOf_answers {resource : Resource} (plain : resource.IsPlain) :
    Ends (keyOf resource) before (.ok resource.key) before := by
  exact (requireSafe_answers plain).bind (ends_pure_iff.mpr ⟨rfl, rfl⟩)

theorem storeAction_answers {α : Type} {action : ExceptT StorageError (StateM σ) α} {a : α}
    (ended : Ends action before (.ok a) after) : Ends (storeAction action) before (.ok a) after :=
  ends_mapError_iff.mpr ⟨_, ended, rfl⟩

/-- The answer about what a store action found; its failure is reported. -/
def told {α : Type} (present : α → Response) (found : Except StorageError α) :
    Except Refusal Response :=
  (found.mapError fun error => Refusal.error (ApiError.ofStorage error)).map present

theorem storeAction_tells {α : Type} {action : ExceptT StorageError (StateM σ) α}
    {present : α → Response} {found : Except StorageError α} (ended : Ends action before found after) :
    Ends (storeAction action >>= fun a => pure (present a)) before (told present found) after :=
  ends_map_iff.mpr ⟨_, ends_mapError_iff.mpr ⟨_, ended, rfl⟩, rfl⟩

/-! ## Handlers -/

section Target

variable {gateway : Gateway (StateM σ)} {target : ExceptT Refusal (StateM σ) Resource}
  {resource : Resource} (named : Ends target before (.ok resource) before)
  (plain : resource.IsPlain)

include named plain

theorem getObject_tells {found : Except StorageError StoredObject}
    (opened : Ends (gateway.media.open resource.key) before found after) :
    Ends (gateway.getObject target) before (told ObjectResponse.full found) after :=
  named.bind ((keyOf_answers plain).bind (storeAction_tells opened))

theorem getObject_answers {object : StoredObject}
    (opened : Ends (gateway.media.open resource.key) before (.ok object) after) :
    Ends (gateway.getObject target) before (.ok (ObjectResponse.full object)) after :=
  getObject_tells named plain opened

theorem headObject_tells {caller user : String} {found : Except StorageError ObjectInfo}
    {asked : σ} (presented : Token.ofRequest? request = some caller)
    (granted : (gateway.authorizer caller .authenticated).run before =
      (.decided { allowed := true, identity := some user }, asked))
    (known : Ends (gateway.media.stat resource.key) asked found after) :
    Ends (gateway.headObject request target) before (told ObjectResponse.headOnly found)
      after := by
  refine named.bind ((token_answers presented).bind ((keyOf_answers plain).bind ?_))
  exact (Permission.identity_ends granted).bind (storeAction_tells known)

theorem headObject_answers {caller user : String} {info : ObjectInfo} {asked : σ}
    (presented : Token.ofRequest? request = some caller)
    (granted : (gateway.authorizer caller .authenticated).run before =
      (.decided { allowed := true, identity := some user }, asked))
    (known : Ends (gateway.media.stat resource.key) asked (.ok info) after) :
    Ends (gateway.headObject request target) before (.ok (ObjectResponse.headOnly info)) after :=
  headObject_tells named plain presented granted known

theorem objectMeta_tells {raw : Option String} {found : Except StorageError ObjectMeta}
    (asked : Query.param "expires" request.query? = .ok raw)
    (described : Ends (gateway.media.describe resource.key (Expiry.parse raw)) before found after) :
    Ends (gateway.objectMeta request target) before
      (told (fun description => Response.json 200 description.toJson) found) after :=
  named.bind ((expiry_answers asked).bind ((keyOf_answers plain).bind (storeAction_tells described)))

theorem objectMeta_answers {raw : Option String} {description : ObjectMeta}
    (asked : Query.param "expires" request.query? = .ok raw)
    (described : Ends (gateway.media.describe resource.key (Expiry.parse raw)) before
      (.ok description) after) :
    Ends (gateway.objectMeta request target) before
      (.ok (Response.json 200 description.toJson)) after :=
  objectMeta_tells named plain asked described

end Target

/-! ## Routes -/

theorem postFile_answers {rawPost rawFile postId fileName : String} {before : σ}
    (post : Percent.decodeText? rawPost = some postId)
    (file : Percent.decodeText? rawFile = some fileName) :
    Ends (postFile rawPost rawFile) before (.ok (.postFile postId fileName)) before :=
  (pathParam_answers post).bind ((pathParam_answers file).bind (ends_pure_iff.mpr ⟨rfl, rfl⟩))

theorem profileImage_answers {rawUser userId : String} {before : σ}
    (user : Percent.decodeText? rawUser = some userId) :
    Ends (profileImage rawUser) before (.ok (.profileImage userId)) before :=
  (pathParam_answers user).bind (ends_pure_iff.mpr ⟨rfl, rfl⟩)

theorem handle_object {id named : Uuid} {route : Route} {resource : Resource}
    (addressed : Addresses named route resource) (object : route.isObject = true) :
    "GET" ∈ route.methods ∧ "HEAD" ∈ route.methods ∧
      ∃ target : ExceptT Refusal (StateM σ) Resource,
        (∀ before, Ends target before (.ok resource) before) ∧
        ∀ (gateway : Gateway (StateM σ)) (request : Request),
          (request.method = "GET" → gateway.handle id request route = gateway.getObject target) ∧
          (request.method = "HEAD" →
            gateway.handle id request route = gateway.headObject request target) := by
  -- Of the three routes about a resource only its own is one of an object.
  cases addressed with
  | attachment clientName post => cases object
  | @postFile _ rawPost rawFile postId fileName path post file =>
    simp only [List.mem_cons, List.not_mem_nil, or_false] at path
    rcases path with rfl | rfl | rfl
    · refine ⟨by simp [Route.methods], by simp [Route.methods], postFile rawPost rawFile,
        fun _ => postFile_answers post file,
        fun gateway request => ⟨fun method => ?_, fun method => ?_⟩⟩
      · simp [handle, method]
      · simp [handle, method]
    · cases object
    · cases object
  | @profileImage _ rawUser userId path user =>
    simp only [List.mem_cons, List.not_mem_nil, or_false] at path
    rcases path with rfl | rfl | rfl
    · refine ⟨by simp [Route.methods], by simp [Route.methods], profileImage rawUser,
        fun _ => profileImage_answers user,
        fun gateway request => ⟨fun method => ?_, fun method => ?_⟩⟩
      · simp [handle, method]
      · simp [handle, method]
    · cases object
    · cases object

theorem handle_meta {id named : Uuid} {route : Route} {resource : Resource}
    (addressed : Addresses named route resource) (description : route.isMeta = true) :
    "GET" ∈ route.methods ∧
      ∃ target : ExceptT Refusal (StateM σ) Resource,
        (∀ before, Ends target before (.ok resource) before) ∧
        ∀ (gateway : Gateway (StateM σ)) (request : Request),
          gateway.handle id request route = gateway.objectMeta request target := by
  -- Of the three routes about a resource only the second one describes it.
  cases addressed with
  | attachment clientName post => cases description
  | @postFile _ rawPost rawFile postId fileName path post file =>
    simp only [List.mem_cons, List.not_mem_nil, or_false] at path
    rcases path with rfl | rfl | rfl
    · cases description
    · exact ⟨by simp [Route.methods], postFile rawPost rawFile, fun _ => postFile_answers post file,
        fun _ _ => rfl⟩
    · cases description
  | @profileImage _ rawUser userId path user =>
    simp only [List.mem_cons, List.not_mem_nil, or_false] at path
    rcases path with rfl | rfl | rfl
    · cases description
    · exact ⟨by simp [Route.methods], profileImage rawUser, fun _ => profileImage_answers user,
        fun _ _ => rfl⟩
    · cases description

/-! ## Requests -/

/-- A request on a known route with a known method is answered by its handler. -/
theorem answer_run {handler : Route → ExceptT Refusal (StateM σ) Response} {route : Route}
    {out : Except Refusal Response} (found : Route.ofPath request.path = some route)
    (known : request.method ∈ route.methods) (handled : Ends (handler route) before out after) :
    (answer request handler).run before = (finish request.method (settle out), after) := by
  have listed : route.methods.contains request.method = true := List.contains_iff_mem.mpr known
  simp only [answer, found, if_pos listed]
  rw [StateT.run_bind, show StateT.run (ExceptT.run _) _ = _ from handled]
  rfl

theorem respond_of_handle {gateway : Gateway (StateM σ)} {id : Uuid} {route : Route}
    {out : Except Refusal Response} (found : Route.ofPath request.path = some route)
    (known : request.method ∈ route.methods)
    (handled : Ends (gateway.handle id request route) before out after) :
    (gateway.respond id request).run before = (finish request.method (settle out), after) := by
  rw [respond_eq_answer]
  exact answer_run found known handled

end Gateway

end MediaVault
