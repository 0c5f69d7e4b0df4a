import MediaVault.Proofs.Api.Answers
import MediaVault.Proofs.Media.History
import MediaVault.Proofs.Media.Ingest

/-!
# Attachments over HTTP

A path spells the names of a post and a file when its two escaped names stand for
them.  Such a path leads to the one object of that attachment: no request on it
makes the store look anywhere else, and reading, replacing and deleting do what
they say to this object.
-/

namespace MediaVault

/-! ## Paths -/

/-- The path of a request leads to the file of a post, its names escaped or not. -/
def Request.SpellsFile (request : Request) (postId fileName : String) : Prop :=
  ∃ rawPost rawFile, Route.ofPath request.path = some (.postFile rawPost rawFile) ∧
    Percent.decodeText? rawPost = some postId ∧ Percent.decodeText? rawFile = some fileName

/-- The path of a request leads to the attachments of a post, its id escaped or not. -/
def Request.SpellsPost (request : Request) (postId : String) : Prop :=
  ∃ rawPost, Route.ofPath request.path = some (.post rawPost) ∧
    Percent.decodeText? rawPost = some postId

/-- The path of the file of a post, with everything escaped that may need it. -/
def Resource.filePath (postId fileName : String) : String :=
  "/api/v2/storage/" ++ "/".intercalate
    ["posts", Percent.encode Percent.isUnreserved postId,
      Percent.encode Percent.isUnreserved fileName]

namespace Percent

theorem isUnreserved_of_mem_encode {s : String} {c : Char}
    (member : c ∈ (encode isUnreserved s).toList) : c = '%' ∨ isUnreserved c = true := by
  have digit : ∀ n < 16, isUnreserved (Text.hexDigit n).toUpper = true := by decide
  rcases mem_encode member with mark | through | ⟨n, small, rfl⟩
  · exact .inl mark
  · exact .inr through
  · exact .inr (digit n small)

theorem decodeText?_encode_isUnreserved (s : String) :
    decodeText? (encode isUnreserved s) = some s :=
  decodeText?_encode (by decide) s

theorem slash_not_mem_encode (s : String) : '/' ∉ (encode isUnreserved s).toList := by
  intro member
  rcases isUnreserved_of_mem_encode member with percent | unreserved
  · cases percent
  · exact absurd unreserved (by decide)

theorem encode_ne_empty {s : String} (filled : s ≠ "") : encode isUnreserved s ≠ "" := by
  intro empty
  have read : decodeText? "" = some s := by
    rw [← empty]
    exact decodeText?_encode_isUnreserved s
  exact filled (Option.some.inj (read.symm.trans (by decide)))

end Percent

namespace Request

variable {request : Request} {postId fileName : String}

theorem spellsFile_of_path (filled : fileName ≠ "")
    (path : request.path = Resource.filePath postId fileName) :
    request.SpellsFile postId fileName := by
  refine ⟨_, _, ?_, Percent.decodeText?_encode_isUnreserved postId,
    Percent.decodeText?_encode_isUnreserved fileName⟩
  rw [path]
  unfold Resource.filePath
  -- What is escaped has no slash left, so the path has the segments it was made of.
  refine Route.ofPath_storagePath (if_neg (Percent.encode_ne_empty filled)) ?_
  simp [Percent.slash_not_mem_encode]

theorem SpellsFile.eq_of_names (spelled : request.SpellsFile postId fileName) {id : Uuid}
    {route : Route} {access : Access} (found : Route.ofPath request.path = some route)
    (named : Names id route access) :
    access = .object (Resource.postFile postId fileName).key := by
  obtain ⟨rawPost, rawFile, leads, post, file⟩ := spelled
  obtain rfl := Option.some.inj (leads.symm.trans found)
  cases named with
  | object addressed plain =>
    cases addressed with
    | postFile path other_post other_file =>
      simp only [List.mem_cons, List.not_mem_nil, or_false, reduceCtorEq] at path
      obtain ⟨rfl, rfl⟩ := Route.postFile.inj path
      rw [← Option.some.inj (post.symm.trans other_post),
        ← Option.some.inj (file.symm.trans other_file)]
    | profileImage path user => simp at path

end Request

/-! ## What `HEAD` reports -/

namespace Digest

theorem allows_of_mem_md5Hex {bytes : ByteArray} {c : Char} (member : c ∈ (md5Hex bytes).toList) :
    HeaderValue.Allows c := by
  have digit : ∀ n < 16, 32 ≤ (Text.hexDigit n).toNat ∧ (Text.hexDigit n).toNat ≠ 127 := by decide
  rw [md5Hex, Text.hex, String.toList_ofList, List.mem_flatMap] at member
  obtain ⟨b, -, written⟩ := member
  have small := b.toNat_lt
  rw [HeaderValue.allows_iff]
  simp only [List.mem_cons, List.not_mem_nil, or_false] at written
  rcases written with rfl | rfl
  · exact .inr (digit _ (by omega))
  · exact .inr (digit _ (by omega))

theorem ofText?_quoted_md5Hex (bytes : ByteArray) :
    HeaderValue.ofText? ("\"" ++ md5Hex bytes ++ "\"") = some ("\"" ++ md5Hex bytes ++ "\"") := by
  have quote : HeaderValue.Allows '"' := by simp [HeaderValue.allows_iff]
  refine HeaderValue.ofText?_eq_some_iff.mpr ⟨rfl, fun c member => ?_⟩
  simp only [String.toList_append, List.mem_append] at member
  rcases member with (opening | tag) | closing
  · obtain rfl : c = '"' := by simpa using opening
    exact quote
  · exact allows_of_mem_md5Hex tag
  · obtain rfl : c = '"' := by simpa using closing
    exact quote

end Digest

namespace ObjectResponse

/-- An object's own headers state its length, so none is added. -/
theorem finish_headOnly (info : ObjectInfo) :
    Gateway.finish "HEAD" (headOnly info) = headOnly info := by
  have stated : (headOnly info).withLength = headOnly info := by
    simp [Response.withLength, Response.header?, headOnly, headers]
  rw [Gateway.finish, stated]
  rfl

theorem values_headOnly (info : ObjectInfo) :
    (headOnly info).values "content-length" = [toString info.size.toNat] ∧
      (headOnly info).values "etag" =
        (HeaderValue.ofText? ("\"" ++ info.etag ++ "\"")).toList := by
  refine ⟨values_length rfl, ?_⟩
  have listed : ("etag", some ("\"" ++ info.etag ++ "\"")) ∈ sources info := by simp [sources]
  exact values_of_source rfl listed

end ObjectResponse

/-! ## Callers and forms -/

theorem Site.delete_ends_of_stored {site : Site} {now : Timestamp} {contents : Contents}
    {key : String} (created : contents.created = true) {object : StoredObject}
    (stored : contents.objects[key]? = some object) :
    Ends ((site.media (fun _ => none) now).delete key) contents (.ok ()) (contents.drop key) := by
  -- A deletion looks first whether there is something to delete.
  have described := stat_ends_of_created site key created now
  rw [Contents.find, stored] at described
  have dropped : Ends ((MemoryStore.faulty site.bucket (fun _ => none) now).delete key) contents
      (.ok ()) (contents.drop key) := by
    refine MemoryStore.delete_ends_iff.mpr ?_
    simp [MemoryStore.obstacle?, created]
  exact described.bind dropped

namespace Gateway

theorem boundary_answers {σ : Type} {before : σ} {request : Request} {separator : String}
    (delimited : Multipart.boundary? request = some separator) :
    Ends (boundary request) before (.ok separator) before := by
  rw [boundary, delimited]
  exact ends_pure_iff.mpr ⟨rfl, rfl⟩

/-- The caller is known to the authorizer. -/
def IsKnown (judge : String → AccessTarget → Verdict) (request : Request) : Prop :=
  ∃ caller user, Token.ofRequest? request = some caller ∧
    judge caller .authenticated = .decided { allowed := true, identity := some user }

/-- The caller may change the attachments of a post. -/
def IsEditor (judge : String → AccessTarget → Verdict) (request : Request) (postId : String) :
    Prop :=
  ∃ caller owner, Token.ofRequest? request = some caller ∧
    judge caller (.editPost postId) = .decided { allowed := true, identity := owner }

/-- The first attachment of the form has this type and these bytes. -/
def Delivers (site : Site) (request : Request) (form : Option Multipart.Reading)
    (contentType : Option String) (bytes : ByteArray) : Prop :=
  ∃ separator selected, Multipart.boundary? request = some separator ∧
    request.reading site.maxUploadBytes form separator attachmentFields = .ok (some selected) ∧
    selected.head.contentType = contentType ∧ Chunk.collect selected.content = .ok bytes

variable {site : Site} {faults : Faults} {now : Timestamp}
  {judge : String → AccessTarget → Verdict} {id : Uuid} {request : Request}
  {contents : Contents} {postId fileName : String}

theorem postEdit_answers {caller : String} {owner : Option String}
    (granted : judge caller (.editPost postId) =
      .decided { allowed := true, identity := owner }) :
    Ends (Permission.postEdit (site.gateway faults now judge).authorizer caller postId) contents
      (.ok ()) contents := by
  have asked : ((site.gateway faults now judge).authorizer caller (.editPost postId)).run contents =
      (.decided { allowed := true, identity := owner }, contents) :=
    Permission.run_authorizerOf granted _
  exact Permission.postEdit_ends asked

theorem receive_answers {read : Multipart.Reading} {admission : Admission}
    {selected : Multipart.Selected} {bytes : ByteArray}
    (found : read admission.separator admission.names = .ok (some selected))
    (taken : Chunk.collect selected.content = .ok bytes)
    (free : site.obstacle? faults .put (admission.keyFor (selected.head.fileName.getD "")) contents =
      none) :
    let key := admission.keyFor (selected.head.fileName.getD "")
    Ends ((site.gateway faults now judge).receive read admission) contents
      (.ok (Response.json admission.status
        (site.receipt key selected.head.contentType bytes).toJson))
      (contents.write key (site.written now key selected.head.contentType bytes)) := by
  intro key
  rw [receive, found]
  exact ends_map_iff.mpr ⟨_, ends_mapError_iff.mpr ⟨_, Site.upload_ends_of_collect taken free, rfl⟩,
    rfl⟩

/-! ## Methods -/

section Methods

variable {σ : Type} {gateway : Gateway (StateM σ)} {rawPost rawFile : String}

theorem handle_list (method : request.method = "GET") :
    gateway.handle id request (.post rawPost) = gateway.listPostFiles request rawPost := by
  simp [handle, method]

theorem handle_get (method : request.method = "GET") :
    gateway.handle id request (.postFile rawPost rawFile) =
      gateway.getObject (postFile rawPost rawFile) := by
  simp [handle, method]

theorem handle_head (method : request.method = "HEAD") :
    gateway.handle id request (.postFile rawPost rawFile) =
      gateway.headObject request (postFile rawPost rawFile) := by
  simp only [handle, method]

theorem handle_delete (method : request.method = "DELETE") :
    gateway.handle id request (.postFile rawPost rawFile) =
      gateway.deletePostFile request rawPost rawFile := by
  simp only [handle, method]

end Methods

/-! ## Requests on an attachment -/

variable (spelled : request.SpellsFile postId fileName)
  (plain : (Resource.postFile postId fileName).IsPlain)

include spelled

/-- Over any store, such a request makes the store look at its object only. -/
theorem accesses_of_spelled {σ : Type} (store : ObjectStore (StateM σ))
    (form : Option Multipart.Reading) (before : σ) :
    ∀ access ∈
      (((site.observedGateway store judge).respondBy id request form).run (before, [])).2.2,
      access = .object (Resource.postFile postId fileName).key := by
  intro access made
  -- The log was empty, so all of it comes from this request.
  obtain ⟨accesses, log, may, -⟩ :=
    @respondBy_names _ site store judge id request form before []
  rw [List.nil_append] at log
  obtain ⟨route, found, named⟩ := may access (log ▸ made)
  exact spelled.eq_of_names found named

include plain

theorem get_of_stored (method : request.method = "GET") (created : contents.created = true)
    {object : StoredObject}
    (stored : contents.objects[(Resource.postFile postId fileName).key]? = some object) :
    ((site.gateway (fun _ => none) now judge).respond id request).run contents =
      (finish "GET" (ObjectResponse.full object), contents) := by
  obtain ⟨rawPost, rawFile, found, post, file⟩ := spelled
  have opened := Site.open_ends_of_created site (Resource.postFile postId fileName).key created now
  rw [Contents.find, stored] at opened
  have answered : Ends ((site.gateway (fun _ => none) now judge).getObject
      (postFile rawPost rawFile)) contents (.ok (ObjectResponse.full object)) contents :=
    getObject_answers (postFile_answers post file) plain opened
  rw [← handle_get method] at answered
  rw [respond_of_handle found (by simp [Route.methods, method]) answered, method]
  rfl

theorem head_of_stored (known : IsKnown judge request) (method : request.method = "HEAD")
    (created : contents.created = true) {object : StoredObject}
    (stored : contents.objects[(Resource.postFile postId fileName).key]? = some object) :
    ((site.gateway (fun _ => none) now judge).respond id request).run contents =
      (finish "HEAD" (ObjectResponse.headOnly object.info), contents) := by
  obtain ⟨rawPost, rawFile, found, post, file⟩ := spelled
  obtain ⟨caller, user, presented, granted⟩ := known
  have described :=
    Site.stat_ends_of_created site (Resource.postFile postId fileName).key created now
  rw [Contents.find, stored] at described
  have asked : ((site.gateway (fun _ => none) now judge).authorizer caller .authenticated).run
      contents = (.decided { allowed := true, identity := some user }, contents) :=
    Permission.run_authorizerOf granted _
  have answered : Ends ((site.gateway (fun _ => none) now judge).headObject request
      (postFile rawPost rawFile)) contents (.ok (ObjectResponse.headOnly object.info)) contents :=
    headObject_answers (postFile_answers post file) plain presented asked described
  rw [← handle_head method] at answered
  rw [respond_of_handle found (by simp [Route.methods, method]) answered, method]
  rfl

theorem put_of_delivered (editor : IsEditor judge request postId) (method : request.method = "PUT")
    {form : Option Multipart.Reading} {contentType : Option String} {bytes : ByteArray}
    (delivered : Delivers site request form contentType bytes)
    (free : site.obstacle? faults .put (Resource.postFile postId fileName).key contents = none) :
    let key := (Resource.postFile postId fileName).key
    ((site.gateway faults now judge).respondBy id request form).run contents =
      (finish "PUT" (Response.json 200 (site.receipt key contentType bytes).toJson),
        contents.write key (site.written now key contentType bytes)) := by
  intro key
  obtain ⟨rawPost, rawFile, found, post, file⟩ := spelled
  obtain ⟨caller, owner, presented, granted⟩ := editor
  obtain ⟨separator, selected, delimited, offered, rfl, taken⟩ := delivered
  have admitted : (site.gateway faults now judge).admit? id request (.postFile rawPost rawFile) =
      some ((site.gateway faults now judge).admitReplacement request rawPost rawFile) :=
    admit?_eq_some_iff.mpr (.replacement method)
  have passed : Ends ((site.gateway faults now judge).admitReplacement request rawPost rawFile)
      contents (.ok ⟨attachmentFields, separator, fun _ => key, 200⟩) contents := by
    refine (pathParam_answers post).bind ((pathParam_answers file).bind ?_)
    refine (token_answers presented).bind ((boundary_answers delimited).bind ?_)
    refine (keyOf_answers plain).bind ((postEdit_answers granted).bind ?_)
    exact ends_pure_iff.mpr ⟨rfl, rfl⟩
  have answered : Ends ((site.gateway faults now judge).handleForm id request
      (request.reading site.maxUploadBytes form) (.postFile rawPost rawFile)) contents
      (.ok (Response.json 200 (site.receipt key selected.head.contentType bytes).toJson))
      (contents.write key (site.written now key selected.head.contentType bytes)) := by
    rw [handleForm, admitted]
    exact passed.bind (receive_answers offered taken free)
  rw [respondBy_eq, respondForm]
  rw [show (site.gateway faults now judge).maxUploadBytes = site.maxUploadBytes from rfl,
    answer_run found (by simp [Route.methods, method]) answered, method]
  rfl

theorem delete_of_stored (editor : IsEditor judge request postId)
    (method : request.method = "DELETE") (created : contents.created = true)
    {object : StoredObject}
    (stored : contents.objects[(Resource.postFile postId fileName).key]? = some object) :
    let key := (Resource.postFile postId fileName).key
    ((site.gateway (fun _ => none) now judge).respond id request).run contents =
      (finish "DELETE" (ObjectResponse.deleted key), contents.drop key) := by
  intro key
  obtain ⟨rawPost, rawFile, found, post, file⟩ := spelled
  obtain ⟨caller, owner, presented, granted⟩ := editor
  have deleted : Ends ((site.media (fun _ => none) now).delete key) contents (.ok ())
      (contents.drop key) :=
    Site.delete_ends_of_stored created stored
  have answered : Ends ((site.gateway (fun _ => none) now judge).deletePostFile request rawPost
      rawFile) contents (.ok (ObjectResponse.deleted key)) (contents.drop key) := by
    refine (pathParam_answers post).bind ((pathParam_answers file).bind ?_)
    refine (token_answers presented).bind ((keyOf_answers plain).bind ?_)
    refine (postEdit_answers granted).bind ?_
    exact (storeAction_answers deleted).bind (ends_pure_iff.mpr ⟨rfl, rfl⟩)
  rw [← handle_delete method] at answered
  rw [respond_of_handle found (by simp [Route.methods, method]) answered, method]
  rfl

end Gateway

/-! ## Where a name leads -/

namespace Site

/-- Below a post, the file name leads to the object under the key, and whatever is
asked for on a path with this name, no store is made to look anywhere else. -/
structure Locates (site : Site) (postId fileName key : String) : Prop where
  safe : Segment.isSafe fileName = true
  key_eq : key = (Resource.postFile postId fileName).key
  spelled : ∀ request : Request, request.path = Resource.filePath postId fileName →
    request.SpellsFile postId fileName
  only : ∀ {σ : Type} (store : ObjectStore (StateM σ)) judge id request form before,
    request.SpellsFile postId fileName →
    ∀ access ∈
      (((site.observedGateway store judge).respondBy id request form).run (before, [])).2.2,
      access = .object key

/-- Below a post, the file name yields this object to readers. -/
structure Serves (site : Site) (contents : Contents) (postId fileName : String)
    (object : StoredObject) : Prop where
  fetched : ∀ now judge id request, request.SpellsFile postId fileName →
    request.method = "GET" →
    let answer := (((site.gateway (fun _ => none) now judge).respond id request).run contents).1
    answer.status = 200 ∧ answer.content = .bytes object.bytes
  headed : ∀ now judge id request, request.SpellsFile postId fileName →
    request.method = "HEAD" → Gateway.IsKnown judge request →
    let answer := (((site.gateway (fun _ => none) now judge).respond id request).run contents).1
    answer.status = 200 ∧ answer.values "content-length" = [toString object.bytes.size] ∧
      answer.values "etag" = ["\"" ++ object.info.etag ++ "\""]

/-- Below a post, editors replace and delete the object under the key by the file name,
and nothing else changes. -/
structure Edits (site : Site) (contents : Contents) (postId fileName key : String) : Prop where
  replaced : ∀ now judge id request form contentType bytes, request.SpellsFile postId fileName →
    request.method = "PUT" → Gateway.IsEditor judge request postId →
    Gateway.Delivers site request form contentType bytes →
    let run := ((site.gateway (fun _ => none) now judge).respondBy id request form).run contents
    run.1.status = 200 ∧ run.2 = contents.write key (site.written now key contentType bytes)
  deleted : ∀ now judge id request, request.SpellsFile postId fileName →
    request.method = "DELETE" → Gateway.IsEditor judge request postId →
    let run := ((site.gateway (fun _ => none) now judge).respond id request).run contents
    run.1.status = 200 ∧ run.2 = contents.drop key

variable {site : Site} {contents : Contents} {postId fileName : String}

theorem locates (site : Site) (postId : String) (plain_file : Segment.IsPlain fileName) :
    site.Locates postId fileName (Resource.postFile postId fileName).key where
  safe := Segment.isSafe_iff.mpr plain_file
  key_eq := rfl
  spelled _ path := Request.spellsFile_of_path plain_file.filled path
  only store _ _ _ form before spelled := Gateway.accesses_of_spelled spelled store form before

theorem serves_of_written (plain : (Resource.postFile postId fileName).IsPlain)
    (created : contents.created = true) {now : Timestamp}
    {contentType : Option String} {bytes : ByteArray}
    (stored : contents.objects[(Resource.postFile postId fileName).key]? =
      some (site.written now (Resource.postFile postId fileName).key contentType bytes)) :
    site.Serves contents postId fileName
      (site.written now (Resource.postFile postId fileName).key contentType bytes) where
  fetched later judge id request spelled method := by
    rw [Gateway.get_of_stored spelled plain method created stored]
    exact ⟨Response.status_finish _ _, rfl⟩
  headed later judge id request spelled method known := by
    rw [Gateway.head_of_stored spelled plain known method created stored,
      ObjectResponse.finish_headOnly]
    obtain ⟨length, tag⟩ := ObjectResponse.values_headOnly
      (site.written now (Resource.postFile postId fileName).key contentType bytes).info
    exact ⟨rfl, length, tag.trans (congrArg Option.toList (Digest.ofText?_quoted_md5Hex bytes))⟩

theorem edits_of_stored (plain : (Resource.postFile postId fileName).IsPlain)
    (created : contents.created = true) {object : StoredObject}
    (stored : contents.objects[(Resource.postFile postId fileName).key]? = some object) :
    site.Edits contents postId fileName (Resource.postFile postId fileName).key where
  replaced now judge id request form contentType bytes spelled method editor delivered := by
    have free : site.obstacle? (fun _ => none) .put (Resource.postFile postId fileName).key
        contents = none := by
      simp [obstacle?, MemoryStore.obstacle?, created]
    rw [Gateway.put_of_delivered spelled plain editor method delivered free]
    exact ⟨Response.status_finish _ _, rfl⟩
  deleted now judge id request spelled method editor := by
    rw [Gateway.delete_of_stored spelled plain editor method created stored]
    exact ⟨Response.status_finish _ _, rfl⟩

end Site

end MediaVault
