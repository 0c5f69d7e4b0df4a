import Mathlib.Data.List.Forall2
import MediaVault.Proofs.Api.Attachments

/-!
# New attachments

A request on a post that is answered with 201 passed every check, and all refusals
have other statuses, so it stored one object.  The name of this object starts with
the identifier that was drawn: when no attachment of the post had it, nothing is
overwritten, and any number of such requests add as many objects.
-/

namespace MediaVault

/-! ## Answers to uploads -/

/-- The members of an answer that reports the upload. -/
structure UploadedObject.Shows (uploaded : UploadedObject) (answer : Json) : Prop where
  bucket : answer.member? "bucket" = some (.text uploaded.bucket)
  object : answer.member? "object" = some (.text uploaded.object)
  fileName : answer.member? "fileName" = some (.text uploaded.fileName)
  etag : answer.member? "etag" = some (.text uploaded.etag)
  size : answer.member? "size" = some (.int uploaded.size)
  contentType : answer.member? "contentType" = some (.text uploaded.contentType)

theorem UploadedObject.shows_toJson (uploaded : UploadedObject) :
    uploaded.Shows uploaded.toJson where
  bucket := rfl
  object := rfl
  fileName := rfl
  etag := rfl
  size := rfl
  contentType := rfl

/-! ## What is added -/

namespace Contents

/-- No attachment of the post has a name that starts with the identifier. -/
def Unused (contents : Contents) (postId : String) (id : Uuid) : Prop :=
  ∀ fileName object, Segment.isSafe fileName = true →
    contents.objects[(Resource.postFile postId fileName).key]? = some object →
    fileName.toList.take 36 ≠ id.text.toList

/-- One new object under each of the keys, and nothing else is different. -/
structure Gains (before : Contents) (keys : List String) (after : Contents) : Prop where
  distinct : keys.Nodup
  absent : ∀ key ∈ keys, before.objects[key]? = none
  present : ∀ key ∈ keys, after.objects[key]?.isSome = true
  elsewhere : ∀ key, key ∉ keys → after.objects[key]? = before.objects[key]?
  size : after.objects.size = before.objects.size + keys.length
  created : after.created = before.created

theorem Gains.refl (contents : Contents) : contents.Gains [] contents where
  distinct := List.nodup_nil
  absent := by simp
  present := by simp
  elsewhere _ _ := rfl
  size := rfl
  created := rfl

theorem gains_write {contents : Contents} {key : String} (absent : contents.objects[key]? = none)
    (object : StoredObject) : contents.Gains [key] (contents.write key object) where
  distinct := by simp
  absent := by simpa using absent
  present := by simp
  elsewhere other differ := by
    rw [getElem?_write, if_neg fun same => differ (by simp [same])]
  size := by
    have missing : key ∉ contents.objects := by
      simp [Std.TreeMap.mem_iff_isSome_getElem?, absent]
    simp [write, Std.TreeMap.size_insert, missing]
  created := rfl

/-- What is gained later is none of what was gained before. -/
theorem Gains.trans {before between after : Contents} {keys more : List String}
    (first : before.Gains keys between) (second : between.Gains more after) :
    before.Gains (keys ++ more) after where
  distinct := by
    refine List.nodup_append.mpr ⟨first.distinct, second.distinct, ?_⟩
    rintro key member _ later rfl
    have there := first.present key member
    rw [second.absent key later] at there
    cases there
  absent key member := by
    by_cases early : key ∈ keys
    · exact first.absent key early
    · rw [← first.elsewhere key early]
      exact second.absent key ((List.mem_append.mp member).resolve_left early)
  present key member := by
    by_cases late : key ∈ more
    · exact second.present key late
    · rw [second.elsewhere key late]
      exact first.present key ((List.mem_append.mp member).resolve_right late)
  elsewhere key other := by
    obtain ⟨early, late⟩ := not_or.mp (mt List.mem_append.mpr other)
    rw [second.elsewhere key late, first.elsewhere key early]
  size := by
    rw [second.size, first.size, List.length_append]
    omega
  created := second.created.trans first.created

end Contents

/-- The request asks for a new attachment of a post. -/
structure Visit.Posts (visit : Visit) (postId : String) : Prop where
  method : visit.request.method = "POST"
  spelled : visit.request.SpellsPost postId

namespace Site

/-- What is answered to a request. -/
def answer (site : Site) (contents : Contents) (visit : Visit) : Response :=
  let gateway := site.gateway visit.faults visit.now visit.judge
  ((gateway.respondBy visit.id visit.request visit.form).run contents).1

/-- The request stored the form it delivered as one new object.  The answer names it by the
identifier that was drawn, and by this name it is found below the post. -/
structure Attached (site : Site) (before : Contents) (visit : Visit) (postId : String)
    (uploaded : UploadedObject) (object : StoredObject) : Prop where
  answered : ∃ answer, (site.answer before visit).content = .json answer ∧ uploaded.Shows answer
  named : uploaded.fileName = visit.id.text ∨ ∃ extension : String,
    FileName.isPlainExtension extension.toList = true ∧
      uploaded.fileName = visit.id.text ++ "." ++ extension
  located : site.Locates postId uploaded.fileName uploaded.object
  gained : before.Gains [uploaded.object] (site.afterVisit before visit)
  stored : (site.afterVisit before visit).objects[uploaded.object]? = some object
  delivered : ∃ contentType bytes,
    Gateway.Delivers site visit.request visit.form contentType bytes ∧
    uploaded = site.receipt uploaded.object contentType bytes ∧
    object = site.written visit.now uploaded.object contentType bytes
  served : site.Serves (site.afterVisit before visit) postId uploaded.fileName object
  edited : site.Edits (site.afterVisit before visit) postId uploaded.fileName uploaded.object

variable {site : Site} {before : Contents} {visit : Visit} {postId : String}

/-- A request on a post that succeeds stored its form under a fresh name. -/
theorem afterVisit_of_posts (posts : visit.Posts postId)
    (succeeded : (site.answer before visit).status = 201) :
    ∃ clientName contentType bytes, Segment.isSafe postId = true ∧
      Gateway.Delivers site visit.request visit.form contentType bytes ∧
      let key := (Resource.attachment visit.id postId clientName).key
      before.created = true ∧
        (site.answer before visit).content = .json (site.receipt key contentType bytes).toJson ∧
        site.afterVisit before visit =
          before.write key (site.written visit.now key contentType bytes) := by
  obtain ⟨rawPost, leads, decoded⟩ := posts.spelled
  -- The status excludes the answers to unknown paths and methods, and all refusals.
  rcases Gateway.respondBy_ends (site.gateway visit.faults visit.now visit.judge) visit.id
    visit.request visit.form before with ⟨-, refused⟩ | ⟨route, out, found, -, handled, answer⟩
  · have status : (site.answer before visit).isSuccess = true := by
      rw [Response.isSuccess, succeeded]
      rfl
    exact absurd (status.symm.trans refused) (by decide)
  obtain rfl := Option.some.inj (leads.symm.trans found)
  have admitted : (site.gateway visit.faults visit.now visit.judge).admit? visit.id visit.request
      (.post rawPost) = some _ := Gateway.admit?_eq_some_iff.mpr (.attachment posts.method)
  rcases Gateway.handleForm_uploads admitted handled with
    ⟨-, refusal, rfl⟩ | ⟨_, _, _, ⟨naming, separator, target, granted, delimited⟩, stored, rfl⟩
  · have status : refusal.toResponse.status = 201 := by
      rw [← succeeded, Site.answer, answer, Response.status_finish]
      rfl
    rw [Gateway.handleForm, admitted] at handled
    have failed : refusal.toResponse.isSuccess = false :=
      (Gateway.admit_checked admitted).fails.bind (fun _ => Gateway.receive_fails) _ _ _ handled
    rw [Response.isSuccess, status] at failed
    cases failed
  · obtain rfl : naming = Resource.attachment visit.id postId := by
      funext clientName
      have named := target clientName
      rw [Route.target?, decoded, Option.map_some] at named
      exact (Option.some.inj named).symm
    have plain := (granted "").isPlain postId (by simp [Resource.attachment, Resource.segments])
    rw [Site.afterVisit, Site.answer, answer, posts.method]
    generalize (((site.gateway visit.faults visit.now visit.judge).respondBy visit.id visit.request
      visit.form).run before).2 = after at *
    cases stored with
    | part selected bytes offered named taken free =>
      subst named
      exact ⟨_, _, bytes, Segment.isSafe_iff.mpr plain,
        ⟨separator, selected, delimited, offered, rfl, taken⟩,
        created_of_obstacle?_eq_none free, rfl, rfl⟩

theorem attached_of_posts (posts : visit.Posts postId) (unused : before.Unused postId visit.id)
    (succeeded : (site.answer before visit).status = 201) :
    ∃ uploaded object, site.Attached before visit postId uploaded object := by
  obtain ⟨clientName, contentType, bytes, safe, delivered, created, answered, after⟩ :=
    afterVisit_of_posts posts succeeded
  have plain_file := FileName.isPlain_fresh visit.id clientName
  have plain := Resource.isPlain_postFile (Segment.isSafe_iff.mp safe) plain_file
  -- A fresh name is one that the post cannot have had, because of how it starts.
  have absent : before.objects[(Resource.attachment visit.id postId clientName).key]? = none := by
    refine Option.eq_none_iff_forall_ne_some.mpr fun object present => ?_
    exact unused _ object (Segment.isSafe_iff.mpr plain_file) present
      (FileName.take_fresh visit.id clientName)
  have stored : (site.afterVisit before visit).objects[
      (Resource.attachment visit.id postId clientName).key]? =
      some (site.written visit.now (Resource.attachment visit.id postId clientName).key contentType
        bytes) := by
    rw [after, Contents.getElem?_write, if_pos rfl]
  have created_after : (site.afterVisit before visit).created = true := by
    rw [after, Contents.created_write, created]
  have name : (site.receipt (Resource.attachment visit.id postId clientName).key contentType
      bytes).fileName = FileName.fresh visit.id clientName :=
    Resource.fileNameOf_key postId plain_file
  refine ⟨_, _, ⟨⟨_, answered, UploadedObject.shows_toJson _⟩, ?_, ?_, ?_, stored, ⟨contentType, bytes, delivered, rfl, rfl⟩, ?_, ?_⟩⟩
  · rw [name]
    exact FileName.fresh_eq visit.id clientName
  · rw [name]
    exact site.locates postId plain_file
  · rw [after]
    exact Contents.gains_write absent _
  · rw [name]
    exact serves_of_written plain created_after stored
  · rw [name]
    exact edits_of_stored plain created_after stored

theorem Attached.take_fileName {uploaded : UploadedObject} {object : StoredObject}
    (attached : site.Attached before visit postId uploaded object) :
    uploaded.fileName.toList.take 36 = visit.id.text.toList := by
  have long : visit.id.text.toList.length = 36 := by
    rw [Uuid.text, String.toList_ofList, visit.id.length_chars]
  rcases attached.named with same | ⟨extension, -, same⟩
  · rw [same, List.take_of_length_le (Nat.le_of_eq long)]
  · rw [same, String.toList_append, String.toList_append, List.append_assoc,
      List.take_left' long]

theorem Attached.fileNameOf_object {uploaded : UploadedObject} {object : StoredObject}
    (attached : site.Attached before visit postId uploaded object) :
    Resource.fileNameOf uploaded.object = uploaded.fileName := by
  rw [attached.located.key_eq]
  exact Resource.fileNameOf_key postId (Segment.isSafe_iff.mp attached.located.safe)

/-! ## Many requests -/

/-- Answers name different objects when they were given under different identifiers. -/
theorem Attached.object_ne {other : Contents} {later : Visit} {otherId : String}
    {uploaded another : UploadedObject} {object old : StoredObject}
    (first : site.Attached before visit postId uploaded object)
    (second : site.Attached other later otherId another old) (differ : visit.id ≠ later.id) :
    uploaded.object ≠ another.object := by
  intro same
  have names : uploaded.fileName = another.fileName := by
    rw [← first.fileNameOf_object, same, second.fileNameOf_object]
  refine differ (Uuid.text_inj (String.toList_inj.mp ?_))
  rw [← first.take_fileName, names, second.take_fileName]

theorem Attached.unused {uploaded : UploadedObject} {object : StoredObject}
    (attached : site.Attached before visit postId uploaded object) {id : Uuid} {otherId : String}
    (differ : visit.id ≠ id) (unused : before.Unused otherId id) :
    (site.afterVisit before visit).Unused otherId id := by
  intro fileName old safe present start
  -- Under the new key the name starts with the identifier that was drawn, not with this one.
  by_cases new : (Resource.postFile otherId fileName).key = uploaded.object
  · have name : fileName = uploaded.fileName := by
      rw [← attached.fileNameOf_object, ← new]
      exact (Resource.fileNameOf_key otherId (Segment.isSafe_iff.mp safe)).symm
    refine differ (Uuid.text_inj (String.toList_inj.mp ?_))
    rw [← attached.take_fileName, ← name, start]
  · rw [attached.gained.elsewhere _ (by simpa using new)] at present
    exact unused fileName old safe present start

/-- The request asked for an attachment of a post, and this is it. -/
def Creates (site : Site) (found : Contents × Visit) (uploaded : UploadedObject) : Prop :=
  ∃ postId object, found.2.Posts postId ∧ site.Attached found.1 found.2 postId uploaded object

/-- The request asks for an attachment of a post under an unused identifier and succeeds. -/
def Succeeds (site : Site) (found : Contents × Visit) : Prop :=
  (∃ postId, found.2.Posts postId ∧ found.1.Unused postId found.2.id) ∧
    (site.answer found.1 found.2).status = 201

/-- Requests in a row, each with the contents that it finds. -/
def met (site : Site) : Contents → List Visit → List (Contents × Visit)
  | _, [] => []
  | before, visit :: visits => (before, visit) :: site.met (site.afterVisit before visit) visits

theorem creates_of_succeeds {found : Contents × Visit} (succeeds : site.Succeeds found) :
    ∃ uploaded, site.Creates found uploaded := by
  obtain ⟨⟨postId, posts, unused⟩, succeeded⟩ := succeeds
  obtain ⟨uploaded, object, attached⟩ := attached_of_posts posts unused succeeded
  exact ⟨uploaded, postId, object, posts, attached⟩

/-- Whatever happens between the requests, they create different objects. -/
theorem creates_distinct (requests : List (Contents × Visit))
    (succeed : ∀ found ∈ requests, site.Succeeds found)
    (distinct : (requests.map (·.2.id)).Nodup) :
    ∃ uploads, List.Forall₂ site.Creates requests uploads ∧ (uploads.map (·.object)).Nodup := by
  -- A later object belongs to a later request, hence to another identifier.
  suffices some : ∃ uploads, List.Forall₂ site.Creates requests uploads ∧
      (∀ uploaded ∈ uploads, ∃ found ∈ requests, site.Creates found uploaded) ∧
      (uploads.map (·.object)).Nodup from
    some.imp fun _ known => ⟨known.1, known.2.2⟩
  induction requests with
  | nil => exact ⟨[], .nil, by simp, List.nodup_nil⟩
  | cons found requests ih =>
    obtain ⟨other, distinct⟩ := List.nodup_cons.mp distinct
    obtain ⟨succeeds, succeed⟩ := List.forall_mem_cons.mp succeed
    obtain ⟨uploads, created, made, different⟩ := ih succeed distinct
    obtain ⟨uploaded, creates⟩ := creates_of_succeeds succeeds
    refine ⟨uploaded :: uploads, .cons creates created, ?_, List.nodup_cons.mpr ⟨?_, different⟩⟩
    · refine List.forall_mem_cons.mpr ⟨⟨found, List.mem_cons_self, creates⟩, fun later among => ?_⟩
      obtain ⟨request, member, made⟩ := made later among
      exact ⟨request, List.mem_cons_of_mem _ member, made⟩
    · intro again
      obtain ⟨later, among, same⟩ := List.mem_map.mp again
      obtain ⟨request, member, postId, object, -, second⟩ := made later among
      obtain ⟨firstId, old, -, first⟩ := creates
      refine first.object_ne second (fun ids => other ?_) same.symm
      exact List.mem_map.mpr ⟨request, member, ids.symm⟩

/-- When nothing else happens in between, all identifiers stay unused until their turn. -/
theorem met_succeed (visits : List Visit) (before : Contents)
    (posts : ∀ visit ∈ visits, ∃ postId, visit.Posts postId ∧ before.Unused postId visit.id)
    (distinct : (visits.map (·.id)).Nodup)
    (succeeded : ∀ found ∈ site.met before visits, (site.answer found.1 found.2).status = 201) :
    ∃ uploads, List.Forall₂ site.Creates (site.met before visits) uploads ∧
      before.Gains (uploads.map (·.object)) (visits.foldl site.afterVisit before) := by
  induction visits generalizing before with
  | nil => exact ⟨[], .nil, .refl before⟩
  | cons visit visits ih =>
    obtain ⟨other, distinct⟩ := List.nodup_cons.mp distinct
    obtain ⟨⟨postId, asks, unused⟩, posts⟩ := List.forall_mem_cons.mp posts
    obtain ⟨first, succeeded⟩ := List.forall_mem_cons.mp succeeded
    obtain ⟨uploaded, object, attached⟩ := attached_of_posts asks unused first
    -- The identifiers still to come are others than the one that is used up.
    have kept : ∀ later ∈ visits, ∃ otherId, later.Posts otherId ∧
        (site.afterVisit before visit).Unused otherId later.id := by
      intro later member
      obtain ⟨otherId, asks, unused⟩ := posts later member
      have differ : visit.id ≠ later.id :=
        fun same => other (List.mem_map.mpr ⟨later, member, same.symm⟩)
      exact ⟨otherId, asks, attached.unused differ unused⟩
    obtain ⟨uploads, created, gained⟩ := ih (site.afterVisit before visit) kept distinct succeeded
    exact ⟨uploaded :: uploads, .cons ⟨postId, object, asks, attached⟩ created,
      attached.gained.trans gained⟩

end Site

/-- A request on a post that is answered with 201 under an unused identifier adds one
object to what is stored, and the name in its answer leads to this object.  Any number of
such requests under different identifiers create different objects, whatever happens in
between; if nothing does, the objects are exactly what is added. -/
theorem Site.posts_never_overwrite (site : Site) :
    (∀ (before : Contents) (visit : Visit) (postId : String), visit.Posts postId →
      before.Unused postId visit.id → (site.answer before visit).status = 201 →
      ∃ uploaded object, site.Attached before visit postId uploaded object) ∧
    (∀ requests : List (Contents × Visit), (∀ found ∈ requests, site.Succeeds found) →
      (requests.map (·.2.id)).Nodup →
      ∃ uploads, List.Forall₂ site.Creates requests uploads ∧ (uploads.map (·.object)).Nodup) ∧
    ∀ (visits : List Visit) (before : Contents),
      (∀ visit ∈ visits, ∃ postId, visit.Posts postId ∧ before.Unused postId visit.id) →
      (visits.map (·.id)).Nodup →
      (∀ found ∈ site.met before visits, (site.answer found.1 found.2).status = 201) →
      ∃ uploads, List.Forall₂ site.Creates (site.met before visits) uploads ∧
        before.Gains (uploads.map (·.object)) (visits.foldl site.afterVisit before) :=
  ⟨fun _ _ _ => attached_of_posts, creates_distinct, met_succeed⟩

/-- Two files of one name are sent to a post that is empty. -/
theorem Site.posts_never_overwrite_same_name :
    let site : Site :=
      { bucket := "media", cdn := none, publicSigner := none, signer := fun key _ => .ok key
        extract := fun _ _ => none, maxUploadBytes := 1000 }
    let form :=
      "--B\r\nContent-Disposition: form-data; name=\"file\"; filename=\"a.txt\"\r\n\r\nabc\r\n--B--"
    let post (id : Uuid) : Visit :=
      { faults := fun _ => none, now := default, id := id
        judge := fun _ _ => .decided { allowed := true, identity := some "ada" }
        request :=
          { method := "POST", target := "/api/v2/storage/posts/p?token=t"
            headers := [("content-type", "multipart/form-data; boundary=B".toUTF8)]
            body := { bytes := form.toUTF8 } } }
    let before : Contents := { created := true }
    let visits := [post ⟨0⟩, post ⟨1⟩]
    (∀ visit ∈ visits, visit.Posts "p" ∧ before.Unused "p" visit.id) ∧
      (visits.map (·.id)).Nodup ∧
      (∀ found ∈ site.met before visits, (site.answer found.1 found.2).status = 201) ∧
      (∃ uploaded object answer, site.Attached before (post ⟨0⟩) "p" uploaded object ∧
        (site.answer before (post ⟨0⟩)).content = .json answer ∧
        answer.member? "fileName" = some (.text "00000000-0000-0000-0000-000000000000.txt") ∧
        answer.member? "object" =
          some (.text "posts/p/00000000-0000-0000-0000-000000000000.txt")) ∧
      (∃ uploads, List.Forall₂ site.Creates [(before, post ⟨0⟩), (before, post ⟨1⟩)] uploads ∧
        (uploads.map (·.object)).Nodup) ∧
      (visits.foldl site.afterVisit before).objects.size = 2 := by
  intro site form post before visits
  have found : Route.ofPath (post ⟨0⟩).request.path = some (.post "p") := by decide +kernel
  have posts (id : Uuid) : (post id).Posts "p" := ⟨rfl, "p", found, by decide⟩
  have unused (id : Uuid) : before.Unused "p" id := fun _ _ _ present => by simp [before] at present
  have asked : ∀ visit ∈ visits, visit.Posts "p" ∧ before.Unused "p" visit.id := by
    simp [visits, posts, unused]
  have distinct : (visits.map (·.id)).Nodup := by decide
  have first : ∀ id ∈ [⟨0⟩, ⟨1⟩], (site.answer before (post id)).status = 201 := by decide +kernel
  have succeeded : ∀ found ∈ site.met before visits,
      (site.answer found.1 found.2).status = 201 := by
    decide +kernel
  obtain ⟨one, any, many⟩ := posts_never_overwrite site
  refine ⟨asked, distinct, succeeded, ?_, any _ ?_ (by decide), ?_⟩
  · obtain ⟨uploaded, object, attached⟩ :=
      one before (post ⟨0⟩) "p" (posts _) (unused _) (first _ (by simp))
    obtain ⟨answer, content, shows⟩ := attached.answered
    -- There is one object, so this is the one that the answer tells of.
    have keys : (site.afterVisit before (post ⟨0⟩)).objects.keys =
        ["posts/p/00000000-0000-0000-0000-000000000000.txt"] := by
      decide +kernel
    have key : uploaded.object = "posts/p/00000000-0000-0000-0000-000000000000.txt" := by
      have present := attached.gained.present uploaded.object (by simp)
      rw [← Std.TreeMap.mem_iff_isSome_getElem?, ← Std.TreeMap.mem_keys, keys] at present
      exact List.mem_singleton.mp present
    have fileName : uploaded.fileName = "00000000-0000-0000-0000-000000000000.txt" := by
      rw [← attached.fileNameOf_object, key]
      decide
    exact ⟨uploaded, object, answer, attached, content, fileName ▸ shows.fileName,
      key ▸ shows.object⟩
  · simp only [List.forall_mem_cons, List.not_mem_nil, false_implies, implies_true, and_true]
    exact ⟨⟨⟨"p", posts _, unused _⟩, first _ (by simp)⟩, ⟨"p", posts _, unused _⟩,
      first _ (by simp)⟩
  · obtain ⟨uploads, created, gained⟩ := many visits before
      (fun visit member => ⟨"p", asked visit member⟩) distinct succeeded
    rw [gained.size, List.length_map, ← created.length_eq]
    rfl

end MediaVault
