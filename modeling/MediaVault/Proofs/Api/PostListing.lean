import Mathlib.Data.List.Forall2
import MediaVault.Proofs.Api.Attachments
import MediaVault.Proofs.Store.Listing

/-!
# The listing of a post

What requests leave behind is always an upload of the site under the key of a
resource.  So the keys that start like those of a post are the keys of its
attachments, and every entry of the listing tells the name under which its object
is found again.
-/

namespace MediaVault

/-! ## What requests leave behind -/

/-- Every object was left by an upload of the site under its own key. -/
def Contents.Uploaded (site : Site) (contents : Contents) : Prop :=
  ∀ key object, contents.objects[key]? = some object →
    ∃ now contentType bytes, object = site.written now key contentType bytes

namespace Site

variable {site : Site} {contents : Contents}

/-- A request changes nothing, or it rewrites the object of one resource. -/
theorem afterVisit_ends (site : Site) (contents : Contents) (visit : Visit) :
    site.afterVisit contents visit = contents ∨ ∃ resource : Resource, resource.IsPlain ∧
      Gateway.Rewritten site visit.now contents resource.key (site.afterVisit contents visit) := by
  rcases Gateway.respondBy_ends (site.gateway visit.faults visit.now visit.judge) visit.id
    visit.request visit.form contents with ⟨same, _⟩ | ⟨route, out, _, _, handled, _⟩
  · exact .inl same
  rcases Gateway.handleForm_rewrites handled with same | ⟨resource, _, granted, rewritten, _⟩
  · exact .inl same
  · exact .inr ⟨resource, granted.isPlain, rewritten⟩

theorem created_afterVisits (site : Site) (visits : List Visit) (contents : Contents) :
    (visits.foldl site.afterVisit contents).created = contents.created := by
  induction visits generalizing contents with
  | nil => rfl
  | cons visit visits ih =>
    refine (ih (site.afterVisit contents visit)).trans ?_
    rcases site.afterVisit_ends contents visit with same | ⟨resource, _, rewritten⟩
    · rw [same]
    · exact rewritten.touched.created_eq

end Site

namespace Contents

theorem Uploaded.afterVisit {site : Site} {contents : Contents} (kept : contents.Uploaded site)
    (visit : Visit) : (site.afterVisit contents visit).Uploaded site := by
  intro key object present
  rcases site.afterVisit_ends contents visit with same | ⟨resource, _, rewritten⟩
  · exact kept key object (same ▸ present)
  generalize site.afterVisit contents visit = after at *
  by_cases own : resource.key = key
  · cases rewritten with
    | uploaded contentType bytes =>
      rw [getElem?_write, if_pos own] at present
      exact ⟨_, _, _, own ▸ (Option.some.inj present).symm⟩
    | dropped =>
      rw [getElem?_drop, if_pos own] at present
      cases present
  · exact kept key object (rewritten.touched.elsewhere (Ne.symm own) ▸ present)

theorem Uploaded.afterVisits {site : Site} {contents : Contents} (kept : contents.Uploaded site)
    (visits : List Visit) : (visits.foldl site.afterVisit contents).Uploaded site := by
  induction visits generalizing contents with
  | nil => exact kept
  | cons visit visits ih => exact ih (kept.afterVisit visit)

/-! ## The entries -/

/-- The entries that are listed for a post. -/
def filesOf (contents : Contents) (postId : String) : List ListedFile :=
  (((contents.scan (Resource.postPrefix postId)).map (·.info.summary)).filter fun summary =>
    summary.key != Resource.postPrefix postId).map ListedFile.ofSummary

/-- The entry that is expected for an attachment. -/
def entryOf (postId fileName : String) (object : StoredObject) : ListedFile :=
  { object := (Resource.postFile postId fileName).key, fileName := fileName
    size := object.bytes.size, etag := Digest.md5Hex object.bytes
    lastModified := object.info.lastModified }

variable {site : Site} {contents : Contents} {postId : String}

theorem ofSummary_written (now : Timestamp) {fileName : String} (plain : Segment.IsPlain fileName)
    (contentType : Option String) (bytes : ByteArray) :
    let object := site.written now (Resource.postFile postId fileName).key contentType bytes
    ListedFile.ofSummary object.info.summary = entryOf postId fileName object := by
  intro object
  have name : Resource.fileNameOf (Resource.postFile postId fileName).key = fileName :=
    Resource.fileNameOf_key postId plain
  have same : ListedFile.ofSummary object.info.summary =
      { entryOf postId fileName object with
        fileName := Resource.fileNameOf (Resource.postFile postId fileName).key } := rfl
  rw [same, name]
  rfl

theorem postPrefix_ne_key {fileName : String} (filled : fileName ≠ "") :
    (Resource.postFile postId fileName).key ≠ Resource.postPrefix postId := by
  intro same
  have texts := congrArg String.toList same
  simp [Resource.key, Resource.postPrefix, filled] at texts

/-- A stored key below a post has one component more. -/
theorem InNamespace.postFile_of_stored (named : contents.InNamespace)
    (plain_post : Segment.IsPlain postId) {key : String} {object : StoredObject}
    (present : contents.objects[key]? = some object)
    (starts : Text.startsWith (Resource.postPrefix postId) key = true) :
    ∃ fileName, Segment.IsPlain fileName ∧ key = (Resource.postFile postId fileName).key := by
  obtain ⟨resource, plain, rfl⟩ := named key object present
  obtain ⟨fileName, rfl⟩ := (Resource.startsWith_postPrefix_iff plain plain_post).mp starts
  exact ⟨fileName, plain fileName (by simp [Resource.segments]), rfl⟩

/-- A post lists its attachments and nothing else. -/
theorem mem_filesOf_iff (uploaded : contents.Uploaded site) (named : contents.InNamespace)
    (plain_post : Segment.IsPlain postId) {file : ListedFile} :
    file ∈ contents.filesOf postId ↔ ∃ fileName object, Segment.IsPlain fileName ∧
      contents.objects[(Resource.postFile postId fileName).key]? = some object ∧
      file = entryOf postId fileName object := by
  simp only [filesOf, mem_scan_iff, List.mem_map, List.mem_filter, bne_iff_ne, ne_eq]
  constructor
  -- A stored key that starts like those of the post names one of its attachments.
  · rintro ⟨_, ⟨⟨object, ⟨key, present, starts⟩, rfl⟩, other⟩, rfl⟩
    obtain ⟨fileName, plain_file, rfl⟩ := named.postFile_of_stored plain_post present starts
    obtain ⟨now, contentType, bytes, rfl⟩ := uploaded _ _ present
    exact ⟨fileName, _, plain_file, present, ofSummary_written now plain_file contentType bytes⟩
  -- The key of an attachment starts like that and goes on, so it is no folder marker.
  · rintro ⟨fileName, object, plain_file, present, rfl⟩
    obtain ⟨now, contentType, bytes, rfl⟩ := uploaded _ _ present
    have starts := Resource.startsWith_key postId fileName
    exact ⟨_, ⟨⟨_, ⟨_, present, starts⟩, rfl⟩, postPrefix_ne_key plain_file.filled⟩,
      ofSummary_written now plain_file contentType bytes⟩

theorem filesOf_sorted (uploaded : contents.Uploaded site) (postId : String) :
    (contents.filesOf postId).Pairwise fun file later =>
      Text.utf8 file.object < Text.utf8 later.object := by
  -- Every object knows the key it is stored under.
  have keyed : ∀ (key : String) (object : StoredObject),
      contents.objects[key]? = some object → object.info.key = key := by
    intro key object present
    obtain ⟨now, contentType, bytes, rfl⟩ := uploaded key object present
    rfl
  rw [filesOf, List.pairwise_map]
  apply List.Pairwise.filter
  exact List.pairwise_map.mpr (scan_sorted keyed _)

end Contents

/-! ## The listing -/

/-- The members of the entry of a listed file. -/
structure ListedFile.Shows (file : ListedFile) (entry : Json) : Prop where
  object : entry.member? "object" = some (.text file.object)
  fileName : entry.member? "fileName" = some (.text file.fileName)
  size : entry.member? "size" = some (.int file.size)
  etag : entry.member? "etag" = some (.text file.etag)
  lastModified : entry.member? "lastModified" = some (.text file.lastModified.iso)

theorem ListedFile.shows_toJson (file : ListedFile) : file.Shows file.toJson where
  object := rfl
  fileName := rfl
  size := rfl
  etag := rfl
  lastModified := rfl

/-- The answer lists these files, one entry for each. -/
def Response.Lists (response : Response) (files : List ListedFile) : Prop :=
  ∃ entries, response.content = .json (.object [("files", .list entries)]) ∧
    List.Forall₂ ListedFile.Shows files entries

theorem ObjectResponse.lists_listing (files : List ListedFile) :
    (ObjectResponse.listing files).Lists files :=
  ⟨_, rfl, List.forall₂_map_right_iff.mpr (List.forall₂_same.mpr fun file _ => file.shows_toJson)⟩

/-- Every file has its entry, and every entry is that of a file. -/
theorem Response.Lists.entries {response : Response} {files : List ListedFile}
    (lists : response.Lists files) :
    ∃ entries, response.content = .json (.object [("files", .list entries)]) ∧
      (∀ file ∈ files, ∃ entry ∈ entries, file.Shows entry) ∧
      ∀ entry ∈ entries, ∃ file ∈ files, file.Shows entry := by
  obtain ⟨entries, answered, told⟩ := lists
  refine ⟨entries, answered, ?_⟩
  clear answered
  induction told with
  | nil => simp
  | cons shows _ ih =>
    obtain ⟨shown, owned⟩ := ih
    refine ⟨List.forall_mem_cons.mpr ⟨⟨_, List.mem_cons_self, shows⟩, fun file member => ?_⟩,
      List.forall_mem_cons.mpr ⟨⟨_, List.mem_cons_self, shows⟩, fun entry member => ?_⟩⟩
    · obtain ⟨entry, among, shows⟩ := shown file member
      exact ⟨entry, List.mem_cons_of_mem _ among, shows⟩
    · obtain ⟨file, among, shows⟩ := owned entry member
      exact ⟨file, List.mem_cons_of_mem _ among, shows⟩

namespace Gateway

variable {site : Site} {now : Timestamp} {judge : String → AccessTarget → Verdict} {id : Uuid}
  {request : Request} {contents : Contents} {postId : String}

theorem list_ends_of_created (created : contents.created = true) :
    Ends ((site.media (fun _ => none) now).list (Resource.postPrefix postId)) contents
      (.ok (contents.filesOf postId)) contents := by
  have listed : Ends ((MemoryStore.faulty site.bucket (fun _ => none) now).list
      (Resource.postPrefix postId)) contents
      (.ok ((contents.scan (Resource.postPrefix postId)).map (·.info.summary))) contents := by
    refine MemoryStore.list_ends_iff.mpr ⟨rfl, ?_⟩
    simp [MemoryStore.obstacle?, created]
  exact listed.bind (ends_pure_iff.mpr ⟨rfl, rfl⟩)

theorem list_of_created (spelled : request.SpellsPost postId) (plain : Segment.IsPlain postId)
    (known : IsKnown judge request) (method : request.method = "GET")
    (created : contents.created = true) :
    ((site.gateway (fun _ => none) now judge).respond id request).run contents =
      (finish "GET" (ObjectResponse.listing (contents.filesOf postId)), contents) := by
  obtain ⟨rawPost, found, post⟩ := spelled
  obtain ⟨caller, user, presented, granted⟩ := known
  have asked : ((site.gateway (fun _ => none) now judge).authorizer caller .authenticated).run
      contents = (.decided { allowed := true, identity := some user }, contents) :=
    Permission.run_authorizerOf granted _
  have answered : Ends ((site.gateway (fun _ => none) now judge).listPostFiles request rawPost)
      contents (.ok (ObjectResponse.listing (contents.filesOf postId))) contents := by
    refine (pathParam_answers post).bind ((token_answers presented).bind ?_)
    refine (requireSafe_answers (by simpa using plain)).bind ?_
    refine (Permission.identity_ends asked).bind ?_
    exact (storeAction_answers (list_ends_of_created created)).bind (ends_pure_iff.mpr ⟨rfl, rfl⟩)
  rw [← handle_list method] at answered
  rw [respond_of_handle found (by simp [Route.methods, method]) answered, method]
  rfl

end Gateway

/-- After any requests to an empty bucket, the attachments of a post are listed once
each in the order of their keys, with nothing else among them.  Every entry tells the
name by which its object is found below the post, and what its headers say. -/
theorem Site.post_listing_exact (site : Site) (visits : List Visit) (postId : String)
    (safe : Segment.isSafe postId = true) :
    let contents := visits.foldl site.afterVisit { created := true }
    ∃ files : List ListedFile,
      (∀ now judge id request, request.SpellsPost postId → request.method = "GET" →
        Gateway.IsKnown judge request →
        let answer := (((site.gateway (fun _ => none) now judge).respond id request).run contents).1
        answer.status = 200 ∧ answer.Lists files) ∧
      (files.Pairwise fun file later => Text.utf8 file.object < Text.utf8 later.object) ∧
      (∀ key, (∃ file ∈ files, file.object = key) ↔ contents.objects[key]?.isSome = true ∧
        ∃ fileName, key = (Resource.postFile postId fileName).key) ∧
      (∀ resource : Resource, resource.IsPlain → (∃ file ∈ files, file.object = resource.key) →
        ∃ fileName, resource = .postFile postId fileName) ∧
      ∀ file ∈ files, site.Locates postId file.fileName file.object ∧
        ∃ object, contents.objects[file.object]? = some object ∧
          file.size = object.bytes.size ∧ file.etag = object.info.etag ∧
          file.lastModified = object.info.lastModified ∧
          site.Serves contents postId file.fileName object := by
  intro contents
  have plain := Segment.isSafe_iff.mp safe
  have created : contents.created = true := site.created_afterVisits visits _
  have uploaded : contents.Uploaded site :=
    Contents.Uploaded.afterVisits (fun key object present => by simp at present) visits
  have named : contents.InNamespace :=
    Contents.InNamespace.afterVisits (fun key object present => by simp at present) site visits
  have listed {file : ListedFile} : file ∈ contents.filesOf postId ↔ _ :=
    Contents.mem_filesOf_iff uploaded named plain
  refine ⟨contents.filesOf postId, ?_, Contents.filesOf_sorted uploaded postId, ?_, ?_, ?_⟩
  · intro now judge id request spelled method known
    rw [Gateway.list_of_created spelled plain known method created]
    exact ⟨rfl, ObjectResponse.lists_listing _⟩
  · intro key
    constructor
    · rintro ⟨file, member, rfl⟩
      obtain ⟨fileName, object, plain_file, present, rfl⟩ := listed.mp member
      exact ⟨Option.isSome_iff_exists.mpr ⟨object, present⟩, fileName, rfl⟩
    · rintro ⟨present, fileName, rfl⟩
      obtain ⟨object, present⟩ := Option.isSome_iff_exists.mp present
      obtain ⟨name, plain_file, same⟩ := named.postFile_of_stored plain present
        (Resource.startsWith_key postId fileName)
      rw [same] at present ⊢
      exact ⟨_, listed.mpr ⟨name, object, plain_file, present, rfl⟩, rfl⟩
  · rintro resource plain_resource ⟨file, member, same⟩
    obtain ⟨fileName, object, plain_file, present, rfl⟩ := listed.mp member
    have plain_named := Resource.isPlain_postFile plain plain_file
    exact ⟨fileName, ((Resource.key_inj_iff plain_named plain_resource).mp same).symm⟩
  · intro file member
    obtain ⟨fileName, object, plain_file, present, rfl⟩ := listed.mp member
    obtain ⟨now, contentType, bytes, rfl⟩ := uploaded _ _ present
    exact ⟨site.locates postId plain_file, _, present, rfl, rfl, rfl,
      Site.serves_of_written (Resource.isPlain_postFile plain plain_file) created present⟩

/-- Two posts whose ids start alike, with a file each. -/
theorem Site.post_listing_exact_of_p1 :
    let site : Site :=
      { bucket := "media", cdn := none, publicSigner := none, signer := fun key _ => .ok key
        extract := fun _ _ => none, maxUploadBytes := 1000 }
    let judge : String → AccessTarget → Verdict := fun _ _ =>
      .decided { allowed := true, identity := some "ada" }
    let form :=
      "--B\r\nContent-Disposition: form-data; name=\"file\"; filename=\"a.txt\"\r\n\r\nabc\r\n--B--"
    let upload (target : String) : Visit :=
      { faults := fun _ => none, now := default, judge := judge, id := default
        request :=
          { method := "POST", target := target
            headers := [("content-type", "multipart/form-data; boundary=B".toUTF8)]
            body := { bytes := form.toUTF8 } } }
    let visits :=
      [upload "/api/v2/storage/posts/p1?token=t", upload "/api/v2/storage/posts/p10?token=t"]
    let contents := visits.foldl site.afterVisit { created := true }
    let listing : Request := { method := "GET", target := "/api/v2/storage/posts/p1?token=t" }
    let answer :=
      (((site.gateway (fun _ => none) default judge).respond default listing).run contents).1
    Segment.isSafe "p1" = true ∧ answer.status = 200 ∧ ∃ entries,
      answer.content = .json (.object [("files", .list entries)]) ∧
      (∃ entry ∈ entries,
        entry.member? "object" =
          some (.text "posts/p1/00000000-0000-0000-0000-000000000000.txt") ∧
        entry.member? "fileName" = some (.text "00000000-0000-0000-0000-000000000000.txt") ∧
        entry.member? "size" = some (.int 3) ∧
        entry.member? "etag" = some (.text "900150983cd24fb0d6963f7d28e17f72")) ∧
      ∀ entry ∈ entries, entry.member? "object" ≠
        some (.text "posts/p10/00000000-0000-0000-0000-000000000000.txt") := by
  intro site judge form upload visits contents listing answer
  have safe : Segment.isSafe "p1" = true := by decide
  obtain ⟨files, answered, -, exact_keys, others, described⟩ :=
    site.post_listing_exact visits "p1" safe
  have spelled : listing.SpellsPost "p1" := ⟨"p1", by decide +kernel, by decide⟩
  have known : Gateway.IsKnown judge listing := ⟨"t", "ada", by decide +kernel, rfl⟩
  obtain ⟨succeeded, lists⟩ := answered default judge default listing spelled rfl known
  obtain ⟨entries, content, shown, owned⟩ := lists.entries
  refine ⟨safe, succeeded, entries, content, ?_, ?_⟩
  · have stored : (contents.objects["posts/p1/00000000-0000-0000-0000-000000000000.txt"]?.map
        fun object => (object.bytes.size, object.info.etag)) =
        some (3, "900150983cd24fb0d6963f7d28e17f72") := by
      decide +kernel
    obtain ⟨object, present, measured⟩ := Option.map_eq_some_iff.mp stored
    obtain ⟨size, etag⟩ := Prod.mk.inj measured
    obtain ⟨file, member, named⟩ := (exact_keys _).mpr
      ⟨Option.isSome_iff_exists.mpr ⟨object, present⟩,
        "00000000-0000-0000-0000-000000000000.txt", by decide⟩
    obtain ⟨located, other, found, file_size, file_etag, -, -⟩ := described file member
    obtain rfl := Option.some.inj ((named ▸ found).symm.trans present)
    obtain ⟨entry, among, shows⟩ := shown file member
    -- The key ends with the file name, so the entry tells this name.
    have fileName : file.fileName = "00000000-0000-0000-0000-000000000000.txt" := by
      have last := Resource.fileNameOf_key "p1" (Segment.isSafe_iff.mp located.safe)
      rw [← located.key_eq, named] at last
      exact last.symm.trans (by decide)
    refine ⟨entry, among, shows.object.trans (by rw [named]),
      shows.fileName.trans (by rw [fileName]), shows.size.trans (by rw [file_size, size]; rfl),
      shows.etag.trans (by rw [file_etag, etag])⟩
  · intro entry among same
    obtain ⟨file, member, shows⟩ := owned entry among
    have named : file.object = "posts/p10/00000000-0000-0000-0000-000000000000.txt" :=
      Json.text.inj (Option.some.inj (shows.object.symm.trans same))
    have plain : (Resource.postFile "p10" "00000000-0000-0000-0000-000000000000.txt").IsPlain :=
      Resource.isPlain_postFile (Segment.isSafe_iff.mp (by decide))
        (Segment.isSafe_iff.mp (by decide))
    obtain ⟨fileName, same⟩ := others _ plain ⟨file, member, named⟩
    exact absurd (Resource.postFile.inj same).1 (by decide)

end MediaVault
