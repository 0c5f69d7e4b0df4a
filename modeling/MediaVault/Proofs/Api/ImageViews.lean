import MediaVault.Proofs.Api.Answers
import MediaVault.Proofs.Media.Attributes
import MediaVault.Proofs.Media.Description
import MediaVault.Proofs.S3.Reference

/-!
# How clients see an image

The attributes of an image are told twice, as JSON in its description and as
headers of the object itself.  Both views come from the same three entries, but
along different ways: a description parses the numerals, a response sends them
as they are if it can.  From an upload to the next write they say the same.
-/

namespace MediaVault

/-! ## What a view shows -/

/-- The description shows these attributes; without an image, empty ones. -/
structure Json.ShowsImage (answer : Json) (shown : Option ImageAttributes) : Prop where
  blurhash : answer.member? "blurhash" = some (.text ((shown.map (·.blurhash)).getD ""))
  width : answer.member? "width" = some (.int ((shown.map (·.width.toNat)).getD 0 : Nat))
  height : answer.member? "height" = some (.int ((shown.map (·.height.toNat)).getD 0 : Nat))

/-- The headers show these attributes, each of them once; without an image there
are no such headers. -/
structure Response.ShowsImage (response : Response) (shown : Option ImageAttributes) : Prop where
  blurhash : response.values "x-blurhash" = (shown.map (·.blurhash)).toList
  width : response.values "x-image-width" = (shown.map fun a => toString a.width.toNat).toList
  height : response.values "x-image-height" = (shown.map fun a => toString a.height.toNat).toList

/-- The headers say what the description says.  There is no image when the hash in
the description is empty, and then there are no headers either. -/
def Json.Agrees (answer : Json) (response : Response) : Prop :=
  ∃ (hash : String) (width height : Nat),
    answer.member? "blurhash" = some (.text hash) ∧ answer.member? "width" = some (.int width) ∧
    answer.member? "height" = some (.int height) ∧
    response.values "x-blurhash" = (if hash = "" then [] else [hash]) ∧
    response.values "x-image-width" = (if hash = "" then [] else [toString width]) ∧
    response.values "x-image-height" = (if hash = "" then [] else [toString height])

theorem Json.agrees_of_shown {answer : Json} {response : Response}
    {shown : Option ImageAttributes} (described : answer.ShowsImage shown)
    (sent : response.ShowsImage shown)
    (filled : ∀ attributes, shown = some attributes → attributes.blurhash ≠ "") :
    answer.Agrees response := by
  refine ⟨_, _, _, described.blurhash, described.width, described.height, ?_⟩
  rw [sent.blurhash, sent.width, sent.height]
  cases shown with
  | none => exact ⟨rfl, rfl, rfl⟩
  | some attributes => simp [filled attributes rfl]

theorem Response.ShowsImage.finish {response : Response} {shown : Option ImageAttributes}
    (shows_image : response.ShowsImage shown) (method : String) :
    (Gateway.finish method response).ShowsImage shown where
  blurhash := (values_finish _ _ (by decide)).trans shows_image.blurhash
  width := (values_finish _ _ (by decide)).trans shows_image.width
  height := (values_finish _ _ (by decide)).trans shows_image.height

theorem ObjectMeta.showsImage {info : ObjectInfo} {shown : Option ImageAttributes}
    (holds : info.userMetadata.Holds shown) (url : String) :
    (ofInfo info url).toJson.ShowsImage shown := by
  have image : (ofInfo info url).image = shown.getD { blurhash := "", width := 0, height := 0 } :=
    ImageAttributes.ofUserMetadata_of_holds holds
  have members : (ofInfo info url).toJson.member? "blurhash" =
        some (.text (ofInfo info url).image.blurhash) ∧
      (ofInfo info url).toJson.member? "width" =
        some (.int (ofInfo info url).image.width.toNat) ∧
      (ofInfo info url).toJson.member? "height" =
        some (.int (ofInfo info url).image.height.toNat) := ⟨rfl, rfl, rfl⟩
  rw [image] at members
  cases shown with
  | none => exact ⟨members.1, members.2.1, members.2.2⟩
  | some attributes => exact ⟨members.1, members.2.1, members.2.2⟩

namespace ObjectResponse

/-! ## Headers -/

theorem metadataValue?_eq {info : ObjectInfo} {name : String} {value : Option String}
    (found : info.userMetadata.lookup? name = value)
    (presentable : ∀ text, value = some text → HeaderValue.Presentable text) :
    (metadataValue? info name).bind HeaderValue.ofText? = value := by
  rw [metadataValue?, found]
  cases value with
  | none => rfl
  | some text =>
    -- The text passes both filters: it is not empty, and it may be sent.
    have good := presentable text rfl
    have filled : text.toList.isEmpty = false := by simp [good.filled]
    rw [Option.filter_some, if_pos (by simp [filled]), Option.bind_some, good.sendable]

theorem showsImage_of_headers {info : ObjectInfo} {shown : Option ImageAttributes}
    (holds : info.userMetadata.Holds shown)
    (presentable : ∀ attributes, shown = some attributes →
      HeaderValue.Presentable attributes.blurhash)
    {response : Response} (described : response.headers = headers info) :
    response.ShowsImage shown := by
  have hash := metadataValue?_eq holds.lookup?_blurhash fun text found => by
    obtain ⟨attributes, there, rfl⟩ := Option.map_eq_some_iff.mp found
    exact presentable attributes there
  have width := metadataValue?_eq holds.lookup?_width fun text found => by
    obtain ⟨attributes, _, rfl⟩ := Option.map_eq_some_iff.mp found
    exact HeaderValue.presentable_toString _
  have height := metadataValue?_eq holds.lookup?_height fun text found => by
    obtain ⟨attributes, _, rfl⟩ := Option.map_eq_some_iff.mp found
    exact HeaderValue.presentable_toString _
  constructor
  · exact (values_of_source described (by simp [sources])).trans (congrArg Option.toList hash)
  · exact (values_of_source described (by simp [sources])).trans (congrArg Option.toList width)
  · exact (values_of_source described (by simp [sources])).trans (congrArg Option.toList height)

end ObjectResponse

/-! ## Reading over HTTP -/

/-- Whoever may read the object under a key is shown these attributes, as JSON
and as headers. -/
structure MediaService.PresentsImage {σ : Type} (media : MediaService (StateM σ)) (state : σ)
    (key : String) (shown : Option ImageAttributes) : Prop where
  agree : ∀ (answer : Json) (response : Response), answer.ShowsImage shown →
    response.ShowsImage shown → answer.Agrees response
  described : ∀ judge limit id request route raw, request.PointsAt key route →
    route.isMeta = true → request.method = "GET" →
    Query.param "expires" request.query? = .ok raw →
    let response := (((Gateway.over media judge limit).respond id request).run state).1
    response.status = 200 ∧ ∃ answer, response.content = .json answer ∧ answer.ShowsImage shown
  fetched : ∀ judge limit id request route, request.PointsAt key route →
    route.isObject = true → request.method = "GET" →
    let response := (((Gateway.over media judge limit).respond id request).run state).1
    response.status = 200 ∧ response.ShowsImage shown
  headed : ∀ judge limit id request route caller user, request.PointsAt key route →
    route.isObject = true → request.method = "HEAD" → Token.ofRequest? request = some caller →
    judge caller .authenticated = .decided { allowed := true, identity := some user } →
    let response := (((Gateway.over media judge limit).respond id request).run state).1
    response.status = 200 ∧ response.ShowsImage shown

/-! ## From what is stored to what is shown -/

namespace MediaService

variable {σ : Type} {media : MediaService (StateM σ)} {state after : σ} {key : String}

theorem describe_of_stat {info : ObjectInfo} (known : Ends (media.stat key) state (.ok info) after)
    (expiry : Duration) :
    ∃ url ended, Ends (media.describe key expiry) state (.ok (ObjectMeta.ofInfo info url)) ended :=
  ⟨_, _, describe_ends known (ends_self (media.deliveryUrl key expiry) after)⟩

theorem presentsImage {shown : Option ImageAttributes}
    (presentable : ∀ attributes, shown = some attributes →
      HeaderValue.Presentable attributes.blurhash)
    (opened : ∃ object after, Ends (media.open key) state (.ok object) after ∧
      object.info.userMetadata.Holds shown)
    (known : ∃ info after, Ends (media.stat key) state (.ok info) after ∧
      info.userMetadata.Holds shown) :
    media.PresentsImage state key shown where
  agree := fun _ _ described sent => Json.agrees_of_shown described sent fun attributes there =>
    (presentable attributes there).filled
  described := by
    rintro judge limit id request route raw ⟨found, named, resource, addressed, plain, rfl⟩ isMeta
      method asked
    obtain ⟨info, after, stat, holds⟩ := known
    obtain ⟨get, target, ends, handled⟩ := Gateway.handle_meta addressed isMeta
    obtain ⟨url, ended, described⟩ := describe_of_stat stat (Expiry.parse raw)
    have answered : Ends ((Gateway.over media judge limit).objectMeta request target) state
        (.ok (Response.json 200 (ObjectMeta.ofInfo info url).toJson)) ended :=
      Gateway.objectMeta_answers (ends state) plain asked described
    rw [← handled _ request] at answered
    rw [Gateway.respond_of_handle found (method ▸ get) answered, method]
    exact ⟨rfl, _, rfl, ObjectMeta.showsImage holds url⟩
  fetched := by
    rintro judge limit id request route ⟨found, named, resource, addressed, plain, rfl⟩ isObject
      method
    obtain ⟨object, after, ended, holds⟩ := opened
    obtain ⟨get, _, target, ends, handled⟩ := Gateway.handle_object addressed isObject
    have answered : Ends ((Gateway.over media judge limit).getObject target) state
        (.ok (ObjectResponse.full object)) after :=
      Gateway.getObject_answers (ends state) plain ended
    rw [← (handled _ request).1 method] at answered
    rw [Gateway.respond_of_handle found (method ▸ get) answered]
    refine ⟨Response.status_finish _ _, ?_⟩
    exact (ObjectResponse.showsImage_of_headers holds presentable rfl).finish _
  headed := by
    rintro judge limit id request route caller user ⟨found, named, resource, addressed, plain, rfl⟩
      isObject method presented granted
    obtain ⟨info, after, ended, holds⟩ := known
    obtain ⟨_, head, target, ends, handled⟩ := Gateway.handle_object addressed isObject
    have asked : ((Gateway.over media judge limit).authorizer caller .authenticated).run state =
        (.decided { allowed := true, identity := some user }, state) :=
      Permission.run_authorizerOf granted _
    have answered := Gateway.headObject_answers (ends state) plain presented asked ended
    rw [← (handled _ request).2 method] at answered
    rw [Gateway.respond_of_handle found (method ▸ head) answered]
    refine ⟨Response.status_finish _ _, ?_⟩
    exact (ObjectResponse.showsImage_of_headers holds presentable rfl).finish _

end MediaService

namespace Site

section

variable {site : Site} {key : String} {contentType : Option String} {body : List Chunk}
  {receipt : UploadedObject}
  (presentable : ∀ bytes attributes, site.attributes? contentType bytes = some attributes →
    HeaderValue.Presentable attributes.blurhash)

include presentable

theorem presentsImage_of_upload {faults : Faults} {now : Timestamp} {before after : Contents}
    (uploaded : Ends ((site.media faults now).upload key contentType body) before (.ok receipt)
      after) :
    ∃ bytes, Chunk.collect body = .ok bytes ∧
      (∃ object, after.objects[key]? = some object ∧
        object.info.userMetadata.Holds (site.attributes? contentType bytes)) ∧
      ∀ later : List Event,
        (∀ record ∈ ((site.play later).run after).1, changedKey? record ≠ some key) →
        ∀ now, (site.media (fun _ => none) now).PresentsImage ((site.play later).run after).2 key
          (site.attributes? contentType bytes) := by
  obtain ⟨bytes, read, free, -, rfl⟩ | declined := upload_ends uploaded
  · have holds : (site.written now key contentType bytes).info.userMetadata.Holds
        (site.attributes? contentType bytes) := holds_written now
    have present : (before.write key (site.written now key contentType bytes)).objects[key]? =
        some (site.written now key contentType bytes) := by
      rw [Contents.getElem?_write, if_pos rfl]
    refine ⟨bytes, read, ⟨_, present, holds⟩, fun later untouched moment => ?_⟩
    obtain ⟨same, still⟩ := play_elsewhere later _ untouched
    have shows := shows_of_written now
      (still.trans (created_of_obstacle?_eq_none free)) (same.trans present)
    exact MediaService.presentsImage (presentable bytes)
      ⟨_, _, shows.opened moment, holds⟩ ⟨_, _, shows.known moment, holds⟩
  · obtain ⟨error, ⟨⟩⟩ := declined.failed

theorem remote_presentsImage_of_upload {service : S3.Service} (behaves : service.Behaves)
    {region : String} {maxPages : Nat} (filled : key ≠ "") {log grown : List S3.Exchange}
    (genuine : service.Genuine log)
    (uploaded : Ends ((site.remote service region maxPages).upload key contentType body) log
      (.ok receipt) grown) :
    ∃ bytes, Chunk.collect body = .ok bytes ∧
      (∃ (kept : S3.Kept) (entries : UserMetadata), (S3.Bucket.after grown).objects[key]? = some kept ∧
        kept.attributes.userMetadata = entries.toList ∧
        entries.Holds (site.attributes? contentType bytes)) ∧
      ∀ later, service.Genuine (grown ++ later) →
        (∀ exchange ∈ later, exchange.call.written? ≠ some key) →
        (site.remote service region maxPages).PresentsImage (grown ++ later) key
          (site.attributes? contentType bytes) := by
  obtain ⟨_, bytes, entries, read, holds, kept⟩ :=
    remote_upload_kept behaves filled genuine uploaded
  refine ⟨bytes, read, ⟨_, entries, kept, rfl, holds⟩, fun later genuine_later unwritten => ?_⟩
  have present := (S3.Bucket.getElem?_after_append unwritten).trans kept
  let stored : S3.Kept := ⟨S3.Store.sent (MediaService.optionsOf contentType entries), bytes⟩
  have told {reply : S3.ObjectReply} (tells : reply.Tells stored) :
      (S3.Store.infoOf key reply).userMetadata.Holds (site.attributes? contentType bytes) :=
    fun name => (tells.getElem?_infoOf holds.lowerNamed rfl key name).trans (holds name)
  let remote := site.remote service region maxPages
  have opened := ends_self (remote.open key) (grown ++ later)
  have known := ends_self (remote.stat key) (grown ++ later)
  obtain ⟨_, _, got⟩ := S3.Store.get_behaved behaves filled genuine_later opened
  obtain ⟨_, _, had⟩ := S3.Store.stat_behaved behaves filled genuine_later known
  -- Both look-ups find what the upload left, each told by a reply of its own.
  rw [S3.Store.Found, present] at got had
  obtain ⟨reply, tells, got⟩ := got
  obtain ⟨description, tells_too, had⟩ := had
  rw [got] at opened
  rw [had] at known
  exact MediaService.presentsImage (presentable bytes) ⟨_, _, opened, told tells⟩
    ⟨_, _, known, told tells_too⟩

end

/-- Over either store, an upload leaves the attributes of an image that the decoder
knows, of at most 5 MiB, and none for anything else.  Until its key is written
again, descriptions and headers show exactly these. -/
theorem image_views_agree (site : Site) (decode : String → ByteArray → Option Raster)
    (key : String) (contentType : Option String) (body : List Chunk) :
    let site := site.decodingBy decode
    (∀ (faults : Faults) (now : Timestamp) (before after : Contents) (receipt : UploadedObject),
      Ends ((site.media faults now).upload key contentType body) before (.ok receipt) after →
      ∃ bytes, Chunk.collect body = .ok bytes ∧
        (∃ object, after.objects[key]? = some object ∧
          object.info.userMetadata.Holds (site.attributes? contentType bytes)) ∧
        ∀ later : List Event,
          (∀ record ∈ ((site.play later).run after).1, changedKey? record ≠ some key) →
          ∀ now, (site.media (fun _ => none) now).PresentsImage ((site.play later).run after).2 key
            (site.attributes? contentType bytes)) ∧
    ∀ (service : S3.Service) (region : String) (maxPages : Nat) (log grown : List S3.Exchange)
      (receipt : UploadedObject), service.Behaves → key ≠ "" → service.Genuine log →
      Ends ((site.remote service region maxPages).upload key contentType body) log (.ok receipt)
        grown →
      ∃ bytes, Chunk.collect body = .ok bytes ∧
        (∃ (kept : S3.Kept) (entries : UserMetadata),
          (S3.Bucket.after grown).objects[key]? = some kept ∧
          kept.attributes.userMetadata = entries.toList ∧
          entries.Holds (site.attributes? contentType bytes)) ∧
        ∀ later, service.Genuine (grown ++ later) →
          (∀ exchange ∈ later, exchange.call.written? ≠ some key) →
          (site.remote service region maxPages).PresentsImage (grown ++ later) key
            (site.attributes? contentType bytes) := by
  intro site
  have presentable (bytes : ByteArray) (attributes : ImageAttributes)
      (derived : site.attributes? contentType bytes = some attributes) :
      HeaderValue.Presentable attributes.blurhash := presentable_of_attributes? derived
  exact ⟨fun faults now before after receipt uploaded =>
      presentsImage_of_upload presentable uploaded,
    fun service region maxPages log grown receipt behaves filled genuine uploaded =>
      remote_presentsImage_of_upload presentable behaves filled genuine uploaded⟩

/-- One red pixel replaces an object; then a stream for the same key breaks off.
In a remote bucket a note is stored, and shows no image. -/
theorem image_views_agree_on_red_pixel :
    let site : Site :=
      { bucket := "media", cdn := none, publicSigner := none, signer := fun key _ => .ok key
        extract := fun _ _ => none, maxUploadBytes := 1000 }
    let red : Raster := ⟨1, 1, ⟨#[255, 0, 0]⟩, rfl⟩
    let drawing := site.decodingBy fun _ _ => some red
    let key := "posts/7/a.png"
    let body : List Chunk := [.data ⟨#[1]⟩]
    let before := ({ created := true } : Contents).write key default
    let broken : Event :=
      { now := default, faults := fun _ => none
        operation := .upload key none [.failed "connection reset"] }
    let uploaded := ((drawing.media (fun _ => none) default).upload key (some "image/png")
      body).run.run before
    let played := (drawing.play [broken]).run uploaded.2
    let stored := ((drawing.remote S3.Service.reference "us-east-1" 1).upload key
      (some "text/plain") body).run.run []
    let judge : String → AccessTarget → Verdict := fun _ _ =>
      .decided { allowed := true, identity := some "ada" }
    let reading : Request := { method := "GET", target := "/api/v2/storage/posts/7/a.png" }
    let asking : Request := { method := "HEAD", target := "/api/v2/storage/posts/7/a.png?token=t" }
    let describing : Request := { method := "GET", target := "/api/v2/storage/posts/7/a.png/meta" }
    let answer (request : Request) := (((Gateway.over (drawing.media (fun _ => none) default) judge
      1000).respond default request).run played.2).1
    let answerRemote (request : Request) := (((Gateway.over (drawing.remote S3.Service.reference
      "us-east-1" 1) judge 1000).respond default request).run stored.2).1
    (∃ receipt, uploaded.1 = .ok receipt) ∧
      (∀ record ∈ played.1, changedKey? record ≠ some key) ∧
      (answer reading).values "x-image-width" = ["1"] ∧
      (answer asking).values "x-image-width" = ["1"] ∧
      (∃ description, (answer describing).content = .json description ∧
        description.member? "width" = some (.int 1)) ∧
      (∃ receipt, stored.1 = .ok receipt) ∧
      (answerRemote reading).values "x-image-width" = [] := by
  intro site red drawing key body before broken uploaded played stored judge reading asking
    describing answer answerRemote
  have agree := image_views_agree site (fun _ _ => some red) key
  -- Whatever the hash of a red pixel is, the decoder knows its size.
  obtain ⟨hash, hashed⟩ : ∃ hash, Blurhash.ofRaster? 4 3 red = some hash :=
    ⟨_, if_pos (by decide)⟩
  have pixel : drawing.attributes? (some "image/png") ⟨#[1]⟩ = some ⟨hash, 1, 1⟩ := by
    have image : ContentType.isImage (MediaService.effectiveContentType (some "image/png")) = true ∧
        (⟨#[1]⟩ : ByteArray).size ≤ 5 * 1024 * 1024 := by decide +kernel
    have decoded : drawing.extract (MediaService.effectiveContentType (some "image/png")) ⟨#[1]⟩ =
        (Blurhash.ofRaster? 4 3 red).map fun hash => ⟨hash, 1, 1⟩ := rfl
    rw [attributes?, if_pos image, decoded, hashed]
    rfl
  have note : drawing.attributes? (some "text/plain") ⟨#[1]⟩ = none := by
    have other : ¬ (ContentType.isImage (MediaService.effectiveContentType (some "text/plain")) =
        true ∧ (⟨#[1]⟩ : ByteArray).size ≤ 5 * 1024 * 1024) := by decide +kernel
    rw [attributes?, if_neg other]
  have points (request : Request) (route : Route) (found : Route.ofPath request.path = some route)
      (path : route ∈ [Route.postFile "7" "a.png", .postFileMeta "7" "a.png",
        .postFileUrl "7" "a.png"]) : request.PointsAt key route :=
    ⟨found, default, .postFile "7" "a.png", .postFile path (by decide) (by decide),
      fun segment member => Segment.isSafe_iff.mp (by revert segment; decide), rfl⟩
  have done : Ends ((drawing.media (fun _ => none) default).upload key (some "image/png") body)
      before (.ok (drawing.receipt key (some "image/png") ⟨#[1]⟩)) uploaded.2 := by
    have ended : Ends ((drawing.media (fun _ => none) default).upload key (some "image/png") body)
        before _ (before.write key (drawing.written default key (some "image/png") ⟨#[1]⟩)) :=
      upload_ends_of_collect rfl rfl
    exact Prod.ext (congrArg Prod.fst ended) rfl
  have untouched : ∀ record ∈ played.1, changedKey? record ≠ some key := by
    decide +kernel
  have shows : (drawing.media (fun _ => none) default).PresentsImage played.2 key
      (some ⟨hash, 1, 1⟩) := by
    obtain ⟨bytes, read, _, views⟩ := (agree (some "image/png") body).1 _ _ _ _ _ done
    obtain rfl : (⟨#[1]⟩ : ByteArray) = bytes := Except.ok.inj read
    rw [← pixel]
    exact views [broken] untouched default
  have accepted : ∃ receipt, stored.1 = .ok receipt := ⟨_, rfl⟩
  have hides : (drawing.remote S3.Service.reference "us-east-1" 1).PresentsImage stored.2 key
      none := by
    obtain ⟨receipt, sent⟩ := accepted
    have ended : Ends ((drawing.remote S3.Service.reference "us-east-1" 1).upload key
        (some "text/plain") body) [] (.ok receipt) stored.2 := Prod.ext sent rfl
    obtain ⟨genuine, _⟩ := remote_upload_kept S3.Service.reference_behaves (by decide)
      S3.Service.genuine_nil ended
    obtain ⟨bytes, read, _, views⟩ := (agree (some "text/plain") body).2 _ _ _ _ _ _
      S3.Service.reference_behaves (by decide) S3.Service.genuine_nil ended
    obtain rfl : (⟨#[1]⟩ : ByteArray) = bytes := Except.ok.inj read
    rw [← note]
    simpa using views [] (by simpa using genuine) (by simp)
  have read := shows.fetched judge 1000 default reading _
    (points _ (.postFile "7" "a.png") (by decide +kernel) (by simp)) rfl rfl
  have asked := shows.headed judge 1000 default asking _ "t" "ada"
    (points _ (.postFile "7" "a.png") (by decide +kernel) (by simp)) rfl rfl (by decide +kernel) rfl
  obtain ⟨_, description, told, tells⟩ := shows.described judge 1000 default describing _ none
    (points _ (.postFileMeta "7" "a.png") (by decide +kernel) (by simp)) rfl rfl (by decide +kernel)
  have hidden := hides.fetched judge 1000 default reading _
    (points _ (.postFile "7" "a.png") (by decide +kernel) (by simp)) rfl rfl
  have one : toString (1 : UInt32).toNat = "1" := by decide +kernel
  exact ⟨⟨_, rfl⟩, untouched, read.2.width.trans (congrArg (fun text => [text]) one),
    asked.2.width.trans (congrArg (fun text => [text]) one), ⟨description, told, tells.width⟩,
    accepted, hidden.2.width⟩

end Site

end MediaVault
