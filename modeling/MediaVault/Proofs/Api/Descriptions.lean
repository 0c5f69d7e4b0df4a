import MediaVault.Proofs.Api.LostBucket
import MediaVault.Proofs.Media.Description
import MediaVault.Proofs.Store.Presigned

/-!
# Descriptions and URLs over HTTP

Two routes tell where an object can be fetched: its description, which goes without the URL
when none can be made, and the URL alone, where the same failure is an error.  For one key,
expiry and instant they agree, whatever the store holds and the signers do.
-/

namespace MediaVault

/-- The route is that of an object's delivery URL. -/
def Route.isUrl : Route → Bool
  | .postFileUrl _ _ | .profileUrl _ => true
  | _ => false

/-- A request on such a route of the object under a key, with this `expires` parameter. -/
structure Request.Wants (request : Request) (about : Route → Bool) (key : String)
    (raw : Option String) : Prop where
  method_eq : request.method = "GET"
  leads : ∃ route, request.PointsAt key route ∧ about route = true
  asked : Query.param "expires" request.query? = .ok raw

namespace Gateway

variable {σ : Type} {before after : σ} {request : Request} {id : Uuid}

theorem objectUrl_tells {gateway : Gateway (StateM σ)}
    {target : ExceptT Refusal (StateM σ) Resource} {resource : Resource}
    (named : Ends target before (.ok resource) before)
    (plain : resource.IsPlain) {raw : Option String} {found : Except StorageError DeliveryUrl}
    (asked : Query.param "expires" request.query? = .ok raw)
    (delivered : Ends (gateway.media.deliveryUrl resource.key (Expiry.parse raw)) before found
      after) :
    Ends (gateway.objectUrl request target) before (told ObjectResponse.deliveryUrl found)
      after := by
  refine named.bind ((expiry_answers asked).bind ((keyOf_answers plain).bind ?_))
  exact storeAction_tells delivered

theorem handle_url {id named : Uuid} {route : Route} {resource : Resource}
    (addressed : Addresses named route resource) (about : route.isUrl = true) :
    "GET" ∈ route.methods ∧
      ∃ target : ExceptT Refusal (StateM σ) Resource,
        (∀ before, Ends target before (.ok resource) before) ∧
        ∀ (gateway : Gateway (StateM σ)) (request : Request),
          gateway.handle id request route = gateway.objectUrl request target := by
  -- Of the three routes about a resource only the last one is about its URL.
  cases addressed with
  | attachment clientName post => cases about
  | @postFile _ rawPost rawFile postId fileName path post file =>
    simp only [List.mem_cons, List.not_mem_nil, or_false] at path
    rcases path with rfl | rfl | rfl
    · cases about
    · cases about
    · exact ⟨by simp [Route.methods], postFile rawPost rawFile, fun _ => postFile_answers post file,
        fun _ _ => rfl⟩
  | @profileImage _ rawUser userId path user =>
    simp only [List.mem_cons, List.not_mem_nil, or_false] at path
    rcases path with rfl | rfl | rfl
    · cases about
    · cases about
    · exact ⟨by simp [Route.methods], profileImage rawUser, fun _ => profileImage_answers user,
        fun _ _ => rfl⟩

variable {gateway : Gateway (StateM σ)} {key : String} {raw : Option String}

theorem respond_deliver {found : Except StorageError DeliveryUrl}
    (wants : request.Wants Route.isUrl key raw)
    (delivered : Ends (gateway.media.deliveryUrl key (Expiry.parse raw)) before found after) :
    (gateway.respond id request).run before =
      (finish "GET" (settle (told ObjectResponse.deliveryUrl found)), after) := by
  obtain ⟨method, ⟨route, ⟨leads, named, resource, addressed, plain, rfl⟩, about⟩, asked⟩ := wants
  obtain ⟨get, target, ends, handled⟩ := handle_url addressed about
  have answered := objectUrl_tells (ends before) plain asked delivered
  rw [← handled gateway request] at answered
  rw [respond_of_handle leads (method ▸ get) answered, method]

end Gateway

/-! ## Both answers -/

/-- The response presents what was found, or reports why there is nothing. -/
def Response.Reports {α : Type} (response : Response) (present : α → Json) :
    Except StorageError α → Prop
  | .ok a => response.status = 200 ∧ response.content = .json (present a)
  | .error error =>
    response.status = (ApiError.ofStorage error).status ∧
      response.content = .json (ApiError.ofStorage error).toJson

theorem Gateway.reports_told {α : Type} (present : α → Json) (found : Except StorageError α) :
    (finish "GET" (settle (told (fun a => Response.json 200 (present a)) found))).Reports present
      found := by
  cases found with
  | ok a => exact ⟨rfl, rfl⟩
  | error error => exact ⟨rfl, rfl⟩

/-- The answer about a delivery URL. -/
def DeliveryUrl.toJson (delivery : DeliveryUrl) : Json :=
  .object [("url", .text delivery.url), ("expiresIn", .int delivery.expiresIn.seconds)]

namespace MediaService

variable {σ τ : Type}

/-- For a store and signers of any kind: an object is described exactly if the store knows it,
in the store's words alone but for the URL.  That is the one which is delivered at the same
moment, or empty if none can be; delivering does not look at the store at all.  The signers of
the program never issue an empty URL, so an empty one always stands for a failure. -/
theorem description_matches_url (store : ObjectStore (StateM σ)) (resolver : Resolver (StateM τ))
    (extract : String → ByteArray → Option ImageAttributes) (key : String) (raw : Option String)
    (contents : σ) (instant : τ) :
    let media := beside store resolver extract
    let expiry := Expiry.parse raw
    let known := ((store.stat key).run.run contents).1
    let made := ((resolver.resolve key expiry).run.run instant).1
    let described := ((media.describe key expiry).run.run (contents, instant)).1
    let delivered := (media.deliveryUrl key expiry).run.run (contents, instant)
    (match known with
      | .error error => described = .error error
      | .ok info =>
        ∃ url,
          described = .ok
            { object := info.key, etag := info.etag, size := info.size
              contentType := info.contentType, lastModified := info.lastModified
              cacheControl := info.cacheControl.getD "", image := info.image, url := url } ∧
          (∀ delivery, delivered.1 = .ok delivery → url = delivery.url) ∧
          (∀ error, delivered.1 = .error error → url = "") ∧
          (resolver.Issues → (url = "" ↔ ∃ error, delivered.1 = .error error))) ∧
    (delivered.1 = made ∧ delivered.2.1 = contents) ∧
    (∀ judge limit id describing delivering, describing.Wants Route.isMeta key raw →
      delivering.Wants Route.isUrl key raw →
      let answer (request : Request) :=
        (((Gateway.over media judge limit).respond id request).run (contents, instant)).1
      (answer describing).Reports ObjectMeta.toJson described ∧
        (answer delivering).Reports DeliveryUrl.toJson delivered.1) ∧
    ∀ (settings : Settings) (secret : String) (now : Timestamp),
      settings.resolver secret now = .ok resolver → resolver.Issues := by
  intro media expiry known made described delivered
  have found : Ends (store.stat key) contents known _ := ends_self _ contents
  have resolved : Ends (resolver.resolve key expiry) instant made _ := ends_self _ instant
  have url : Ends (media.deliveryUrl key expiry) (contents, instant) made _ :=
    deliveryUrl_beside resolved contents
  have same : delivered.1 = made := congrArg Prod.fst url
  obtain ⟨after, ended⟩ :
      ∃ after, Ends (media.describe key expiry) (contents, instant) _ after :=
    describe_beside found resolved
  have description :
      described = known.map fun info => ObjectMeta.ofInfo info (DeliveryUrl.shown made) :=
    congrArg Prod.fst ended
  refine ⟨?_, ⟨same, congrArg (fun run => run.2.1) url⟩, ?_, fun _ _ _ => Settings.resolver_issues⟩
  · rw [same, description]
    cases known with
    | error error => rfl
    | ok info =>
      refine ⟨DeliveryUrl.shown made, rfl, ?_, ?_, fun issues => ?_⟩
      · intro delivery delivered
        rw [delivered, DeliveryUrl.shown]
      · intro error failed
        rw [failed, DeliveryUrl.shown]
      · exact issues.shown_eq_empty_iff resolved
  · intro judge limit id describing delivering describes delivers answer
    obtain ⟨method, ⟨route, points, about⟩, asked⟩ := describes
    have described_answer : answer describing = _ :=
      congrArg Prod.fst (Gateway.respond_describe method points about asked ended)
    have delivered_answer : answer delivering = _ :=
      congrArg Prod.fst (Gateway.respond_deliver delivers url)
    rw [described_answer, delivered_answer, description, same]
    exact ⟨Gateway.reports_told ObjectMeta.toJson _, Gateway.reports_told DeliveryUrl.toJson _⟩

/-- A note is described with the URL of the second signer, the first one being down; with
both down it goes without. -/
theorem description_matches_url_of_note :
    let key := "posts/7/note"
    let object := MemoryStore.objectOf key ⟨#[1]⟩ {} default
    let store := MemoryStore.faulty "media" (fun _ => none) default
    let contents := ({ created := true } : Contents).write key object
    let secret : UrlSigner (StateM Unit) :=
      (SecretSigner.create "http://minio:9000" "media" "s3cret").asUrlSigner default
    let down := secret.withFault (some "no credentials")
    let describing : Request :=
      { method := "GET", target := "/api/v2/storage/posts/7/note/meta?expires=90" }
    let delivering : Request :=
      { method := "GET", target := "/api/v2/storage/posts/7/n%6Fte/url?expires=90" }
    let answer (signer : UrlSigner (StateM Unit)) (request : Request) :=
      (((Gateway.over (beside store (.create none (some down) signer) fun _ _ => none)
        (fun _ _ => .silent) 1000).respond default request).run (contents, ())).1
    describing.Wants Route.isMeta key (some "90") ∧ delivering.Wants Route.isUrl key (some "90") ∧
      (∃ url, url ≠ "" ∧
        (∃ told, (answer secret describing).content = .json told ∧
          told.member? "url" = some (.text url) ∧ told.member? "size" = some (.int 1)) ∧
        ∃ told, (answer secret delivering).content = .json told ∧
          told.member? "url" = some (.text url)) ∧
      (answer down describing).status = 200 ∧
      (∃ told, (answer down describing).content = .json told ∧
        told.member? "url" = some (.text "")) ∧
      (answer down delivering).status = 500 := by
  intro key object store contents secret down describing delivering answer
  have present : contents.objects[key]? = some object := by
    rw [Contents.getElem?_write, if_pos rfl]
  have known : ((store.stat key).run.run contents).1 = .ok object.info := by
    have ended : Ends (store.stat key) contents (.ok object.info) contents := by
      refine MemoryStore.stat_ends_iff.mpr ⟨rfl, ?_⟩
      simp only [Contents.find, present]
      rfl
    exact congrArg Prod.fst ended
  have points (rawFile : String) (request : Request) (route : Route)
      (found : Route.ofPath request.path = some route)
      (path : route ∈ [Route.postFile "7" rawFile, .postFileMeta "7" rawFile,
        .postFileUrl "7" rawFile]) (file : Percent.decodeText? rawFile = some "note") :
      request.PointsAt key route :=
    ⟨found, default, .postFile "7" "note", .postFile path (by decide) file,
      Resource.isPlain_of_unrefused (by decide), rfl⟩
  have describes : describing.Wants Route.isMeta key (some "90") :=
    ⟨rfl, ⟨_, points "note" describing (.postFileMeta "7" "note") (by decide +kernel) (by simp)
      (by decide), rfl⟩, by decide +kernel⟩
  have delivers : delivering.Wants Route.isUrl key (some "90") :=
    ⟨rfl, ⟨_, points "n%6Fte" delivering (.postFileUrl "7" "n%6Fte") (by decide +kernel) (by simp)
      (by decide), rfl⟩, by decide +kernel⟩
  let resolver (signer : UrlSigner (StateM Unit)) := Resolver.create none (some down) signer
  let expiresIn := Expiry.clamp (Expiry.parse (some "90"))
  have refused : Ends (down.presign key expiresIn) () (.error (.presign key "no credentials")) () :=
    rfl
  have made {signer : UrlSigner (StateM Unit)} {out : Except StorageError String}
      (signed : Ends (signer.presign key expiresIn) () out ()) :
      (((resolver signer).resolve key (Expiry.parse (some "90"))).run.run ()).1 =
        out.map fun url => { url := url, source := .signer, expiresIn := expiresIn } :=
    congrArg Prod.fst (Resolver.resolve_ends_iff.mpr (.internal rfl (.failed rfl refused) signed))
  have secret_issues : secret.Issues := SecretSigner.issues _ _
  refine ⟨describes, delivers, ?_, ?_⟩
  · have issues : (resolver secret).Issues :=
      ⟨by rintro _ ⟨⟩; exact secret_issues.withFault _, secret_issues⟩
    obtain ⟨link, signed⟩ : ∃ link, Ends (secret.presign key expiresIn) () (.ok link) () :=
      ⟨_, congrArg (fun out => (out, ())) (SecretSigner.presign_of_le (by decide +kernel) _ _ _)⟩
    obtain ⟨described, ⟨same, -⟩, answers, -⟩ := description_matches_url store (resolver secret)
      (fun _ _ => none) key (some "90") contents ()
    rw [known] at described
    obtain ⟨url, described, delivered, -, empty⟩ := described
    rw [made signed] at same
    have both := answers (fun _ _ => .silent) 1000 default describing delivering describes delivers
    dsimp only at both
    rw [described, same] at both
    obtain ⟨⟨-, told⟩, -, given⟩ := both
    have filled : url ≠ "" := by
      intro missing
      obtain ⟨error, failed⟩ := (empty issues).mp missing
      cases same.symm.trans failed
    refine ⟨url, filled, ⟨_, told, rfl, rfl⟩, _, given, ?_⟩
    rw [delivered _ same]
    rfl
  · obtain ⟨described, ⟨same, -⟩, answers, -⟩ := description_matches_url store (resolver down)
      (fun _ _ => none) key (some "90") contents ()
    rw [known] at described
    obtain ⟨url, described, delivered, failed, empty⟩ := described
    rw [made refused] at same
    have both := answers (fun _ _ => .silent) 1000 default describing delivering describes delivers
    dsimp only at both
    rw [described, same, failed _ same] at both
    obtain ⟨⟨found, told⟩, refusal, -⟩ := both
    exact ⟨found, ⟨_, told, rfl⟩, refusal⟩

end MediaService

end MediaVault
