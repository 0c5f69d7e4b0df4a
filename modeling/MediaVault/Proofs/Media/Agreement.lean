import MediaVault.Proofs.Media.History
import MediaVault.Proofs.Media.Ingest
import MediaVault.Proofs.S3.Behaved

/-!
# Two services side by side

One service works over the store in memory, the other over a remote service that
behaves as a bucket.  `Alike` ties the contents of the one to the log of the
other; each operation, started from states that are alike, comes to the same on
both sides, and the states are alike again.  The same means: equal but for entity
tags and times, which either side makes up for itself.
-/

namespace MediaVault

open S3 (Bucket Exchange Kept Service)

/-! ## Results that are the same -/

/-- Two runs failed for the same reason, or succeeded with values that are the
same. -/
def SameOutcome {ε α : Type} (same : α → α → Prop) : Except ε α → Except ε α → Prop
  | .ok a, .ok b => same a b
  | .error error, .error other => error = other
  | _, _ => False

def SameReceipt (a b : UploadedObject) : Prop :=
  a = { b with etag := a.etag }

structure SameInfo (a b : ObjectInfo) : Prop where
  key : a.key = b.key
  contentType : a.contentType = b.contentType
  size : a.size = b.size
  cacheControl : a.cacheControl = b.cacheControl
  userMetadata : a.userMetadata.toList = b.userMetadata.toList
  image : a.image = b.image

structure SameObject (a b : StoredObject) : Prop where
  info : SameInfo a.info b.info
  bytes : a.bytes = b.bytes

def SameMeta (a b : ObjectMeta) : Prop :=
  a = { b with etag := a.etag, lastModified := a.lastModified }

def SameFile (a b : ListedFile) : Prop :=
  a = { b with etag := a.etag, lastModified := a.lastModified }

/-- Two reports on an operation are the same. -/
def Report.Agrees : Report → Report → Prop
  | .upload a, .upload b => SameOutcome SameReceipt a b
  | .delete a, .delete b => SameOutcome Eq a b
  | .open a, .open b => SameOutcome SameObject a b
  | .stat a, .stat b => SameOutcome SameInfo a b
  | .describe a, .describe b => SameOutcome SameMeta a b
  | .list a, .list b => SameOutcome (List.Forall₂ SameFile) a b
  | _, _ => False

theorem SameInfo.ofInfo {a b : ObjectInfo} (same : SameInfo a b) (url : String) :
    SameMeta (ObjectMeta.ofInfo a url) (ObjectMeta.ofInfo b url) := by
  simp [SameMeta, ObjectMeta.ofInfo, same.key, same.contentType, same.size, same.cacheControl,
    same.image]

/-! ## The services -/

/-- The signer that answers by a function. -/
def UrlSigner.ofFunction {m : Type → Type} [Monad m]
    (sign : String → Duration → Except StorageError String) : UrlSigner m where
  presign key expiry := ExceptT.mk (pure (sign key expiry))

/-- The service of a site over the store of a remote service. -/
def Site.remote (site : Site) (service : Service) (region : String) (maxPages : Nat) :
    MediaService (StateM (List Exchange)) where
  store := S3.store (service.client region site.bucket) maxPages
  resolver :=
    .create site.cdn (site.publicSigner.map UrlSigner.ofFunction) (UrlSigner.ofFunction site.signer)
  extract := site.extract

/-! ## States that are alike -/

/-- The object in memory is the one that a bucket keeps. -/
inductive Twins (key : String) : Kept → StoredObject → Prop where
  | put (bytes : ByteArray) (options : PutOptions) (now : Timestamp)
      (lower : options.userMetadata.LowerNamed) :
      Twins key ⟨S3.Store.sent options, bytes⟩ (MemoryStore.objectOf key bytes options now)

/-- The contents in memory are those of the bucket that the log makes. -/
structure Alike (service : Service) (log : List Exchange) (contents : Contents) : Prop where
  genuine : service.Genuine log
  created : contents.created = true
  twins : ∀ key : String,
    Option.Rel (Twins key) (Bucket.after log).objects[key]? contents.objects[key]?

theorem alike_nil (service : Service) : Alike service [] { created := true } where
  genuine := Service.genuine_nil
  created := rfl
  twins key := by simp [Bucket.after]

/-- Metadata whose names are in lower case already is told as it was sent, if in
another order. -/
theorem S3.ObjectReply.Tells.getElem?_infoOf {reply : S3.ObjectReply} {kept : Kept}
    (tells : reply.Tells kept) {entries : UserMetadata} (lower : entries.LowerNamed)
    (sent : kept.attributes.userMetadata = entries.toList) (key name : String) :
    (S3.Store.infoOf key reply).userMetadata[name]? = entries[name]? := by
  have arrived : reply.userMetadata.Perm entries.toList := by
    have told := tells.userMetadata
    rwa [sent, lower.map_lower] at told
  refine UserMetadata.getElem?_ofList_of_perm ?_ name
  exact lower.map_lower ▸ arrived.map _

theorem sameInfo_of_tells {key : String} {kept : Kept} {object : StoredObject}
    (twins : Twins key kept object) {reply : S3.ObjectReply} (tells : reply.Tells kept) :
    SameInfo (S3.Store.infoOf key reply) object.info := by
  cases twins with
  | put bytes options now lower =>
    have entries : (S3.Store.infoOf key reply).userMetadata.toList =
        options.userMetadata.lowerNames.toList := by
      refine UserMetadata.toList_eq_of_getElem?_eq fun name => ?_
      rw [lower.getElem?_lowerNames, tells.getElem?_infoOf lower rfl]
    have looked_up (name : String) : (S3.Store.infoOf key reply).userMetadata.lookup? name =
        options.userMetadata.lowerNames.lookup? name := by
      rw [UserMetadata.lookup?, UserMetadata.lookup?, entries]
    exact
      { key := rfl
        contentType := by simp [S3.Store.infoOf, tells.contentType, MemoryStore.objectOf,
          S3.Store.sent]
        size := by simp [S3.Store.infoOf, tells.length, MemoryStore.objectOf]
        cacheControl := tells.cacheControl
        userMetadata := entries
        image := by
          simp only [ObjectInfo.image, ImageAttributes.ofUserMetadata, ImageAttributes.dimension,
            looked_up]
          rfl }

namespace Alike

variable {service : Service} {log grown : List Exchange} {contents : Contents} {key : String}

theorem of_objects (alike : Alike service log contents) (genuine : service.Genuine grown)
    (same : (Bucket.after grown).objects = (Bucket.after log).objects) :
    Alike service grown contents where
  genuine := genuine
  created := alike.created
  twins key := same ▸ alike.twins key

theorem write (alike : Alike service log contents) (genuine : service.Genuine grown)
    {kept : Kept} {object : StoredObject} (twins : Twins key kept object)
    (stored : (Bucket.after grown).objects = (Bucket.after log).objects.insert key kept) :
    Alike service grown (contents.write key object) where
  genuine := genuine
  created := alike.created
  twins other := by
    rw [stored, Std.TreeMap.getElem?_insert, Contents.getElem?_write]
    by_cases same : key = other
    · subst other
      simpa using twins
    · simpa [same] using alike.twins other

theorem drop (alike : Alike service log contents) (genuine : service.Genuine grown)
    (erased : (Bucket.after grown).objects = (Bucket.after log).objects.erase key) :
    Alike service grown (contents.drop key) where
  genuine := genuine
  created := alike.created
  twins other := by
    rw [erased, Std.TreeMap.getElem?_erase, Contents.getElem?_drop]
    by_cases same : key = other
    · subst other
      simp
    · simpa [same] using alike.twins other

/-- Without failures nothing stands in the way of the store in memory. -/
theorem unhindered (alike : Alike service log contents) (bucket : String)
    (operation : StoreOperation) :
    MemoryStore.obstacle? bucket (fun _ => none) operation key contents = none := by
  simp [MemoryStore.obstacle?, alike.created]

/-- What a bucket is found to hold is what the memory holds. -/
theorem find_agrees {α : Type} {same : α → α → Prop} {describe : S3.ObjectReply → Kept → α}
    {tell : StoredObject → α} (alike : Alike service log contents)
    (told : ∀ kept object reply, Twins key kept object → reply.Tells kept →
      same (describe reply kept) (tell object))
    {out : Except StorageError α}
    (found : S3.Store.Found (Bucket.after log).objects key describe out) :
    SameOutcome same out ((contents.find key).map tell) := by
  have twins := alike.twins key
  rw [S3.Store.Found] at found
  rw [Contents.find]
  generalize (Bucket.after log).objects[key]? = kept at found twins
  generalize contents.objects[key]? = present at twins
  cases twins with
  | none =>
    rw [found]
    exact rfl
  | some twins =>
    obtain ⟨reply, tells, rfl⟩ := found
    exact told _ _ _ twins tells

/-- Both sides hold the same keys, with objects of the same sizes. -/
theorem equiv (alike : Alike service log contents) :
    ((Bucket.after log).objects.map fun key kept => (key, (kept.body.size : Int))).Equiv
      (contents.objects.map fun _ object => (object.info.key, object.info.size)) := by
  -- Equal look-ups make equal listings, as either map is in the order of its keys.
  refine .of_forall_constGet?_eq fun key => ?_
  have twins := alike.twins key
  rw [Std.TreeMap.getElem?_map, Std.TreeMap.getElem?_map]
  generalize (Bucket.after log).objects[key]? = kept at twins
  generalize contents.objects[key]? = present at twins
  cases twins with
  | none => rfl
  | some twins => cases twins; rfl

theorem size_eq (alike : Alike service log contents) :
    (Bucket.after log).objects.size = contents.objects.size := by
  have sizes := alike.equiv.size_eq
  rw [Std.TreeMap.size_map, Std.TreeMap.size_map] at sizes
  exact sizes

theorem shown_eq (alike : Alike service log contents) (lead : String) :
    ((Bucket.after log).remaining lead none).map
        (fun entry => (entry.1, (entry.2.body.size : Int))) =
      (contents.scan lead).map (fun object => (object.info.key, object.info.size)) := by
  have listed := congrArg (fun entries =>
    (entries.filter fun entry => Text.startsWith lead entry.1).map (·.2)) alike.equiv.toList_eq
  simp only [Std.TreeMap.toList_map, List.filter_map, List.map_map, Function.comp_def] at listed
  rw [Contents.scan_eq_filter, List.map_map]
  refine Eq.trans ?_ listed
  simp only [Bucket.remaining, Option.all_none, Bool.and_true]

end Alike

/-! ## Runs that agree -/

/-- From these states on, the two actions come to the same and leave states that
are alike. -/
def AgreeFrom (service : Service) (log : List Exchange) (contents : Contents) {ε α : Type}
    (same : α → α → Prop) (far : ExceptT ε (StateM (List Exchange)) α)
    (near : ExceptT ε (StateM Contents) α) : Prop :=
  ∀ out grown out₁ after, Ends far log out grown → Ends near contents out₁ after →
    SameOutcome same out out₁ ∧ Alike service grown after

theorem AgreeFrom.bind {service : Service} {log : List Exchange} {contents : Contents}
    {ε α β : Type} {same : α → α → Prop} {same₁ : β → β → Prop}
    {far : ExceptT ε (StateM (List Exchange)) α} {near : ExceptT ε (StateM Contents) α}
    {next : α → ExceptT ε (StateM (List Exchange)) β} {next₁ : α → ExceptT ε (StateM Contents) β}
    (first : AgreeFrom service log contents same far near)
    (rest : ∀ a b log contents, same a b → Alike service log contents →
      AgreeFrom service log contents same₁ (next a) (next₁ b)) :
    AgreeFrom service log contents same₁ (far >>= next) (near >>= next₁) := by
  intro out grown out₁ after far_ends near_ends
  -- Where one side fails and the other goes on, the first outcomes would differ.
  rcases ends_bind_iff.mp far_ends with ⟨error, failed, rfl⟩ | ⟨a, between, ended, far_rest⟩
  · rcases ends_bind_iff.mp near_ends with ⟨error₁, failed₁, rfl⟩ | ⟨b, _, ended₁, _⟩
    · exact first _ _ _ _ failed failed₁
    · cases (first _ _ _ _ failed ended₁).1
  · rcases ends_bind_iff.mp near_ends with ⟨error₁, failed₁, rfl⟩ | ⟨b, _, ended₁, near_rest⟩
    · cases (first _ _ _ _ ended failed₁).1
    · obtain ⟨agree, alike⟩ := first _ _ _ _ ended ended₁
      exact rest a b _ _ agree alike _ _ _ _ far_rest near_rest

theorem agreeFrom_pure {service : Service} {log : List Exchange} {contents : Contents}
    {ε α : Type} {same : α → α → Prop} {a b : α} (alike : Alike service log contents)
    (agree : same a b) :
    AgreeFrom service log contents same (pure a : ExceptT ε (StateM (List Exchange)) α) (pure b) := by
  intro out grown out₁ after far near
  obtain ⟨rfl, rfl⟩ := ends_pure_iff.mp far
  obtain ⟨rfl, rfl⟩ := ends_pure_iff.mp near
  exact ⟨agree, alike⟩

/-! ## Operation by operation -/

namespace Site

variable {site : Site} {service : Service} {region : String} {maxPages : Nat} {now : Timestamp}
  {log : List Exchange} {contents : Contents} {key : String}

theorem stat_agrees (behaves : service.Behaves) (filled : key ≠ "")
    (alike : Alike service log contents) :
    AgreeFrom service log contents SameInfo ((site.remote service region maxPages).stat key)
      ((site.media (fun _ => none) now).stat key) := by
  intro out grown out₁ after far near
  obtain ⟨genuine, same, found⟩ := S3.Store.stat_behaved behaves filled alike.genuine far
  obtain ⟨rfl, rfl⟩ := MemoryStore.stat_ends_iff.mp near
  rw [alike.unhindered]
  exact ⟨alike.find_agrees (fun _ _ _ twins tells => sameInfo_of_tells twins tells) found,
    alike.of_objects genuine same⟩

theorem open_agrees (behaves : service.Behaves) (filled : key ≠ "")
    (alike : Alike service log contents) :
    AgreeFrom service log contents SameObject ((site.remote service region maxPages).open key)
      ((site.media (fun _ => none) now).open key) := by
  intro out grown out₁ after far near
  obtain ⟨genuine, same, found⟩ := S3.Store.get_behaved behaves filled alike.genuine far
  obtain ⟨rfl, rfl⟩ := MemoryStore.get_ends_iff.mp near
  rw [alike.unhindered]
  have whole : after.find key = (after.find key).map id := by
    cases after.find key <;> rfl
  refine ⟨?_, alike.of_objects genuine same⟩
  rw [whole]
  refine alike.find_agrees (fun kept object reply twins tells => ?_) found
  exact ⟨sameInfo_of_tells twins tells, by cases twins; rfl⟩

theorem delete_agrees (behaves : service.Behaves) (filled : key ≠ "")
    (alike : Alike service log contents) :
    AgreeFrom service log contents Eq ((site.remote service region maxPages).delete key)
      ((site.media (fun _ => none) now).delete key) := by
  refine (stat_agrees behaves filled alike).bind fun _ _ log contents _ alike => ?_
  intro out grown out₁ after far near
  obtain ⟨genuine, rfl, erased⟩ := S3.Store.delete_behaved behaves filled alike.genuine far
  have dropped := MemoryStore.delete_ends_iff.mp near
  rw [alike.unhindered] at dropped
  obtain ⟨rfl, rfl⟩ := dropped
  exact ⟨rfl, alike.drop genuine erased⟩

theorem lowerNamed_derived (extract : String → ByteArray → Option ImageAttributes)
    (contentType : String) (bytes : ByteArray) :
    (MediaService.derived extract contentType bytes).LowerNamed := by
  rw [MediaService.derived]
  split
  · cases extract contentType bytes with
    | none => exact UserMetadata.lowerNamed_empty
    | some attributes => exact attributes.lowerNamed_toUserMetadata
  · exact UserMetadata.lowerNamed_empty

theorem upload_agrees (behaves : service.Behaves) (filled : key ≠ "")
    (alike : Alike service log contents) (contentType : Option String) (body : List Chunk) :
    AgreeFrom service log contents SameReceipt
      ((site.remote service region maxPages).upload key contentType body)
      ((site.media (fun _ => none) now).upload key contentType body) := by
  intro out grown out₁ after far near
  let remote := site.remote service region maxPages
  let memory := site.media (fun _ => none) now
  cases prepared : MediaService.prepare site.extract
      (MediaService.effectiveContentType contentType) body with
  | error reason =>
    obtain ⟨rfl, rfl⟩ := (MediaService.upload_ends_of_unreadable remote prepared).mp far
    obtain ⟨rfl, rfl⟩ := (MediaService.upload_ends_of_unreadable memory prepared).mp near
    exact ⟨rfl, alike⟩
  | ok handed =>
    obtain ⟨payload, metadata⟩ := handed
    obtain ⟨collected, same_metadata⟩ := MediaService.prepare_ok prepared
    obtain ⟨answer, far_put, rfl⟩ := (MediaService.upload_ends_iff remote prepared).mp far
    obtain ⟨answer₁, near_put, rfl⟩ := (MediaService.upload_ends_iff memory prepared).mp near
    obtain ⟨genuine, kept⟩ := S3.Store.put_behaved behaves filled alike.genuine far_put
    have stored := MemoryStore.put_ends_iff.mp near_put
    rw [alike.unhindered] at stored
    -- Either store reads the same bytes from the payload, or the same failure.
    rw [collected] at kept stored
    cases read : Chunk.collect body with
    | error reason =>
      rw [read] at kept stored
      obtain ⟨rfl, same⟩ := kept
      obtain ⟨rfl, rfl⟩ := stored
      exact ⟨rfl, alike.of_objects genuine same⟩
    | ok bytes =>
      rw [read] at kept stored
      obtain ⟨⟨etag, rfl⟩, inserted⟩ := kept
      obtain ⟨rfl, rfl⟩ := stored
      have lower : metadata.LowerNamed := by
        rw [same_metadata bytes read]
        exact lowerNamed_derived _ _ _
      exact ⟨rfl, alike.write genuine (.put bytes _ now lower) inserted⟩

/-! ### Delivery URLs -/

/-- The delivery URL that a site's signers make. -/
def delivery (site : Site) (key : String) (expiry : Duration) :
    Except StorageError DeliveryUrl :=
  let resolver : Resolver Id :=
    .create site.cdn (site.publicSigner.map UrlSigner.ofFunction) (UrlSigner.ofFunction site.signer)
  (resolver.resolve key expiry).run

/-- Over any state, resolving a key is a matter of the signers alone. -/
theorem run_resolve {σ : Type} (site : Site) (key : String) (expiry : Duration) (before : σ) :
    let resolver : Resolver (StateM σ) :=
      .create site.cdn (site.publicSigner.map UrlSigner.ofFunction)
        (UrlSigner.ofFunction site.signer)
    (resolver.resolve key expiry).run.run before = (site.delivery key expiry, before) := by
  intro resolver
  -- Whatever the signers answer, both runs take the same way with it.
  simp only [resolver, delivery, Resolver.resolve, Resolver.create, Resolver.resolveInternally,
    UrlSigner.ofFunction]
  generalize Resolver.usableCdn site.cdn = cdn
  generalize site.signer key (Expiry.clamp expiry) = signed
  cases cdn with
  | some base => rfl
  | none =>
    cases site.publicSigner with
    | none => cases signed <;> rfl
    | some sign =>
      simp only [Option.map_some, UrlSigner.ofFunction]
      generalize sign key (Expiry.clamp expiry) = publicly
      cases publicly with
      | ok url => rfl
      | error error => cases signed <;> rfl

theorem delivery_agrees (alike : Alike service log contents) (expiry : Duration) :
    AgreeFrom service log contents Eq
      (attempt ((site.remote service region maxPages).resolver.resolve key expiry) :
        ExceptT StorageError (StateM (List Exchange)) (Except StorageError DeliveryUrl))
      (attempt ((site.media (fun _ => none) now).resolver.resolve key expiry)) := by
  intro out grown out₁ after far near
  obtain ⟨inner, far_ended, rfl⟩ := ends_attempt_iff.mp far
  obtain ⟨inner₁, near_ended, rfl⟩ := ends_attempt_iff.mp near
  obtain ⟨rfl, rfl⟩ := Prod.mk.inj ((run_resolve site key expiry log).symm.trans far_ended)
  obtain ⟨rfl, rfl⟩ := Prod.mk.inj ((run_resolve site key expiry contents).symm.trans near_ended)
  exact ⟨rfl, alike⟩

theorem describe_agrees (behaves : service.Behaves) (filled : key ≠ "")
    (alike : Alike service log contents) (expiry : Duration) :
    AgreeFrom service log contents SameMeta
      ((site.remote service region maxPages).describe key expiry)
      ((site.media (fun _ => none) now).describe key expiry) := by
  refine (stat_agrees behaves filled alike).bind fun info info₁ log contents same alike => ?_
  refine (delivery_agrees alike expiry).bind fun answer _ log contents same_answer alike => ?_
  subst same_answer
  cases answer with
  | ok delivered => exact agreeFrom_pure alike (same.ofInfo delivered.url)
  | error error => exact agreeFrom_pure alike (same.ofInfo "")

/-! ### Listings -/

structure SameSummary (a b : ObjectSummary) : Prop where
  key : a.key = b.key
  size : a.size = b.size

theorem sameSummaries_of_shown {summaries : List ObjectSummary} {shown : List (String × Kept)}
    {objects : List StoredObject} (summarized : List.Forall₂ S3.Store.Summarizes summaries shown)
    (same : shown.map (fun entry => (entry.1, (entry.2.body.size : Int))) =
      objects.map (fun object => (object.info.key, object.info.size))) :
    List.Forall₂ SameSummary summaries (objects.map (·.info.summary)) := by
  induction summarized generalizing objects with
  | nil =>
    cases objects with
    | nil => exact .nil
    | cons object objects => simp at same
  | @cons summary entry summaries shown first others ih =>
    cases objects with
    | nil => simp at same
    | cons object objects =>
      simp only [List.map_cons, List.cons.injEq, Prod.mk.injEq] at same
      obtain ⟨⟨key, size⟩, same⟩ := same
      exact .cons ⟨first.key.trans key, first.size.trans size⟩ (ih same)

theorem list_agrees (behaves : service.Behaves) (alike : Alike service log contents)
    (room : (Bucket.after log).objects.size < maxPages) (lead : String) :
    AgreeFrom service log contents (List.Forall₂ SameFile)
      ((site.remote service region maxPages).list lead)
      ((site.media (fun _ => none) now).list lead) := by
  have summaries : AgreeFrom service log contents (List.Forall₂ SameSummary)
      ((site.remote service region maxPages).store.list lead)
      ((site.media (fun _ => none) now).store.list lead) := by
    intro out grown out₁ after far near
    have few : ((Bucket.after log).remaining lead none).length < maxPages :=
      Nat.lt_of_le_of_lt (List.length_filter_le _ _) (Std.TreeMap.length_toList ▸ room)
    obtain ⟨genuine, same, _, rfl, summarized⟩ :=
      S3.Store.listPages_behaved behaves alike.genuine rfl few far
    obtain ⟨rfl, rfl⟩ := MemoryStore.list_ends_iff.mp near
    rw [alike.unhindered]
    exact ⟨sameSummaries_of_shown summarized (alike.shown_eq lead), alike.of_objects genuine same⟩
  refine summaries.bind fun a b log contents same alike => agreeFrom_pure alike ?_
  -- Either side leaves out the object whose key is the lead itself.
  have kept : List.Forall₂ SameSummary (a.filter fun s => s.key != lead)
      (b.filter fun s => s.key != lead) := by
    refine List.rel_filter (fun s t agree => ?_) same
    simp [agree.key]
  refine List.rel_map (fun s t agree => ?_) kept
  simp [SameFile, ListedFile.ofSummary, ObjectSummary.fileName, agree.key, agree.size]

end Site

/-! ## Any operation -/

/-- The key that an operation is about; a listing has a lead instead. -/
def Operation.key? : Operation → Option String
  | .upload key _ _ => some key
  | .delete key => some key
  | .open key => some key
  | .stat key => some key
  | .describe key _ => some key
  | .list _ => none

theorem AgreeFrom.reports {service : Service} {log : List Exchange} {contents : Contents}
    {ε α : Type} {same : α → α → Prop} {far : ExceptT ε (StateM (List Exchange)) α}
    {near : ExceptT ε (StateM Contents) α} (agree : AgreeFrom service log contents same far near)
    (wrap : Except ε α → Report)
    (agrees : ∀ out out₁, SameOutcome same out out₁ → (wrap out).Agrees (wrap out₁)) :
    let farReport := (return wrap (← far.run) : StateM (List Exchange) Report).run log
    let nearReport := (return wrap (← near.run) : StateM Contents Report).run contents
    farReport.1.Agrees nearReport.1 ∧ Alike service farReport.2 nearReport.2 := by
  obtain ⟨outcome, alike⟩ := agree _ _ _ _ (ends_self far log) (ends_self near contents)
  exact ⟨agrees _ _ outcome, alike⟩

namespace Site

/-- From states that are alike, an operation comes to the same on both sides. -/
theorem perform_agrees (site : Site) {service : Service} (behaves : service.Behaves)
    (region : String) {maxPages : Nat} (now : Timestamp) {log : List Exchange}
    {contents : Contents} (alike : Alike service log contents) (operation : Operation)
    (filled : operation.key? ≠ some "") (room : contents.objects.size < maxPages) :
    let far := ((site.remote service region maxPages).perform operation).run log
    let near := ((site.media (fun _ => none) now).perform operation).run contents
    far.1.Agrees near.1 ∧ Alike service far.2 near.2 := by
  have key_filled (key : String) (named : operation.key? = some key) : key ≠ "" := by
    rintro rfl
    exact filled named
  cases operation with
  | upload key contentType body =>
    exact (upload_agrees behaves (key_filled key rfl) alike contentType body).reports .upload
      fun _ _ agree => agree
  | delete key =>
    exact (delete_agrees behaves (key_filled key rfl) alike).reports .delete fun _ _ agree => agree
  | «open» key =>
    exact (open_agrees behaves (key_filled key rfl) alike).reports .open fun _ _ agree => agree
  | stat key =>
    exact (stat_agrees behaves (key_filled key rfl) alike).reports .stat fun _ _ agree => agree
  | describe key expiry =>
    exact (describe_agrees behaves (key_filled key rfl) alike expiry).reports .describe
      fun _ _ agree => agree
  | list lead =>
    exact (list_agrees behaves alike (alike.size_eq ▸ room) lead).reports .list
      fun _ _ agree => agree

end Site

end MediaVault
