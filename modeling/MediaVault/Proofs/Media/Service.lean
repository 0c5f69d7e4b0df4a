import MediaVault.Media.Service
import MediaVault.Proofs.Pieces
import MediaVault.Proofs.Store.Memory

/-!
# The media service over the memory store

An upload takes one of three ways through the service: an image that is read
completely, an image that turns out too large, and everything else.
`upload_ends` shows that they cannot be told apart by what is stored, which is
settled by the content type and the bytes.  The other operations follow, each
with what it yields and what it leaves behind.
-/

namespace MediaVault

/-! ## Reading the head of a payload -/

namespace Spooled

theorem read_collect (limit : Nat) (head : ByteArray) (chunks : List Chunk)
    (small : head.size ≤ limit) :
    match read limit head chunks with
    | whole bytes => Chunk.collectOnto head chunks = .ok bytes ∧ bytes.size ≤ limit
    | oversized seen rest =>
      Chunk.collectOnto head chunks = Chunk.collectOnto seen rest ∧ limit < seen.size
    | unreadable reason => Chunk.collectOnto head chunks = .error reason := by
  induction chunks generalizing head with
  | nil => exact ⟨rfl, small⟩
  | cons chunk rest ih =>
    cases chunk with
    | failed reason => rfl
    | data bytes =>
      by_cases large : limit < (head ++ bytes).size
      · simp only [read, if_pos large, Chunk.collectOnto, true_and]
        exact large
      · simp only [read, if_neg large, Chunk.collectOnto]
        exact ih (head ++ bytes) (by omega)

end Spooled

theorem Chunk.size_le_of_collectOnto {seen bytes : ByteArray} {rest : List Chunk}
    (read : collectOnto seen rest = .ok bytes) : seen.size ≤ bytes.size := by
  rw [collectOnto_eq] at read
  cases collected : collect rest with
  | error reason => simp [collected, Except.map] at read
  | ok others =>
    simp only [collected, Except.map, Except.ok.injEq] at read
    rw [← read, ByteArray.size_append]
    omega

namespace MediaService

/-- The metadata that an upload derives from its bytes. -/
def derived (extract : String → ByteArray → Option ImageAttributes) (contentType : String)
    (bytes : ByteArray) : UserMetadata :=
  if ContentType.isImage contentType = true ∧ bytes.size ≤ metadataSizeLimit then
    ((extract contentType bytes).map ImageAttributes.toUserMetadata).getD ∅
  else ∅

theorem prepare_ok {extract : String → ByteArray → Option ImageAttributes} {contentType : String}
    {body : List Chunk} {payload : Payload} {metadata : UserMetadata}
    (prepared : prepare extract contentType body = .ok (payload, metadata)) :
    payload.collect = Chunk.collect body ∧
      ∀ bytes, Chunk.collect body = .ok bytes → metadata = derived extract contentType bytes := by
  have from_start : Chunk.collectOnto ByteArray.empty body = Chunk.collect body :=
    Chunk.collect_streamed body
  by_cases image : ContentType.isImage contentType = true
  · have spooled := Spooled.read_collect metadataSizeLimit ByteArray.empty body (Nat.zero_le _)
    rw [prepare, if_pos image] at prepared
    cases found : Spooled.read metadataSizeLimit ByteArray.empty body with
    | whole bytes =>
      simp only [found, from_start] at spooled
      simp only [found, Except.ok.injEq, Prod.mk.injEq] at prepared
      obtain ⟨rfl, rfl⟩ := prepared
      refine ⟨spooled.1.symm, fun others read => ?_⟩
      obtain rfl : bytes = others := Except.ok.inj (spooled.1.symm.trans read)
      simp [derived, image, spooled.2]
    | oversized seen rest =>
      simp only [found, from_start] at spooled
      simp only [found, Except.ok.injEq, Prod.mk.injEq] at prepared
      obtain ⟨rfl, rfl⟩ := prepared
      refine ⟨?_, fun bytes read => ?_⟩
      · rw [Payload.collect, Chunk.collectOnto, ByteArray.empty_append, spooled.1]
      · have large := Chunk.size_le_of_collectOnto (spooled.1.symm.trans read)
        rw [derived, if_neg (by omega)]
    | unreadable reason => simp [found] at prepared
  -- Anything but an image is handed over untouched.
  · rw [prepare, if_neg image] at prepared
    obtain ⟨rfl, rfl⟩ := Prod.mk.inj (Except.ok.inj prepared)
    exact ⟨from_start, fun bytes _ => by simp [derived, image]⟩

end MediaService

/-! ## A service over contents -/

/-- What is fixed when a service is set up.  Signers answer for themselves. -/
structure Site where
  bucket : String
  cdn : Option String
  publicSigner : Option (String → Duration → Except StorageError String)
  signer : String → Duration → Except StorageError String
  extract : String → ByteArray → Option ImageAttributes
  maxUploadBytes : Nat

namespace Site

/-- The signer that answers without any access to the contents. -/
def urlSigner (sign : String → Duration → Except StorageError String) :
    UrlSigner (StateM Contents) where
  presign key expiry := ExceptT.mk (pure (sign key expiry))

/-- The service of a site, while some operations of its store fail. -/
def media (site : Site) (faults : Faults) (now : Timestamp) : MediaService (StateM Contents) where
  store := MemoryStore.faulty site.bucket faults now
  resolver := .create site.cdn (site.publicSigner.map urlSigner) (urlSigner site.signer)
  extract := site.extract

/-- Why an operation on a key fails before it reaches the objects. -/
def obstacle? (site : Site) (faults : Faults) (operation : StoreOperation) (key : String)
    (contents : Contents) : Option StorageError :=
  MemoryStore.obstacle? site.bucket faults operation key contents

/-- The object that an upload of `bytes` leaves behind. -/
def written (site : Site) (now : Timestamp) (key : String) (contentType : Option String)
    (bytes : ByteArray) : StoredObject :=
  MemoryStore.objectOf key bytes
    { contentType := MediaService.effectiveContentType contentType
      cacheControl := some MediaService.immutableCacheControl
      userMetadata :=
        MediaService.derived site.extract (MediaService.effectiveContentType contentType) bytes }
    now

/-- The result of an upload of `bytes`. -/
def receipt (site : Site) (key : String) (contentType : Option String) (bytes : ByteArray) :
    UploadedObject :=
  { bucket := site.bucket, object := key, fileName := Resource.fileNameOf key
    etag := Digest.md5Hex bytes, size := bytes.size
    contentType := MediaService.effectiveContentType contentType }

variable {site : Site} {faults : Faults} {now : Timestamp} {before after : Contents} {key : String}

theorem created_of_obstacle?_eq_none {operation : StoreOperation} {contents : Contents}
    (free : site.obstacle? faults operation key contents = none) : contents.created = true := by
  rw [obstacle?, MemoryStore.obstacle?] at free
  split at free
  next => cases free
  next => simpa using free

/-- An upload either stores all its bytes and reports them, or changes nothing. -/
theorem upload_ends {contentType : Option String} {body : List Chunk}
    {out : Except UploadError UploadedObject}
    (h : Ends ((site.media faults now).upload key contentType body) before out after) :
    (∃ bytes, Chunk.collect body = .ok bytes ∧ site.obstacle? faults .put key before = none ∧
        out = .ok (site.receipt key contentType bytes) ∧
        after = before.write key (site.written now key contentType bytes)) ∨
      Declined before out after := by
  simp only [MediaService.upload, media] at h
  cases prepared : MediaService.prepare site.extract
      (MediaService.effectiveContentType contentType) body with
  | error reason =>
    simp only [prepared] at h
    obtain ⟨rfl, rfl⟩ := ends_throw_iff.mp h
    exact .inr ⟨rfl, _, rfl⟩
  | ok handed =>
    obtain ⟨payload, metadata⟩ := handed
    simp only [prepared] at h
    obtain ⟨collected, same_metadata⟩ := MediaService.prepare_ok prepared
    rcases ends_bind_iff.mp h with ⟨_, failed, rfl⟩ | ⟨inner, between, tried, rest⟩
    · obtain ⟨_, _, ⟨⟩⟩ := ends_attempt_iff.mp failed
    obtain ⟨_, put, ⟨rfl⟩⟩ := ends_attempt_iff.mp tried
    -- However the payload was handed over, the store reads the bytes of the body from it.
    have stored := MemoryStore.put_ends_iff.mp put
    rw [collected] at stored
    split at stored
    · obtain ⟨rfl, rfl⟩ := stored
      obtain ⟨rfl, rfl⟩ := ends_throw_iff.mp rest
      exact .inr ⟨rfl, _, rfl⟩
    · obtain ⟨rfl, rfl⟩ := stored
      obtain ⟨rfl, rfl⟩ := ends_throw_iff.mp rest
      exact .inr ⟨rfl, _, rfl⟩
    next bytes free read =>
      obtain ⟨rfl, rfl⟩ := stored
      obtain ⟨rfl, rfl⟩ := ends_pure_iff.mp rest
      refine .inl ⟨bytes, read, free, rfl, ?_⟩
      rw [written, ← same_metadata bytes read]

theorem delete_ends {out : Except StorageError Unit}
    (h : Ends ((site.media faults now).delete key) before out after) :
    (∃ object, before.objects[key]? = some object ∧ out = .ok () ∧ after = before.drop key) ∨
      Declined before out after := by
  rcases ends_bind_iff.mp h with ⟨error, failed, rfl⟩ | ⟨info, between, found, rest⟩
  · exact .inr ⟨(MemoryStore.stat_ends_iff.mp failed).1, error, rfl⟩
  obtain ⟨rfl, known⟩ := MemoryStore.stat_ends_iff.mp found
  have deleted := MemoryStore.delete_ends_iff.mp rest
  split at deleted
  · obtain ⟨rfl, rfl⟩ := deleted
    exact .inr ⟨rfl, _, rfl⟩
  · obtain ⟨rfl, rfl⟩ := deleted
    -- The look-up succeeded, so there was an object to delete.
    cases present : between.objects[key]? with
    | some object => exact .inl ⟨object, rfl, rfl, rfl⟩
    | none =>
      split at known
      · cases known
      · simp [Contents.find, present, Except.map] at known

/-! ### Operations that change nothing -/

theorem open_quiet : Quiet ((site.media faults now).open key) := MemoryStore.get_quiet

theorem stat_quiet : Quiet ((site.media faults now).stat key) := MemoryStore.stat_quiet

theorem list_quiet {lead : String} : Quiet ((site.media faults now).list lead) :=
  MemoryStore.list_quiet.bind fun _ => quiet_pure _

theorem deliveryUrl_quiet {expiry : Duration} :
    Quiet ((site.media faults now).deliveryUrl key expiry) := by
  have signing (sign : String → Duration → Except StorageError String) (wanted : Duration) :
      Quiet ((urlSigner sign).presign key wanted) := fun _ _ _ h => (Prod.mk.inj h).2.symm
  have internally (wanted : Duration) :
      Quiet ((site.media faults now).resolver.resolveInternally key wanted) :=
    Quiet.bind (signing site.signer wanted) fun _ => quiet_pure _
  rw [MediaService.deliveryUrl, Resolver.resolve]
  simp only [media, Resolver.create] at internally ⊢
  cases Resolver.usableCdn site.cdn with
  | some base => exact quiet_pure _
  | none =>
    cases site.publicSigner with
    | none => exact internally _
    | some sign =>
      refine Quiet.recover (signing sign _) fun result => ?_
      cases result with
      | ok url => exact quiet_pure _
      | error error => exact internally _

theorem describe_quiet {expiry : Duration} :
    Quiet ((site.media faults now).describe key expiry) := by
  refine Quiet.bind stat_quiet fun info => Quiet.bind deliveryUrl_quiet.attempt fun answer => ?_
  cases answer with
  | ok delivery => exact quiet_pure _
  | error error => exact quiet_pure _

theorem ready_quiet : Quiet (site.media faults now).ready := by
  refine Quiet.bind MemoryStore.bucketExists_quiet fun found => ?_
  cases found with
  | true => exact quiet_pure _
  | false => exact quiet_throw _

end Site

end MediaVault
