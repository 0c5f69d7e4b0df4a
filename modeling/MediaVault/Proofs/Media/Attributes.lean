import MediaVault.Proofs.Image.Hash
import MediaVault.Proofs.Media.Agreement
import MediaVault.Proofs.Object.Attributes

/-!
# Attributes beside stored objects

An upload replaces what is kept beside an object, whatever was there.  Over
either store the metadata then holds the attributes of the new bytes, or none,
and it stays so until the key is written again.
-/

namespace MediaVault

namespace Site

/-- The site whose attributes come of decoding by `decode`, whatever it does. -/
def decodingBy (site : Site) (decode : String → ByteArray → Option Raster) : Site :=
  { site with extract := ImageAttributes.decodedBy decode }

/-- The attributes that an upload of `bytes` leaves beside them. -/
def attributes? (site : Site) (contentType : Option String) (bytes : ByteArray) :
    Option ImageAttributes :=
  let effective := MediaService.effectiveContentType contentType
  if ContentType.isImage effective = true ∧ bytes.size ≤ 5 * 1024 * 1024 then
    site.extract effective bytes
  else none

variable {site : Site} {contentType : Option String} {bytes : ByteArray} {key : String}

theorem presentable_of_attributes? {decode : String → ByteArray → Option Raster}
    {attributes : ImageAttributes}
    (derived : (site.decodingBy decode).attributes? contentType bytes = some attributes) :
    HeaderValue.Presentable attributes.blurhash := by
  rw [attributes?] at derived
  split at derived
  · exact ImageAttributes.presentable_of_decodedBy derived
  · cases derived

theorem holds_derived :
    (MediaService.derived site.extract (MediaService.effectiveContentType contentType)
      bytes).Holds (site.attributes? contentType bytes) := by
  intro name
  rw [MediaService.derived, attributes?, MediaService.metadataSizeLimit]
  split
  · cases site.extract (MediaService.effectiveContentType contentType) bytes with
    | none => simp
    | some attributes => rfl
  · simp

/-! ## In memory -/

theorem holds_written (now : Timestamp) :
    (site.written now key contentType bytes).info.userMetadata.Holds
      (site.attributes? contentType bytes) := by
  intro name
  rw [userMetadata_written, derivedEntry?, attributes?]
  split
  · simp only [ImageAttributes.getElem?_toUserMetadata]
  · rfl

theorem Effect.elsewhere {before after : Contents} {record : Event × Report}
    (effect : site.Effect before record after) (untouched : changedKey? record ≠ some key) :
    after.objects[key]? = before.objects[key]? ∧ after.created = before.created := by
  cases effect with
  | stored now faults other contentType body bytes read =>
    have apart : other ≠ key := fun same => untouched (congrArg some same)
    exact ⟨by rw [Contents.getElem?_write, if_neg apart], rfl⟩
  | deleted now faults other =>
    have apart : other ≠ key := fun same => untouched (congrArg some same)
    exact ⟨by rw [Contents.getElem?_drop, if_neg apart], rfl⟩
  | kept => exact ⟨rfl, rfl⟩

theorem play_elsewhere (events : List Event) (before : Contents)
    (untouched : ∀ record ∈ ((site.play events).run before).1, changedKey? record ≠ some key) :
    ((site.play events).run before).2.objects[key]? = before.objects[key]? ∧
      ((site.play events).run before).2.created = before.created := by
  induction events generalizing before with
  | nil => exact ⟨rfl, rfl⟩
  | cons event events ih =>
    rw [play_cons] at untouched ⊢
    have first := (site.perform_effect event before).elsewhere (untouched _ List.mem_cons_self)
    have others := ih _ fun record member => untouched record (List.mem_cons_of_mem _ member)
    exact ⟨others.1.trans first.1, others.2.trans first.2⟩

/-! ## In a remote bucket -/

section Remote

variable {service : S3.Service} {region : String} {maxPages : Nat} {log grown : List S3.Exchange}

theorem remote_upload_kept (behaves : service.Behaves) (filled : key ≠ "")
    (genuine : service.Genuine log) {body : List Chunk} {receipt : UploadedObject}
    (uploaded : Ends ((site.remote service region maxPages).upload key contentType body) log
      (.ok receipt) grown) :
    service.Genuine grown ∧ ∃ bytes entries, Chunk.collect body = .ok bytes ∧
      entries.Holds (site.attributes? contentType bytes) ∧
      (S3.Bucket.after grown).objects[key]? =
        some ⟨S3.Store.sent (MediaService.optionsOf contentType entries), bytes⟩ := by
  let remote := site.remote service region maxPages
  cases prepared : MediaService.prepare site.extract
      (MediaService.effectiveContentType contentType) body with
  | error reason =>
    obtain ⟨⟨⟩, _⟩ := (MediaService.upload_ends_of_unreadable remote prepared).mp uploaded
  | ok handed =>
    obtain ⟨payload, metadata⟩ := handed
    obtain ⟨collected, same_metadata⟩ := MediaService.prepare_ok prepared
    obtain ⟨answer, put, answered⟩ := (MediaService.upload_ends_iff remote prepared).mp uploaded
    -- The bucket keeps the bytes of the body, however they were handed over.
    obtain ⟨genuine, kept⟩ := S3.Store.put_behaved behaves filled genuine put
    refine ⟨genuine, ?_⟩
    rw [collected] at kept
    cases read : Chunk.collect body with
    | error reason =>
      rw [read] at kept
      obtain ⟨rfl, _⟩ := kept
      cases answered
    | ok bytes =>
      rw [read] at kept
      have holds : metadata.Holds (site.attributes? contentType bytes) := by
        rw [same_metadata bytes read]
        exact holds_derived
      refine ⟨bytes, metadata, rfl, holds, ?_⟩
      rw [kept.2, Std.TreeMap.getElem?_insert_self]

end Remote

end Site

end MediaVault
