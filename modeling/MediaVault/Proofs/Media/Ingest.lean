import MediaVault.Proofs.Media.Service

/-!
# How a payload reaches the store

A payload arrives in pieces, and the pieces are an accident of the network.
`prepare_data` says that only the bytes decide how they are handed to the store,
and `upload_ends_iff` that the store's answer is all that an upload adds to
that.  So two streams with the same bytes cannot be told apart afterwards.
-/

namespace MediaVault

/-! ## Reading the head -/

/-- Pieces that fit below the limit are read to their end.  Others are read until
they pass it, and what was read comes before what was not. -/
theorem Spooled.read_data (limit : Nat) (head : ByteArray) (pieces : List ByteArray)
    (small : head.size ≤ limit) :
    if (head ++ Bytes.join pieces).size ≤ limit then
      read limit head (pieces.map .data) = .whole (head ++ Bytes.join pieces)
    else
      ∃ seen rest, read limit head (pieces.map .data) = .oversized seen (rest.map .data) ∧
        limit < seen.size ∧ seen ++ Bytes.join rest = head ++ Bytes.join pieces := by
  -- The head grows by one piece with each turn and stays below the limit until the last one.
  induction pieces generalizing head with
  | nil =>
    rw [Bytes.join_nil, ByteArray.append_empty, if_pos small]
    rfl
  | cons piece pieces ih =>
    rw [Bytes.join_cons, ← ByteArray.append_assoc]
    by_cases passed : limit < (head ++ piece).size
    · have large : ¬ (head ++ piece ++ Bytes.join pieces).size ≤ limit := by
        rw [ByteArray.size_append]
        omega
      rw [if_neg large]
      exact ⟨head ++ piece, pieces, if_pos passed, passed, rfl⟩
    · have step : read limit head ((piece :: pieces).map .data) =
          read limit (head ++ piece) (pieces.map .data) := if_neg passed
      rw [step]
      exact ih (head ++ piece) (by omega)

namespace MediaService

/-- The ways in which bytes are handed to the store, with the metadata derived
from them.  Content type and length settle which way it is. -/
inductive Handover (extract : String → ByteArray → Option ImageAttributes) (contentType : String)
    (bytes : ByteArray) : Payload × UserMetadata → Prop where
  /-- An image of at most 5 MiB is read completely. -/
  | buffered (image : ContentType.isImage contentType = true)
      (small : bytes.size ≤ 5 * 1024 * 1024) :
      Handover extract contentType bytes
        (.buffered bytes, ((extract contentType bytes).map ImageAttributes.toUserMetadata).getD ∅)
  /-- Of a larger image, what was read is put back before the rest. -/
  | oversized (image : ContentType.isImage contentType = true)
      (large : 5 * 1024 * 1024 < bytes.size) (head : ByteArray) (rest : List ByteArray)
      (passed : 5 * 1024 * 1024 < head.size) (whole : head ++ Bytes.join rest = bytes) :
      Handover extract contentType bytes (.streamed (.data head :: rest.map .data), ∅)
  /-- Everything else is passed on piece by piece. -/
  | untouched (other : ContentType.isImage contentType = false) (pieces : List ByteArray)
      (whole : Bytes.join pieces = bytes) :
      Handover extract contentType bytes (.streamed (pieces.map .data), ∅)

theorem prepare_data (extract : String → ByteArray → Option ImageAttributes) (contentType : String)
    (pieces : List ByteArray) :
    ∃ handed, prepare extract contentType (pieces.map .data) = .ok handed ∧
      Handover extract contentType (Bytes.join pieces) handed := by
  cases image : ContentType.isImage contentType with
  | true =>
    have spooled := Spooled.read_data metadataSizeLimit ByteArray.empty pieces (Nat.zero_le _)
    rw [ByteArray.empty_append] at spooled
    rw [prepare, if_pos image]
    split at spooled
    next small =>
      rw [spooled]
      exact ⟨_, rfl, .buffered image small⟩
    next large =>
      obtain ⟨seen, rest, found, passed, whole⟩ := spooled
      rw [found]
      exact ⟨_, rfl, .oversized image (Nat.lt_of_not_le large) seen rest passed whole⟩
  | false =>
    rw [prepare, if_neg (by simp [image])]
    exact ⟨_, rfl, .untouched image pieces rfl⟩

theorem collect_of_prepare_error {extract : String → ByteArray → Option ImageAttributes}
    {contentType : String} {body : List Chunk} {reason : String}
    (prepared : prepare extract contentType body = .error reason) :
    Chunk.collect body = .error reason := by
  rw [prepare] at prepared
  split at prepared
  · have spooled := Spooled.read_collect metadataSizeLimit ByteArray.empty body (Nat.zero_le _)
    split at prepared
    · cases prepared
    · cases prepared
    next found =>
      obtain rfl := Except.error.inj prepared
      rw [found, Chunk.collectOnto_eq] at spooled
      cases collected : Chunk.collect body with
      | error other => simpa [collected, Except.map] using spooled
      | ok bytes => simp [collected, Except.map] at spooled
  · cases prepared

/-! ## Storing -/

section Storing

variable {σ : Type} (service : MediaService (StateM σ)) {key : String}
  {contentType : Option String} {body : List Chunk} {before after : σ}
  {out : Except UploadError UploadedObject}

/-- What is stored beside the bytes of an upload. -/
def optionsOf (contentType : Option String) (metadata : UserMetadata) : PutOptions :=
  { contentType := effectiveContentType contentType, cacheControl := some immutableCacheControl
    userMetadata := metadata }

/-- What an upload reports when the store took its payload. -/
def receiptOf (key : String) (contentType : Option String)
    (outcome : PutOutcome) : UploadedObject :=
  { bucket := service.store.bucket, object := key, fileName := Resource.fileNameOf key
    etag := outcome.etag, size := outcome.size, contentType := effectiveContentType contentType }

/-- An upload whose payload can be handed over ends as the store's put does. -/
theorem upload_ends_iff {payload : Payload} {metadata : UserMetadata}
    (prepared : prepare service.extract (effectiveContentType contentType) body =
      .ok (payload, metadata)) :
    Ends (service.upload key contentType body) before out after ↔
      ∃ answer, Ends (service.store.put key payload (optionsOf contentType metadata)) before answer
          after ∧
        out = match answer with
          | .ok outcome => .ok (service.receiptOf key contentType outcome)
          | .error source => .error (putError key payload source) := by
  simp only [upload, prepared]
  rw [ends_bind_iff]
  constructor
  · rintro (⟨_, failed, rfl⟩ | ⟨answer, between, tried, rest⟩)
    · obtain ⟨_, _, ⟨⟩⟩ := ends_attempt_iff.mp failed
    obtain ⟨_, put, ⟨rfl⟩⟩ := ends_attempt_iff.mp tried
    cases answer with
    | ok outcome =>
      obtain ⟨rfl, rfl⟩ := ends_pure_iff.mp rest
      exact ⟨_, put, rfl⟩
    | error source =>
      obtain ⟨rfl, rfl⟩ := ends_throw_iff.mp rest
      exact ⟨_, put, rfl⟩
  · rintro ⟨answer, put, rfl⟩
    refine .inr ⟨answer, after, ends_attempt_iff.mpr ⟨answer, put, rfl⟩, ?_⟩
    cases answer with
    | ok outcome => exact ends_pure_iff.mpr ⟨rfl, rfl⟩
    | error source => exact ends_throw_iff.mpr ⟨rfl, rfl⟩

/-- A payload that cannot be handed over is reported before the store is asked. -/
theorem upload_ends_of_unreadable {reason : String}
    (prepared : prepare service.extract (effectiveContentType contentType) body = .error reason) :
    Ends (service.upload key contentType body) before out after ↔
      out = .error (.read reason) ∧ after = before := by
  simp only [upload, prepared]
  exact ends_throw_iff

end Storing

end MediaService

namespace Site

/-- Readable bytes are stored when nothing is in the way. -/
theorem upload_ends_of_collect {site : Site} {faults : Faults} {now : Timestamp} {key : String}
    {contentType : Option String} {body : List Chunk} {bytes : ByteArray} {before : Contents}
    (read : Chunk.collect body = .ok bytes)
    (free : site.obstacle? faults .put key before = none) :
    Ends ((site.media faults now).upload key contentType body) before
      (.ok (site.receipt key contentType bytes))
      (before.write key (site.written now key contentType bytes)) := by
  cases prepared : MediaService.prepare site.extract
      (MediaService.effectiveContentType contentType) body with
  -- Only an unreadable stream cannot be handed over.
  | error reason =>
    rw [MediaService.collect_of_prepare_error prepared] at read
    cases read
  | ok handed =>
    obtain ⟨payload, metadata⟩ := handed
    obtain ⟨collected, derived⟩ := MediaService.prepare_ok prepared
    refine (MediaService.upload_ends_iff (site.media faults now) prepared).mpr
      ⟨.ok { etag := Digest.md5Hex bytes, size := bytes.size }, ?_, rfl⟩
    refine MemoryStore.put_ends_iff.mpr ?_
    have unhindered : MemoryStore.obstacle? site.bucket faults .put key before = none := free
    rw [collected, read, unhindered, derived bytes read]
    exact ⟨rfl, rfl⟩

/-- Two streams with the same bytes are stored as the same object and answered
with the same receipt.  How they are handed over depends on their content type
and length only. -/
theorem chunking_irrelevant (site : Site) (now : Timestamp) (key : String)
    (contentType : Option String) (pieces others : List ByteArray)
    (same : Bytes.join pieces = Bytes.join others) (before : Contents)
    (created : before.created = true) :
    let upload (arrived : List ByteArray) :=
      ((site.media (fun _ => none) now).upload key contentType (arrived.map .data)).run.run before
    upload pieces = upload others ∧
      upload pieces = (.ok (site.receipt key contentType (Bytes.join pieces)),
        before.write key (site.written now key contentType (Bytes.join pieces))) ∧
      ∀ arrived ∈ [pieces, others],
        let effective := MediaService.effectiveContentType contentType
        ∃ handed, MediaService.prepare site.extract effective (arrived.map .data) = .ok handed ∧
          MediaService.Handover site.extract effective (Bytes.join pieces) handed := by
  intro upload
  have free : site.obstacle? (fun _ => none) .put key before = none := by
    simp [obstacle?, MemoryStore.obstacle?, created]
  have ended (arrived : List ByteArray) :
      upload arrived = (.ok (site.receipt key contentType (Bytes.join arrived)),
        before.write key (site.written now key contentType (Bytes.join arrived))) :=
    upload_ends_of_collect (Chunk.collect_eq_ok_iff.mpr ⟨arrived, rfl, rfl⟩) free
  refine ⟨?_, ended pieces, ?_⟩
  · rw [ended pieces, ended others, same]
  · intro arrived among effective
    have whole : Bytes.join arrived = Bytes.join pieces := by
      rcases List.mem_cons.mp among with rfl | second
      · rfl
      · exact List.mem_singleton.mp second ▸ same.symm
    exact whole ▸ MediaService.prepare_data _ _ arrived

/-- An image in one piece and the same image byte by byte, with an empty piece in
between. -/
theorem chunking_irrelevant_byte_by_byte :
    let site : Site :=
      { bucket := "media", cdn := none, publicSigner := none, signer := fun key _ => .ok key
        extract := fun _ bytes => some ⟨"hash", bytes.size.toUInt32, 1⟩, maxUploadBytes := 1000 }
    let pieces : List ByteArray := [⟨#[1, 2]⟩]
    let others : List ByteArray := [⟨#[1]⟩, ⟨#[]⟩, ⟨#[2]⟩]
    let before : Contents := { created := true }
    let upload (arrived : List ByteArray) :=
      ((site.media (fun _ => none) default).upload "posts/1/a.png" (some "image/png")
        (arrived.map .data)).run.run before
    Bytes.join pieces = Bytes.join others ∧ before.created = true ∧
      upload pieces = upload others := by
  intro site pieces others before upload
  have same : Bytes.join pieces = Bytes.join others := by decide
  exact ⟨same, rfl, (chunking_irrelevant site _ _ _ pieces others same before rfl).1⟩

end Site

end MediaVault
