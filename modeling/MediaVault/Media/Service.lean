import MediaVault.ContentType
import MediaVault.Delivery
import MediaVault.Media.Upload

/-!
# The media service

Uploads, reads and deletes on top of a store.  An image of at most 5 MiB is
read completely, so that its placeholder hash and size can be stored beside
it; everything else is passed on as a stream.  The decoder is a parameter: an
image that it cannot decode is stored without attributes.
-/

namespace MediaVault

/-- The outcome of reading the head of a payload. -/
inductive Spooled where
  /-- All of it fits below the limit. -/
  | whole (bytes : ByteArray)
  /-- The limit was passed: what was read so far, then the rest. -/
  | oversized (head : ByteArray) (rest : List Chunk)
  | unreadable (reason : String)

namespace Spooled

/-- Read until the end, or until more than `limit` bytes were read. -/
def read (limit : Nat) (head : ByteArray) : List Chunk → Spooled
  | [] => .whole head
  | .failed reason :: _ => .unreadable reason
  | .data bytes :: rest =>
    let head := head ++ bytes
    if limit < head.size then .oversized head rest else read limit head rest

end Spooled

/-- The service for one bucket. -/
structure MediaService (m : Type → Type) where
  store : ObjectStore m
  resolver : Resolver m
  /-- Derives the attributes of an image from its content type and bytes. -/
  extract : (contentType : String) → ByteArray → Option ImageAttributes

namespace MediaService

/-- Keys are never reused for other content, so caches may keep an object for a
year. -/
def immutableCacheControl : String := "public, max-age=31536000, immutable"

/-- Images up to this size are read completely: 5 MiB. -/
def metadataSizeLimit : Nat := 5 * 1024 * 1024

/-- The trimmed content type, or the fallback for one that is blank or
missing. -/
def effectiveContentType (contentType : Option String) : String :=
  match contentType.map Text.trim with
  | some trimmed => if trimmed.toList.isEmpty then ContentType.fallback else trimmed
  | none => ContentType.fallback

variable {m : Type → Type} [Monad m]

/-- What is handed to the store, and whether the store reads it as a stream. -/
def prepare (extract : String → ByteArray → Option ImageAttributes) (contentType : String)
    (body : List Chunk) : Except String (Payload × UserMetadata) :=
  if ContentType.isImage contentType then
    match Spooled.read metadataSizeLimit ByteArray.empty body with
    | .whole bytes =>
      let metadata := (extract contentType bytes).map ImageAttributes.toUserMetadata
      .ok (.buffered bytes, metadata.getD ∅)
    | .oversized head rest => .ok (.streamed (.data head :: rest), ∅)
    | .unreadable reason => .error reason
  else .ok (.streamed body, ∅)

/-- A put that failed because its stream could not be read is a bad payload,
not a failure of the store.  No put fails with `.io` for another reason, which
is `ObjectStore.Explains.unreadable`. -/
def putError (key : String) : Payload → StorageError → UploadError
  | .streamed _, .io reason => .read reason
  | _, source => .store key source

/-- Store a payload under a key, replacing what is there. -/
def upload (service : MediaService m) (key : String) (contentType : Option String)
    (body : List Chunk) : ExceptT UploadError m UploadedObject := do
  let contentType := effectiveContentType contentType
  match prepare service.extract contentType body with
  | .error reason => throw (.read reason)
  | .ok (payload, userMetadata) =>
    let options : PutOptions :=
      { contentType := contentType, cacheControl := some immutableCacheControl
        userMetadata := userMetadata }
    match ← attempt (service.store.put key payload options) with
    | .error source => throw (putError key payload source)
    | .ok outcome =>
      pure
        { bucket := service.store.bucket, object := key, fileName := Resource.fileNameOf key
          etag := outcome.etag, size := outcome.size, contentType := contentType }

/-- An object with its bytes. -/
def «open» (service : MediaService m) (key : String) : ExceptT StorageError m StoredObject :=
  service.store.get key

/-- The description of an object. -/
def stat (service : MediaService m) (key : String) : ExceptT StorageError m ObjectInfo :=
  service.store.stat key

/-- The delivery URL for a key; whether the object exists is not checked. -/
def deliveryUrl (service : MediaService m) (key : String) (expiry : Duration) :
    ExceptT StorageError m DeliveryUrl :=
  service.resolver.resolve key expiry

/-- The description of an object with its delivery URL.  A URL that cannot be
made is left empty. -/
def describe (service : MediaService m) (key : String) (expiry : Duration) :
    ExceptT StorageError m ObjectMeta := do
  let info ← service.store.stat key
  match ← attempt (service.resolver.resolve key expiry) with
  | .ok delivery => pure (ObjectMeta.ofInfo info delivery.url)
  | .error _ => pure (ObjectMeta.ofInfo info "")

/-- Delete an object that exists.  The store itself would accept an absent key
silently. -/
def delete (service : MediaService m) (key : String) : ExceptT StorageError m Unit := do
  let _ ← service.store.stat key
  service.store.delete key

/-- The objects whose keys start with `lead`, except one at `lead` itself. -/
def list (service : MediaService m) (lead : String) :
    ExceptT StorageError m (List ListedFile) := do
  let summaries ← service.store.list lead
  pure ((summaries.filter fun s => s.key != lead).map ListedFile.ofSummary)

/-- Succeeds when the bucket answers and exists. -/
def ready (service : MediaService m) : ExceptT StorageError m Unit := do
  if ← service.store.bucketExists then pure ()
  else throw (.bucketNotFound service.store.bucket)

end MediaService

end MediaVault
