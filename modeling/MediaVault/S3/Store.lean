import MediaVault.ContentType
import MediaVault.S3.Service

/-!
# A store on a remote service

Payloads of unknown length are sent in parts, so that at most one part is held
at a time; a payload that fits into less than one part is put at once.  An
upload that fails after it was opened is aborted, and the first failure is
reported even when aborting fails as well.
-/

namespace MediaVault.S3

/-- Size from which a part is sent: 8 MiB. -/
def partSize : Nat := 8 * 1024 * 1024

namespace Store

variable {m : Type → Type} [Monad m]

/-- Send a call; its failure is reported for an operation on a key. -/
def request (client : Client m) (operation key : String) (call : Call) :
    ExceptT StorageError m call.Reply :=
  ExceptT.mk (return (← (client.send call).run).mapError fun e => .backend operation key e.text)

/-- The attributes that go out with an object. -/
def sent (options : PutOptions) : SentAttributes :=
  { contentType := options.contentType, cacheControl := options.cacheControl
    userMetadata := options.userMetadata.toList }

/-- A raw tag without its quotes; none reads as the empty one. -/
def tagOf (raw : Option String) : String :=
  (raw.map unquoteEtag).getD ""

/-- Put a payload at once. -/
def putWhole (client : Client m) (key : String) (bytes : ByteArray) (options : PutOptions) :
    ExceptT StorageError m PutOutcome := do
  let etag ← request client "put" key (.putObject key (sent options) bytes)
  pure { etag := tagOf etag, size := bytes.size }

/-- An upload in parts: the bytes that wait, the parts sent (last first) and
the bytes sent. -/
structure Progress where
  waiting : ByteArray
  parts : List CompletedPart := []
  size : Nat := 0

namespace Progress

/-- Send what waits as the next part. -/
def flush (client : Client m) (key upload : String) (p : Progress) :
    ExceptT StorageError m Progress := do
  let number := p.parts.length + 1
  let etag ← request client "upload part" key (.uploadPart key upload number p.waiting)
  pure { waiting := ByteArray.empty, parts := ⟨number, etag⟩ :: p.parts
         size := p.size + p.waiting.size }

/-- Send what waits when it makes up a part. -/
def flushFull (client : Client m) (key upload : String) (p : Progress) :
    ExceptT StorageError m Progress :=
  if partSize ≤ p.waiting.size then p.flush client key upload else pure p

/-- Send what waits unless nothing does. -/
def flushLast (client : Client m) (key upload : String) (p : Progress) :
    ExceptT StorageError m Progress :=
  if p.waiting.isEmpty then pure p else p.flush client key upload

end Progress

/-- Send the rest of a stream in parts. -/
def sendParts (client : Client m) (key upload : String) :
    List Chunk → Progress → ExceptT StorageError m Progress
  | [], p => do
    let p ← p.flushFull client key upload
    p.flushLast client key upload
  | .failed reason :: _, p => do
    let _ ← p.flushFull client key upload
    throw (.io reason)
  | .data bytes :: rest, p => do
    let p ← p.flushFull client key upload
    sendParts client key upload rest { p with waiting := p.waiting ++ bytes }

/-- Send a stream in parts and complete the upload. -/
def sendAll (client : Client m) (key upload : String) (first : ByteArray) (rest : List Chunk) :
    ExceptT StorageError m PutOutcome := do
  let p ← sendParts client key upload rest { waiting := first }
  let etag ← request client "complete multipart" key
    (.completeUpload key upload p.parts.reverse)
  pure { etag := tagOf etag, size := p.size }

/-- Open an upload and send a stream in parts; on a failure the upload is
aborted. -/
def putInParts (client : Client m) (key : String) (first : ByteArray) (rest : List Chunk)
    (options : PutOptions) : ExceptT StorageError m PutOutcome := do
  match ← request client "create multipart" key (.createUpload key (sent options)) with
  | none => throw (.backend "create multipart" key "missing upload id")
  | some upload =>
    match ← attempt (sendAll client key upload first rest) with
    | .ok outcome => pure outcome
    | .error error => do
      let _ : Except CallError Unit ← attempt (client.send (.abortUpload key upload))
      throw error

/-- Read until a part is full, then send the stream in parts; a stream that
ends before is put at once. -/
def putStream (client : Client m) (key : String) (options : PutOptions) :
    List Chunk → ByteArray → ExceptT StorageError m PutOutcome
  | [], held =>
    if partSize ≤ held.size then putInParts client key held [] options
    else putWhole client key held options
  | chunk :: rest, held =>
    if partSize ≤ held.size then putInParts client key held (chunk :: rest) options
    else
      match chunk with
      | .failed reason => throw (.io reason)
      | .data bytes => putStream client key options rest (held ++ bytes)

/-- Write a payload. -/
def put (client : Client m) (key : String) (payload : Payload) (options : PutOptions) :
    ExceptT StorageError m PutOutcome :=
  match payload with
  | .buffered bytes => putWhole client key bytes options
  | .streamed chunks => putStream client key options chunks ByteArray.empty

/-- The description that a reply gives of an object. -/
def infoOf (key : String) (reply : ObjectReply) : ObjectInfo :=
  { key := key
    contentType := reply.contentType.getD ContentType.fallback
    size := reply.length.getD 0
    etag := tagOf reply.etag
    lastModified := reply.lastModified.getD Timestamp.epoch
    cacheControl := reply.cacheControl
    userMetadata := Std.TreeMap.ofList
      (reply.userMetadata.map fun entry => (Text.lower entry.1, entry.2)) compare }

/-- How a failed look-up of an object is reported; `missing` is the code for an absent
one. -/
def lookupError (operation missing key : String) (error : CallError) : StorageError :=
  if error.isMissing missing then .objectNotFound key else .backend operation key error.text

/-- Look up an object. -/
def get (client : Client m) (key : String) : ExceptT StorageError m StoredObject :=
  ExceptT.mk do
    match ← (client.send (.getObject key)).run with
    | .ok reply => pure (.ok { info := infoOf key reply.1, bytes := reply.2 })
    | .error error => pure (.error (lookupError "get" "NoSuchKey" key error))

/-- Look up the description of an object.  The answer to this call has no body, and the
code for an absent object is another. -/
def stat (client : Client m) (key : String) : ExceptT StorageError m ObjectInfo :=
  ExceptT.mk do
    match ← (client.send (.headObject key)).run with
    | .ok reply => pure (.ok (infoOf key reply))
    | .error error => pure (.error (lookupError "stat" "NotFound" key error))

/-- The summary of an entry, when it has a key. -/
def summaryOf? (entry : ListEntry) : Option ObjectSummary :=
  entry.key.map fun key =>
    { key := key, size := entry.size.getD 0, etag := tagOf entry.etag
      lastModified := entry.lastModified.getD Timestamp.epoch }

/-- Collect the pages of a listing.  A page that is cut short and has a token
is followed by the next one; at most `pages` are read. -/
def listPages (client : Client m) (lead : String) :
    (pages : Nat) → (token : Option String) → ExceptT StorageError m (List ObjectSummary)
  | 0, _ => throw (.backend "list" lead "the listing does not end")
  | pages + 1, token => do
    let page : ListPage ← request client "list" lead (.listObjects lead token)
    let summaries := page.entries.filterMap summaryOf?
    match page.truncated, page.nextToken with
    | true, some next => do
      let more ← listPages client lead pages (some next)
      pure (summaries ++ more)
    | _, _ => pure summaries

/-- The bucket exists; a plain "not found" says that it does not. -/
def bucketExists (client : Client m) : ExceptT StorageError m Bool :=
  ExceptT.mk do
    match ← (client.send .headBucket).run with
    | .ok _ => pure (.ok true)
    | .error error =>
      if error.isMissing "NotFound" then pure (.ok false)
      else pure (.error (.backend "head bucket" client.bucket error.text))

/-- The location to send for a region; the default one has none. -/
def locationOf (region : String) : Option String :=
  if region = "us-east-1" then none else some region

/-- Create the bucket.  When another instance was faster, it is there all the
same. -/
def createBucket (client : Client m) : ExceptT StorageError m Unit :=
  ExceptT.mk do
    match ← (client.send (.createBucket (locationOf client.region))).run with
    | .ok _ => pure (.ok ())
    | .error error =>
      if error.isBucketTaken then pure (.ok ())
      else pure (.error (.backend "create bucket" client.bucket error.text))

end Store

/-- The store behind a client; listings have at most `maxPages` pages. -/
def store {m : Type → Type} [Monad m] (client : Client m) (maxPages : Nat) : ObjectStore m where
  bucket := client.bucket
  bucketExists := Store.bucketExists client
  createBucket := Store.createBucket client
  put := Store.put client
  get := Store.get client
  stat := Store.stat client
  list lead := Store.listPages client lead maxPages none
  delete key := Store.request client "delete" key (.deleteObject key)

end MediaVault.S3
