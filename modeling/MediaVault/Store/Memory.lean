import MediaVault.Digest.Md5
import MediaVault.Store.Basic

/-!
# The store in memory

The contents are a flag for the bucket and a sorted map of objects.  The store
reaches them only through the atomic accesses of a `Shelf`, so its operations
can run in sequence over a state or interleave with those of other clients.
-/

namespace MediaVault

/-- What the memory store holds. -/
structure Contents where
  created : Bool := false
  objects : Std.TreeMap String StoredObject := ∅
deriving Inhabited

/-- The atomic accesses to the contents. -/
structure Shelf (m : Type → Type) where
  created : m Bool
  markCreated : m Unit
  insert : String → StoredObject → m Unit
  lookup? : String → m (Option StoredObject)
  remove : String → m Unit
  /-- The objects whose keys start with the given text, in key order. -/
  scan : String → m (List StoredObject)

namespace Contents

/-- The objects whose keys start with `lead`.  They are neighbours in key order
and begin at the first key that is not below `lead`. -/
def scan (contents : Contents) (lead : String) : List StoredObject :=
  ((contents.objects.toList.dropWhile fun entry => decide (entry.1 < lead)).takeWhile
    fun entry => Text.startsWith lead entry.1).map (·.2)

/-- Accesses to contents that are carried along as a state. -/
def shelf : Shelf (StateM Contents) where
  created := return (← get).created
  markCreated := modify fun c => { c with created := true }
  insert key object := modify fun c => { c with objects := c.objects.insert key object }
  lookup? key := return (← get).objects[key]?
  remove key := modify fun c => { c with objects := c.objects.erase key }
  scan lead := return (← get).scan lead

end Contents

namespace MemoryStore

variable {m : Type → Type} [Monad m]

/-- The object that a write of `bytes` leaves behind. -/
def objectOf (key : String) (bytes : ByteArray) (options : PutOptions) (now : Timestamp) :
    StoredObject :=
  { bytes := bytes
    info :=
      { key := key
        contentType := options.contentType
        size := bytes.size
        etag := Digest.md5Hex bytes
        lastModified := now
        cacheControl := options.cacheControl
        userMetadata := options.userMetadata.lowerNames } }

/-- Fails unless the bucket was created. -/
def requireBucket (bucket : String) (shelf : Shelf m) : ExceptT StorageError m Unit := do
  if ← shelf.created then pure () else throw (.bucketNotFound bucket)

/-- The object under `key`. -/
def find (shelf : Shelf m) (key : String) : ExceptT StorageError m StoredObject := do
  match ← shelf.lookup? key with
  | some object => pure object
  | none => throw (.objectNotFound key)

/-- Read the payload, then write the object in one access. -/
def put (shelf : Shelf m) (now : Timestamp) (key : String) (payload : Payload)
    (options : PutOptions) : ExceptT StorageError m PutOutcome := do
  match payload.collect with
  | .error reason => throw (.io reason)
  | .ok bytes =>
    let object := objectOf key bytes options now
    shelf.insert key object
    pure { etag := object.info.etag, size := object.info.size }

/-- The store over the accesses of `shelf`; objects written are dated `now`. -/
def onShelf (bucket : String) (now : Timestamp) (shelf : Shelf m) : ObjectStore m where
  bucket := bucket
  bucketExists := shelf.created
  createBucket := shelf.markCreated
  put key payload options := do
    requireBucket bucket shelf
    put shelf now key payload options
  get key := do
    requireBucket bucket shelf
    find shelf key
  stat key := do
    requireBucket bucket shelf
    return (← find shelf key).info
  list lead := do
    requireBucket bucket shelf
    return (← shelf.scan lead).map (·.info.summary)
  delete key := do
    requireBucket bucket shelf
    shelf.remove key

/-- The store over contents that are carried along as a state. -/
def sequential (bucket : String) (now : Timestamp) : ObjectStore (StateM Contents) :=
  onShelf bucket now Contents.shelf

end MemoryStore

end MediaVault
