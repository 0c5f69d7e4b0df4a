import MediaVault.Object.Info
import MediaVault.Payload
import MediaVault.Store.Error

/-!
# The store interface

An object store offers a handful of operations on one bucket.  It is a record
of actions in an arbitrary monad, so the same service runs over a map in
memory, over a remote service, or step by step beside other clients.
-/

namespace MediaVault

/-- Attributes written together with an object. -/
structure PutOptions where
  contentType : String := ""
  cacheControl : Option String := none
  userMetadata : UserMetadata := ∅
deriving Inhabited

/-- What a store reports about a finished write. -/
structure PutOutcome where
  etag : String
  size : Int
deriving Repr, DecidableEq, Inhabited

/-- An object with its bytes. -/
structure StoredObject where
  info : ObjectInfo
  bytes : ByteArray
deriving Inhabited

/-- Run an action for its result, be that a value or an error. -/
def attempt {m : Type → Type} [Monad m] {ε ε₁ α : Type} (action : ExceptT ε m α) :
    ExceptT ε₁ m (Except ε α) :=
  ExceptT.lift action.run

/-- The operations of a store on its bucket. -/
structure ObjectStore (m : Type → Type) where
  bucket : String
  bucketExists : ExceptT StorageError m Bool
  /-- Creating a bucket that exists succeeds. -/
  createBucket : ExceptT StorageError m Unit
  /-- Write an object, replacing what is stored under the key. -/
  put : (key : String) → Payload → PutOptions → ExceptT StorageError m PutOutcome
  get : (key : String) → ExceptT StorageError m StoredObject
  stat : (key : String) → ExceptT StorageError m ObjectInfo
  /-- Every object whose key starts with the given text, in key order. -/
  list : (lead : String) → ExceptT StorageError m (List ObjectSummary)
  /-- Deleting an absent object succeeds. -/
  delete : (key : String) → ExceptT StorageError m Unit

/-- Issues time-limited URLs for reading objects. -/
structure UrlSigner (m : Type → Type) where
  presign : (key : String) → Duration → ExceptT StorageError m String

namespace ObjectStore

/-- Make sure that the bucket exists. -/
def ensureBucket {m : Type → Type} [Monad m] (store : ObjectStore m) :
    ExceptT StorageError m Unit := do
  if ← store.bucketExists then pure () else store.createBucket

end ObjectStore

/-- Remove the quotes around an entity tag. -/
def unquoteEtag (raw : String) : String :=
  String.ofList (Text.stripBoth (· == '"') raw.toList)

end MediaVault
