import MediaVault.Store.Basic

/-!
# Injected failures

A store or signer with faults answers the named operations with an error
before they touch anything.
-/

namespace MediaVault

/-- The operations of a store that can be made to fail. -/
inductive StoreOperation where
  | put
  | get
  | stat
  | list
  | delete
  | headBucket
  | createBucket
deriving Repr, DecidableEq

namespace StoreOperation

/-- The name under which a failure of the operation is reported. -/
def name : StoreOperation → String
  | put => "put"
  | get => "get"
  | stat => "stat"
  | list => "list"
  | delete => "delete"
  | headBucket => "head bucket"
  | createBucket => "create bucket"

end StoreOperation

/-- The reason why an operation fails, for those that do. -/
abbrev Faults := StoreOperation → Option String

namespace ObjectStore

variable {m : Type → Type} [Monad m]

/-- Run `action` unless the operation has a fault. -/
def guarded {α : Type} (faults : Faults) (operation : StoreOperation) (key : String)
    (action : ExceptT StorageError m α) : ExceptT StorageError m α :=
  match faults operation with
  | some reason => throw (.backend operation.name key reason)
  | none => action

/-- The store in which the operations with a fault fail first thing. -/
def withFaults (faults : Faults) (store : ObjectStore m) : ObjectStore m where
  bucket := store.bucket
  bucketExists := guarded faults .headBucket store.bucket store.bucketExists
  createBucket := guarded faults .createBucket store.bucket store.createBucket
  put key payload options := guarded faults .put key (store.put key payload options)
  get key := guarded faults .get key (store.get key)
  stat key := guarded faults .stat key (store.stat key)
  list lead := guarded faults .list lead (store.list lead)
  delete key := guarded faults .delete key (store.delete key)

end ObjectStore

namespace UrlSigner

variable {m : Type → Type} [Monad m]

/-- The signer that fails for the given reason, if there is one. -/
def withFault (fault : Option String) (signer : UrlSigner m) : UrlSigner m where
  presign key expiry :=
    match fault with
    | some reason => throw (.presign key reason)
    | none => signer.presign key expiry

end UrlSigner

end MediaVault
