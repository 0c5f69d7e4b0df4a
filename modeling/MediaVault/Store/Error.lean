import MediaVault.Object.Key

/-!
# What can go wrong in a store

Each constructor is a cause; `StorageError.message` words it.  Only a missing
object counts as "not found": a missing bucket is a failure of the service.
-/

namespace MediaVault

/-- Why a store operation failed. -/
inductive StorageError where
  | bucketNotFound (bucket : String)
  | objectNotFound (key : String)
  /-- The service behind the store refused or could not be reached. -/
  | backend (operation key reason : String)
  /-- No delivery URL could be signed. -/
  | presign (key reason : String)
  /-- The payload could not be read. -/
  | io (reason : String)
deriving Repr, DecidableEq

namespace StorageError

/-- The wording of a storage error. -/
def message : StorageError → String
  | bucketNotFound bucket => "bucket `" ++ bucket ++ "` not found"
  | objectNotFound key => "object `" ++ key ++ "` not found"
  | backend operation key reason => operation ++ " `" ++ key ++ "` failed: " ++ reason
  | presign key reason => "presigning `" ++ key ++ "` failed: " ++ reason
  | io reason => reason

/-- The object, not its bucket, is missing. -/
def isNotFound : StorageError → Bool
  | objectNotFound _ => true
  | _ => false

end StorageError

end MediaVault
