import MediaVault.Access.Decision
import MediaVault.Media.Upload

/-!
# Errors of the HTTP interface

Every failure becomes a status and a message.  A missing object is 404 with a
fixed wording; a payload that cannot be read is the client's fault; all other
failures of the store are the server's.
-/

namespace MediaVault

/-- A status and a message for the client. -/
structure ApiError where
  status : Nat
  message : String
deriving Repr, DecidableEq

namespace ApiError

/-- The request itself is wrong. -/
def badRequest (message : String) : ApiError := ⟨400, message⟩

/-- Missing or invalid credentials. -/
def unauthorized (message : String) : ApiError := ⟨401, message⟩

/-- Valid credentials without the needed right. -/
def forbidden (message : String) : ApiError := ⟨403, message⟩

/-- There is no such thing. -/
def notFound (message : String) : ApiError := ⟨404, message⟩

/-- The server failed. -/
def internal (message : String) : ApiError := ⟨500, message⟩

/-- How a failure of the store is reported. -/
def ofStorage (error : StorageError) : ApiError :=
  if error.isNotFound then notFound "file not found" else internal error.message

/-- How a failure of the authorizer is reported. -/
def ofAccess : AccessError → ApiError
  | .invalidCredentials => unauthorized AccessError.invalidCredentials.message
  | .unavailable reason => internal (AccessError.unavailable reason).message

/-- How a failed upload is reported. -/
def ofUpload : UploadError → ApiError
  | .read reason => badRequest (UploadError.read reason).message
  | .store key source => internal (UploadError.store key source).message

/-- The JSON form. -/
def toJson (error : ApiError) : Json :=
  .object [("error", .text error.message), ("status", .int error.status)]

end ApiError

end MediaVault
