import MediaVault.Store.Basic

/-!
# The remote object service

A store in the cloud is reached by calls.  `Call` lists them with everything
that is sent, so a list of calls is also a trace of what a client did, and
`Call.Reply` is what each of them brings back.
-/

namespace MediaVault.S3

/-- Attributes sent with a new object. -/
structure SentAttributes where
  contentType : String
  cacheControl : Option String
  userMetadata : List (String × String)
deriving Repr, DecidableEq, Inhabited

/-- A part of an upload and the tag that the service gave it. -/
structure CompletedPart where
  number : Nat
  etag : Option String
deriving Repr, DecidableEq, Inhabited

/-- A call to the service; the bucket is fixed. -/
inductive Call where
  | headBucket
  /-- The location is left out in the default region. -/
  | createBucket (location : Option String)
  | putObject (key : String) (attributes : SentAttributes) (body : ByteArray)
  | createUpload (key : String) (attributes : SentAttributes)
  | uploadPart (key upload : String) (number : Nat) (body : ByteArray)
  | completeUpload (key upload : String) (parts : List CompletedPart)
  | abortUpload (key upload : String)
  | getObject (key : String)
  | headObject (key : String)
  | deleteObject (key : String)
  | listObjects (lead : String) (token : Option String)

/-- What the service tells about an object. -/
structure ObjectReply where
  contentType : Option String := none
  length : Option Int := none
  etag : Option String := none
  lastModified : Option Timestamp := none
  cacheControl : Option String := none
  userMetadata : List (String × String) := []
deriving Repr, DecidableEq, Inhabited

/-- One entry of a listing; services may leave out any part. -/
structure ListEntry where
  key : Option String := none
  size : Option Int := none
  etag : Option String := none
  lastModified : Option Timestamp := none
deriving Repr, DecidableEq, Inhabited

/-- One page of a listing. -/
structure ListPage where
  truncated : Bool := false
  nextToken : Option String := none
  entries : List ListEntry := []
deriving Repr, DecidableEq, Inhabited

namespace Call

/-- What a successful call brings back: raw tags are still quoted. -/
abbrev Reply : Call → Type
  | headBucket | createBucket _ | abortUpload _ _ | deleteObject _ => Unit
  | putObject _ _ _ | uploadPart _ _ _ _ | completeUpload _ _ _ => Option String
  | createUpload _ _ => Option String
  | getObject _ => ObjectReply × ByteArray
  | headObject _ => ObjectReply
  | listObjects _ _ => ListPage

end Call

/-- Why a call failed.  The text is for messages only. -/
inductive CallError where
  /-- The service answered with a failure. -/
  | refused (status : Nat) (code : Option String) (text : String)
  /-- No answer of the service arrived. -/
  | undeliverable (text : String)
deriving Repr, DecidableEq

namespace CallError

/-- The wording of the failure. -/
def text : CallError → String
  | refused _ _ text => text
  | undeliverable text => text

/-- The service answered with this status. -/
def hasStatus (status : Nat) : CallError → Bool
  | refused s _ _ => s == status
  | undeliverable _ => false

/-- The service answered with this code. -/
def hasCode (code : String) : CallError → Bool
  | refused _ c _ => c == some code
  | undeliverable _ => false

/-- What a call asks about does not exist: the service says so by this code or by its
status. -/
def isMissing (code : String) (error : CallError) : Bool :=
  error.hasCode code || error.hasStatus 404

/-- Someone else has created the bucket already. -/
def isBucketTaken (error : CallError) : Bool :=
  error.hasCode "BucketAlreadyOwnedByYou" || error.hasCode "BucketAlreadyExists"

end CallError

/-- A connection to one bucket of the service. -/
structure Client (m : Type → Type) where
  region : String
  bucket : String
  send : (call : Call) → ExceptT CallError m call.Reply

end MediaVault.S3
