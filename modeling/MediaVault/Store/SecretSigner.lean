import MediaVault.Digest.Md5
import MediaVault.Store.Basic

/-!
# URLs signed with a shared secret

The memory store signs its own delivery URLs.  The signature is an MD5 digest
over the secret, the host, the bucket, the key and the expiry, each ended by a
newline.  A URL reads
`{base}/{bucket}/{key}?X-Expires={milliseconds}&X-Signature={signature}`.
-/

namespace MediaVault

/-- A signer bound to one host and one bucket. -/
structure SecretSigner where
  /-- The base URL, without slashes at its end. -/
  base : String
  bucket : String
  secret : String
deriving Repr, DecidableEq, Inhabited

namespace SecretSigner

/-- The largest number of milliseconds that an expiry can hold. -/
def maxMilliseconds : Nat := Text.maxOfBits 63

/-- The signer for a base URL that may end in slashes. -/
def create (base bucket secret : String) : SecretSigner :=
  { base := Text.trimSlashes base, bucket := bucket, secret := secret }

/-- A signer with the same secret for another host. -/
def forBase (signer : SecretSigner) (base : String) : SecretSigner :=
  { signer with base := Text.trimSlashes base }

/-- The text that is digested: one line for each part. -/
def digestInput (signer : SecretSigner) (host key : String) (expiresAt : Int) : String :=
  String.join ([signer.secret, host, signer.bucket, key, toString expiresAt].map (· ++ "\n"))

/-- The signature for a key on a host. -/
def signature (signer : SecretSigner) (host key : String) (expiresAt : Int) : String :=
  Text.base64Url (Digest.md5 (signer.digestInput host key expiresAt).toUTF8)

/-- What every URL of the signer starts with. -/
def lead (signer : SecretSigner) : String :=
  signer.base ++ "/" ++ signer.bucket ++ "/"

/-- The URL for a key that expires at the given millisecond. -/
def urlAt (signer : SecretSigner) (key : String) (expiresAt : Int) : String :=
  signer.lead ++ key ++ "?X-Expires=" ++ toString expiresAt ++ "&X-Signature=" ++
    signer.signature signer.base key expiresAt

/-- Sign a URL at the moment `now`, in milliseconds. -/
def presign (signer : SecretSigner) (now : Int) (key : String) (expiry : Duration) :
    Except StorageError String :=
  if expiry.milliseconds ≤ maxMilliseconds then .ok (signer.urlAt key (now + expiry.milliseconds))
  else .error (.presign key "expiry out of range")

/-- The two values that a signed URL carries in its query. -/
structure Stamp where
  expiresAt : Option Int := none
  signature : Option (List Char) := none
deriving Repr, DecidableEq

/-- An expiry in milliseconds. -/
def readExpiry (s : List Char) : Option Int :=
  (Text.readInteger maxMilliseconds s).toOption

/-- Take over what one `name=value` pair says. -/
def Stamp.add (stamp : Stamp) (pair : List Char) : Stamp :=
  match Text.cutAt '=' pair with
  | none => stamp
  | some (name, value) =>
    if name = "X-Expires".toList then { stamp with expiresAt := readExpiry value }
    else if name = "X-Signature".toList then { stamp with signature := some value }
    else stamp

/-- The last value of each name counts. -/
def Stamp.ofQuery (query : List Char) : Stamp :=
  (query.splitOn '&').foldl Stamp.add {}

/-- The key and the stamp that a URL under the signer's lead carries. -/
def read? (signer : SecretSigner) (url : String) : Option (List Char × Stamp) := do
  let rest ← Text.dropLead? signer.lead.toList url.toList
  let (key, query) ← Text.cutAt '?' rest
  pure (key, Stamp.ofQuery query)

/-- The URL was issued by this signer for its host and has not expired at the
moment `now`, in milliseconds. -/
def verify (signer : SecretSigner) (now : Int) (url : String) : Bool :=
  match signer.read? url with
  | some (key, { expiresAt := some expiresAt, signature := some signature }) =>
    String.ofList signature == signer.signature signer.base (String.ofList key) expiresAt &&
      decide (now < expiresAt)
  | _ => false

/-- The signer as seen by the delivery of URLs. -/
def asUrlSigner {m : Type → Type} [Monad m] (signer : SecretSigner) (now : Timestamp) :
    UrlSigner m where
  presign key expiry := ExceptT.mk (pure (signer.presign now.milliseconds key expiry))

end SecretSigner

end MediaVault
