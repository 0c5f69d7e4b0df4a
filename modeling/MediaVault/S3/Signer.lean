import MediaVault.Digest.Sha256
import MediaVault.Http.Percent
import MediaVault.Store.Basic

/-!
# Signed URLs for the remote service

A URL for reading an object carries its own credentials: who signed it, when,
for how long, and a signature over all of that, the host and the path.  The
request is never sent from here; signing needs no connection.
-/

namespace MediaVault.S3

/-- The account, the region and the bucket. -/
structure Settings where
  region : String
  accessKey : String
  secretKey : String
  bucket : String
deriving Repr, DecidableEq, Inhabited

/-- A signer bound to one endpoint. -/
structure Signer where
  settings : Settings
  endpoint : String
deriving Repr, DecidableEq, Inhabited

namespace Signer

/-- The endpoint up to the end of its host and port, and the path after
that. -/
def splitEndpoint (endpoint : String) : String × String :=
  let chars := endpoint.toList
  let scheme := chars.takeWhile (· != ':')
  match Text.dropLead? "://".toList (chars.drop scheme.length) with
  | none => (endpoint, "")
  | some rest =>
    let host := rest.takeWhile (· != '/')
    (String.ofList (scheme ++ "://".toList ++ host), String.ofList (rest.drop host.length))

/-- The host with its port. -/
def host (signer : Signer) : String :=
  let origin := (splitEndpoint signer.endpoint).1
  String.ofList ((origin.toList.dropWhile (· != '/')).drop 2)

/-- An object's path below the endpoint. -/
def objectPath (signer : Signer) (key : String) : String :=
  let base := (splitEndpoint signer.endpoint).2
  let encoded := Percent.encode (fun c => Percent.isUnreserved c || c == '/') key
  (if base = "" then "/" else base) ++ signer.settings.bucket ++ "/" ++ encoded

/-- Year, month and day without separators. -/
def dayText (now : Timestamp) : String :=
  let day := CivilDay.ofDays now.days
  CivilDay.yearText day.year ++ Text.padLeft 2 day.month ++ Text.padLeft 2 day.day

/-- Day and time without separators. -/
def momentText (now : Timestamp) : String :=
  let s := now.secondOfDay
  dayText now ++ "T" ++ Text.padLeft 2 (s / 3600) ++ Text.padLeft 2 (s / 60 % 60) ++
    Text.padLeft 2 (s % 60) ++ "Z"

/-- What a signature is valid for: the day, the region and the service. -/
def scope (signer : Signer) (now : Timestamp) : String :=
  dayText now ++ "/" ++ signer.settings.region ++ "/s3/aws4_request"

/-- The query parameters that are signed besides the operation. -/
def parameters (signer : Signer) (now : Timestamp) (expiry : Duration) :
    List (String × String) :=
  [("X-Amz-Algorithm", "AWS4-HMAC-SHA256"),
    ("X-Amz-Credential", signer.settings.accessKey ++ "/" ++ signer.scope now),
    ("X-Amz-Date", momentText now), ("X-Amz-Expires", toString expiry.seconds),
    ("X-Amz-SignedHeaders", "host")]

/-- The parameters as a query. -/
def queryText (parameters : List (String × String)) : String :=
  "&".intercalate (parameters.map fun p =>
    p.1 ++ "=" ++ Percent.encode Percent.isUnreserved p.2)

/-- The name of the operation, which comes first in the URL. -/
def operation : String × String := ("x-id", "GetObject")

/-- The request in its canonical form. -/
def canonicalRequest (signer : Signer) (now : Timestamp) (key : String) (expiry : Duration) :
    String :=
  "\n".intercalate
    ["GET", signer.objectPath key, queryText (signer.parameters now expiry ++ [operation]),
      "host:" ++ signer.host, "", "host", "UNSIGNED-PAYLOAD"]

/-- The text that is signed. -/
def stringToSign (signer : Signer) (now : Timestamp) (key : String) (expiry : Duration) :
    String :=
  "\n".intercalate
    ["AWS4-HMAC-SHA256", momentText now, signer.scope now,
      Text.hex (Digest.sha256 (signer.canonicalRequest now key expiry).toUTF8)]

/-- The key for a day, a region and the service. -/
def signingKey (signer : Signer) (now : Timestamp) : ByteArray :=
  [dayText now, signer.settings.region, "s3", "aws4_request"].foldl
    (fun key part => Digest.hmacSha256 key part.toUTF8)
    ("AWS4" ++ signer.settings.secretKey).toUTF8

/-- The signature of a URL. -/
def signature (signer : Signer) (now : Timestamp) (key : String) (expiry : Duration) : String :=
  Text.hex (Digest.hmacSha256 (signer.signingKey now)
    (signer.stringToSign now key expiry).toUTF8)

/-- The signed URL for a key. -/
def url (signer : Signer) (now : Timestamp) (key : String) (expiry : Duration) : String :=
  (splitEndpoint signer.endpoint).1 ++ signer.objectPath key ++ "?" ++
    queryText (operation :: signer.parameters now expiry) ++ "&X-Amz-Signature=" ++
    signer.signature now key expiry

/-- The longest time for which a URL can be signed: one week. -/
def longest : Duration := Duration.ofSeconds 604800

/-- Sign a URL for reading an object. -/
def presign (signer : Signer) (now : Timestamp) (key : String) (expiry : Duration) :
    Except StorageError String :=
  if expiry.nanoseconds ≤ longest.nanoseconds then .ok (signer.url now key expiry)
  else .error (.presign key "`expires_in` must be no longer than one week")

/-- The signer as seen by the delivery of URLs. -/
def asUrlSigner {m : Type → Type} [Monad m] (signer : Signer) (now : Timestamp) :
    UrlSigner m where
  presign key expiry := ExceptT.mk (pure (signer.presign now key expiry))

end Signer

end MediaVault.S3
