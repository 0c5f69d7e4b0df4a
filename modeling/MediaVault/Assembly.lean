import MediaVault.Access.Remote
import MediaVault.Api.Gateway
import MediaVault.Config.Settings
import MediaVault.S3.Signer
import MediaVault.Store.SecretSigner

/-!
# Assembling the gateway

The settings decide which store holds the objects, who signs delivery URLs and
who is asked about access.  Nothing is sent while the gateway is put
together.
-/

namespace MediaVault

/-- Why the gateway cannot be put together. -/
inductive StartupError where
  | settings (error : SettingsError)
  | publicUrl (error : OriginError)
  | storage (error : StorageError)
deriving Repr, DecidableEq

namespace StartupError

/-- The causes, outermost first. -/
def chain : StartupError → List String
  | settings error => error.chain
  | publicUrl error => "parsing public base URL" :: error.chain
  | storage error => [error.message]

end StartupError

namespace Settings

/-- The host for which delivery URLs are signed in addition to the endpoint. -/
def publicOrigin (s : Settings) : Except StartupError (Option String) :=
  match s.publicBaseUrl with
  | none => .ok none
  | some raw =>
    match originOf raw with
    | .ok origin => .ok (some origin)
    | .error error => .error (.publicUrl error)

/-- The account at the remote service. -/
def s3 (s : Settings) : S3.Settings :=
  { region := s.region, accessKey := s.accessKey, secretKey := s.secretKey, bucket := s.bucket }

variable {m : Type → Type} [Monad m]

/-- The signer for a host; the memory store signs with a secret of its own. -/
def signerFor (s : Settings) (secret : String) (now : Timestamp) (base : String) : UrlSigner m :=
  match s.backend with
  | .s3 => (S3.Signer.mk s.s3 base).asUrlSigner now
  | .memory => (SecretSigner.create base s.bucket secret).asUrlSigner now

/-- How delivery URLs are made. -/
def resolver (s : Settings) (secret : String) (now : Timestamp) :
    Except StartupError (Resolver m) := do
  let origin ← s.publicOrigin
  pure (.create s.cdnUrl (origin.map (s.signerFor secret now)) (s.signerFor secret now s.endpoint))

/-- Who is asked about access. -/
def authorizer (s : Settings) (post : RemoteAccess.Transport m) : Authorizer m :=
  match s.authzUrl with
  | some base => RemoteAccess.authorizer post base
  | none => Authorizer.denyAll

/-- The gateway over a store. -/
def gateway (s : Settings) (store : ObjectStore m) (secret : String) (now : Timestamp)
    (post : RemoteAccess.Transport m)
    (extract : String → ByteArray → Option ImageAttributes) :
    Except StartupError (Gateway m) := do
  let resolver ← s.resolver secret now
  pure
    { media := { store := store, resolver := resolver, extract := extract }
      authorizer := s.authorizer post
      maxUploadBytes := s.maxUploadBytes }

end Settings

end MediaVault
