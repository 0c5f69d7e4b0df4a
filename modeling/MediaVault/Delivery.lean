import MediaVault.Store.Basic

/-!
# Delivery URLs

Clients fetch payloads directly: from a CDN when one serves the bucket, else
through a signed URL.  A signature binds the host it was made for, so a second
signer stands by for the host under which the public reaches the store.
-/

namespace MediaVault

/-- Where a delivery URL came from. -/
inductive UrlSource where
  | cdn
  | publicSigner
  | signer
deriving Repr, DecidableEq

namespace UrlSource

/-- The name used in JSON. -/
def name : UrlSource → String
  | cdn => "cdn"
  | publicSigner => "public_signer"
  | signer => "signer"

end UrlSource

/-- A URL, its source and the time until it expires. -/
structure DeliveryUrl where
  url : String
  source : UrlSource
  expiresIn : Duration
deriving Repr, DecidableEq

namespace Expiry

/-- Used when the caller does not ask for an expiry: 10 minutes. -/
def standard : Duration := Duration.ofSeconds 600

/-- The longest expiry of a signed URL: 7 days. -/
def longest : Duration := Duration.ofSeconds 604800

/-- No time at all stands for the standard expiry; more than the longest one is
capped. -/
def clamp (expiry : Duration) : Duration :=
  if expiry.isZero then standard else expiry.shorter longest

/-- The expiry, in seconds, that a query asks for.  What is missing, malformed
or not positive falls back to the standard one. -/
def parse (raw : Option String) : Duration :=
  match raw with
  | none => standard
  | some text =>
    match Text.readInteger (Text.maxOfBits 63) (Text.trimChars text.toList) with
    | .ok seconds => if 0 < seconds then clamp (Duration.ofSeconds seconds.toNat) else standard
    | .error _ => standard

end Expiry

/-- How delivery URLs are made. -/
structure Resolver (m : Type → Type) where
  /-- The base URL of the CDN, without slashes at its end and never empty. -/
  cdn : Option String
  publicSigner : Option (UrlSigner m)
  signer : UrlSigner m

namespace Resolver

/-- A CDN base that is usable: trimmed, without slashes at its end and not
empty. -/
def usableCdn (cdn : Option String) : Option String :=
  (cdn.map fun base => Text.trimSlashes (Text.trim base)).filter fun base => !base.toList.isEmpty

variable {m : Type → Type} [Monad m]

/-- The resolver for a CDN setting and the signers at hand. -/
def create (cdn : Option String) (publicSigner : Option (UrlSigner m)) (signer : UrlSigner m) :
    Resolver m :=
  { cdn := usableCdn cdn, publicSigner := publicSigner, signer := signer }

/-- The URL of the internal signer. -/
def resolveInternally (resolver : Resolver m) (key : String) (expiresIn : Duration) :
    ExceptT StorageError m DeliveryUrl := do
  let url ← resolver.signer.presign key expiresIn
  pure { url := url, source := .signer, expiresIn := expiresIn }

/-- The CDN first, then the public signer, then the internal one. -/
def resolve (resolver : Resolver m) (key : String) (expiry : Duration) :
    ExceptT StorageError m DeliveryUrl :=
  let expiresIn := Expiry.clamp expiry
  match resolver.cdn, resolver.publicSigner with
  | some base, _ =>
    pure { url := base ++ "/" ++ key, source := .cdn, expiresIn := expiresIn }
  | none, none => resolver.resolveInternally key expiresIn
  | none, some publicSigner => ExceptT.mk do
    match ← (publicSigner.presign key expiresIn).run with
    | .ok url => pure (.ok { url := url, source := .publicSigner, expiresIn := expiresIn })
    | .error _ => (resolver.resolveInternally key expiresIn).run

end Resolver

end MediaVault
