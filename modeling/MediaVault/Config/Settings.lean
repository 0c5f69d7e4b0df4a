import MediaVault.Config.Arguments
import MediaVault.Text.Blank
import MediaVault.Text.Quoted
import MediaVault.Time.Duration

/-!
# Settings

Every setting comes from the command line, else from its environment variable,
else from a default.  A blank variable counts as unset.  A variable that the
command line overrides is not even read, however malformed it is.
-/

namespace MediaVault

/-- The complete settings. -/
structure Settings where
  host : String := "0.0.0.0"
  port : Nat := 8081
  backend : Backend := .s3
  bucket : String := "the-monkeys-media"
  endpoint : String := "http://localhost:9000"
  region : String := "us-east-1"
  accessKey : String := "minioadmin"
  secretKey : String := "minioadmin"
  /-- The base URL of a CDN that serves the bucket. -/
  cdnUrl : Option String := none
  /-- Where the public reaches the store, if not at the endpoint. -/
  publicBaseUrl : Option String := none
  authzUrl : Option String := none
  maxUploadBytes : Nat := 268435456
  requestTimeoutSecs : Nat := 60
deriving Repr, DecidableEq, Inhabited

/-- Why there are no settings. -/
inductive SettingsError where
  | malformed (name value reason : String)
  | timeoutNotPositive
deriving Repr, DecidableEq

/-- The environment: the value of each variable that is set. -/
abbrev Environment := String → Option String

namespace Environment

/-- The name of the variable for a setting. -/
def nameOf (suffix : String) : String := "MEDIA_GATEWAY_" ++ suffix

/-- The value of a setting's variable, unless it is blank. -/
def setting? (environment : Environment) (suffix : String) : Option String :=
  (environment (nameOf suffix)).bind Text.nonBlank

/-- Read a setting's variable, trimmed. -/
def read {α : Type} (environment : Environment) (suffix : String)
    (reader : String → Except String α) : Except SettingsError (Option α) :=
  match environment.setting? suffix with
  | none => .ok none
  | some value =>
    match reader (Text.trim value) with
    | .ok v => .ok (some v)
    | .error reason => .error (.malformed (nameOf suffix) value reason)

end Environment

namespace SettingsError

/-- The causes, outermost first. -/
def chain : SettingsError → List String
  | malformed name value reason => ["parsing " ++ name ++ " value `" ++ value ++ "`", reason]
  | timeoutNotPositive =>
    [Environment.nameOf "REQUEST_TIMEOUT_SECS" ++ " must be positive"]

end SettingsError

namespace Settings

/-- A numeral up to `most`. -/
def number (most : Nat) (value : String) : Except String Nat :=
  (Text.readNatural most value.toList).mapError (·.message)

/-- A backend in any letter case. -/
def backendName (value : String) : Except String Backend :=
  let name := Text.lower (Text.trim value)
  match Backend.ofArgument? name with
  | some b => .ok b
  | none => .error ("unknown backend `" ++ name ++ "` (expected `s3` or `memory`)")

/-- The value on the command line, else what the environment holds, else the
default. -/
def pick {α : Type} (argument : Option α) (fromEnvironment : Except SettingsError (Option α))
    (fallback : α) : Except SettingsError α :=
  match argument with
  | some value => .ok value
  | none => fromEnvironment.map (·.getD fallback)

/-- Settings from the command line and the environment. -/
def merge (a : Arguments) (environment : Environment) : Except SettingsError Settings := do
  let standard : Settings := {}
  let var := environment.setting?
  let port ← pick a.port (environment.read "PORT" (number Arguments.maxPort)) standard.port
  let backend ← pick a.backend (environment.read "BACKEND" backendName) standard.backend
  let maxUploadBytes ← pick a.maxUploadBytes
    (environment.read "MAX_UPLOAD_BYTES" (number (Text.maxOfBits 64))) standard.maxUploadBytes
  let requestTimeoutSecs ← pick a.requestTimeoutSecs
    (environment.read "REQUEST_TIMEOUT_SECS" (number (Text.maxOfBits 64)))
    standard.requestTimeoutSecs
  if requestTimeoutSecs = 0 then throw .timeoutNotPositive
  pure
    { host := (a.host.or (var "HOST")).getD standard.host
      port := port
      backend := backend
      bucket := (a.bucket.or (var "BUCKET")).getD standard.bucket
      endpoint := (a.endpoint.or (var "S3_ENDPOINT")).getD standard.endpoint
      region := (a.region.or (var "S3_REGION")).getD standard.region
      accessKey := (a.accessKey.or (var "S3_ACCESS_KEY")).getD standard.accessKey
      secretKey := (a.secretKey.or (var "S3_SECRET_KEY")).getD standard.secretKey
      cdnUrl := (a.cdnUrl.bind Text.nonBlank).or (var "CDN_URL")
      publicBaseUrl := (a.publicBaseUrl.bind Text.nonBlank).or (var "PUBLIC_BASE_URL")
      authzUrl := (a.authzUrl.bind Text.nonBlank).or (var "AUTHZ_URL")
      maxUploadBytes := maxUploadBytes
      requestTimeoutSecs := requestTimeoutSecs }

/-- Host and port to listen on. -/
def address (s : Settings) : String :=
  s.host ++ ":" ++ toString s.port

/-- The time that a request may take. -/
def requestTimeout (s : Settings) : Duration :=
  Duration.ofSeconds s.requestTimeoutSecs

/-- An optional text in debug output. -/
def showOptional : Option String → String
  | none => "None"
  | some s => "Some(" ++ Text.quoteForDisplay s ++ ")"

/-- The settings for a log; the secret is left out. -/
def debugText (s : Settings) : String :=
  let quote := Text.quoteForDisplay
  let fields : List (String × String) :=
    [("host", quote s.host), ("port", toString s.port), ("backend", s.backend.label),
      ("bucket", quote s.bucket), ("endpoint", quote s.endpoint), ("region", quote s.region),
      ("access_key", quote s.accessKey), ("secret_key", quote "<redacted>"),
      ("cdn_url", showOptional s.cdnUrl), ("public_base_url", showOptional s.publicBaseUrl),
      ("authz_url", showOptional s.authzUrl), ("max_upload_bytes", toString s.maxUploadBytes),
      ("request_timeout_secs", toString s.requestTimeoutSecs)]
  "AppConfig \x7b " ++ ", ".intercalate (fields.map fun f => f.1 ++ ": " ++ f.2) ++ " \x7d"

end Settings

end MediaVault
