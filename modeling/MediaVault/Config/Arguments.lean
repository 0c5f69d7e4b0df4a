import MediaVault.Text.Letters
import MediaVault.Text.Numeral

/-!
# Command-line arguments

Every option is spelled `--name value` or `--name=value` and may be given once.
A value given as a word of its own is looked at only when the next known
option, or the end, shows that it is complete; an attached one is looked at on
the spot.  Words that start with a hyphen are never values.
-/

namespace MediaVault

/-- Which store holds the objects. -/
inductive Backend where
  | s3
  | memory
deriving Repr, DecidableEq, Inhabited

namespace Backend

/-- The name used in debug output. -/
def label : Backend → String
  | s3 => "S3"
  | memory => "Memory"

/-- The spelling on the command line. -/
def ofArgument? : String → Option Backend
  | "s3" => some s3
  | "memory" => some memory
  | _ => none

end Backend

/-- The options that take a value. -/
inductive OptionName where
  | host
  | port
  | backend
  | bucket
  | endpoint
  | region
  | accessKey
  | secretKey
  | cdnUrl
  | publicBaseUrl
  | authzUrl
  | maxUploadBytes
  | requestTimeoutSecs
deriving Repr, DecidableEq

namespace OptionName

/-- The spelling without its hyphens. -/
def long : OptionName → String
  | host => "host"
  | port => "port"
  | backend => "backend"
  | bucket => "bucket"
  | endpoint => "endpoint"
  | region => "region"
  | accessKey => "access-key"
  | secretKey => "secret-key"
  | cdnUrl => "cdn-url"
  | publicBaseUrl => "public-base-url"
  | authzUrl => "authz-url"
  | maxUploadBytes => "max-upload-bytes"
  | requestTimeoutSecs => "request-timeout-secs"

/-- All options. -/
def all : List OptionName :=
  [host, port, backend, bucket, endpoint, region, accessKey, secretKey, cdnUrl, publicBaseUrl,
    authzUrl, maxUploadBytes, requestTimeoutSecs]

/-- The option with this spelling. -/
def ofLong? (name : String) : Option OptionName :=
  all.find? (·.long == name)

/-- The name of the value in messages. -/
def valueName (o : OptionName) : String :=
  String.ofList (o.long.toList.map fun c => if c = '-' then '_' else c.toUpper)

/-- The option as messages show it. -/
def display (o : OptionName) : String :=
  "--" ++ o.long ++ " <" ++ o.valueName ++ ">"

end OptionName

/-- Why the arguments are not accepted, or what they ask for instead. -/
inductive UsageError where
  | unknownArgument (argument : String)
  | missingValue (option : OptionName)
  | unknownChoice (option : OptionName) (value : String)
  | invalidValue (option : OptionName) (value reason : String)
  | repeated (argument : String)
  | needlessValue (argument value : String)
  | help
  | version
deriving Repr, DecidableEq

namespace UsageError

/-- The first line of the message; asking for help or the version is no
error. -/
def message : UsageError → String
  | unknownArgument argument => "error: unexpected argument '" ++ argument ++ "' found"
  | missingValue o =>
    "error: a value is required for '" ++ o.display ++ "' but none was supplied"
  | unknownChoice o value => "error: invalid value '" ++ value ++ "' for '" ++ o.display ++ "'"
  | invalidValue o value reason =>
    "error: invalid value '" ++ value ++ "' for '" ++ o.display ++ "': " ++ reason
  | repeated argument =>
    "error: the argument '" ++ argument ++ "' cannot be used multiple times"
  | needlessValue argument value =>
    "error: unexpected value '" ++ value ++ "' for '" ++ argument ++
      "' found; no more were expected"
  | help | version => ""

/-- The exit code. -/
def exitCode : UsageError → Nat
  | help | version => 0
  | _ => 2

end UsageError

/-- The values given on the command line. -/
structure Arguments where
  host : Option String := none
  port : Option Nat := none
  backend : Option Backend := none
  bucket : Option String := none
  endpoint : Option String := none
  region : Option String := none
  accessKey : Option String := none
  secretKey : Option String := none
  cdnUrl : Option String := none
  publicBaseUrl : Option String := none
  authzUrl : Option String := none
  maxUploadBytes : Option Nat := none
  requestTimeoutSecs : Option Nat := none
  ensureBucket : Bool := false
deriving Repr, DecidableEq, Inhabited

namespace Arguments

/-- The largest port. -/
def maxPort : Nat := Text.maxOfBits 16

/-- A numeral of at most 64 bits. -/
def number (o : OptionName) (value : String) : Except UsageError Nat :=
  (Text.readNatural (Text.maxOfBits 64) value.toList).mapError fun e =>
    .invalidValue o value e.message

/-- A port; numbers out of its range are told apart from what is no number. -/
def portNumber (value : String) : Except UsageError Nat :=
  match Text.readInteger (Text.maxOfBits 63) value.toList with
  | .error e => .error (.invalidValue .port value e.message)
  | .ok n =>
    if 0 ≤ n ∧ n ≤ maxPort then .ok n.toNat
    else
      .error (.invalidValue .port value
        (toString n ++ " is not in 0..=" ++ toString maxPort))

/-- One of the backends. -/
def backendChoice (value : String) : Except UsageError Backend :=
  match Backend.ofArgument? value with
  | some b => .ok b
  | none => .error (if value = "" then .missingValue .backend else .unknownChoice .backend value)

/-- Refuse an option that was given before. -/
def once {α : Type} (o : OptionName) (old : Option α) : Except UsageError Unit :=
  if old.isSome then .error (.repeated o.display) else .ok ()

/-- Take over the value of an option. -/
def set (a : Arguments) (o : OptionName) (value : String) : Except UsageError Arguments :=
  match o with
  | .host => do once o a.host; pure { a with host := some value }
  | .port => do once o a.port; pure { a with port := some (← portNumber value) }
  | .backend => do once o a.backend; pure { a with backend := some (← backendChoice value) }
  | .bucket => do once o a.bucket; pure { a with bucket := some value }
  | .endpoint => do once o a.endpoint; pure { a with endpoint := some value }
  | .region => do once o a.region; pure { a with region := some value }
  | .accessKey => do once o a.accessKey; pure { a with accessKey := some value }
  | .secretKey => do once o a.secretKey; pure { a with secretKey := some value }
  | .cdnUrl => do once o a.cdnUrl; pure { a with cdnUrl := some value }
  | .publicBaseUrl => do once o a.publicBaseUrl; pure { a with publicBaseUrl := some value }
  | .authzUrl => do once o a.authzUrl; pure { a with authzUrl := some value }
  | .maxUploadBytes => do
    once o a.maxUploadBytes
    pure { a with maxUploadBytes := some (← number o value) }
  | .requestTimeoutSecs => do
    once o a.requestTimeoutSecs
    pure { a with requestTimeoutSecs := some (← number o value) }

end Arguments

/-- Where reading the arguments stands. -/
structure ArgumentReader where
  arguments : Arguments := {}
  /-- The last option, with its value once that was read. -/
  pending : Option (OptionName × Option String) := none
  /-- Whether `--` was passed. -/
  trailing : Bool := false

namespace ArgumentReader

/-- Take over the option that waits. -/
def resolve (r : ArgumentReader) : Except UsageError ArgumentReader :=
  match r.pending with
  | none => .ok r
  | some (o, none) => .error (.missingValue o)
  | some (o, some value) => do
    pure { r with arguments := ← r.arguments.set o value, pending := none }

/-- The spelling of the flag that asks for the bucket. -/
def ensureBucket : String := "--ensure-bucket"

/-- A word that starts with two hyphens. -/
def long (r : ArgumentReader) (name : String) (value : Option String) :
    Except UsageError ArgumentReader :=
  match OptionName.ofLong? name, value with
  | some o, some value => do
    let r ← r.resolve
    pure { r with arguments := ← r.arguments.set o value }
  | some o, none => do
    let r ← r.resolve
    pure { r with pending := some (o, none) }
  | none, value =>
    if name = "ensure-bucket" ∨ name = "help" ∨ name = "version" then
      match value with
      | some value => .error (.needlessValue ("--" ++ name) value)
      | none => do
        let r ← r.resolve
        if name = "help" then throw .help
        else if name = "version" then throw .version
        else if r.arguments.ensureBucket then throw (.repeated ensureBucket)
        else pure { r with arguments := { r.arguments with ensureBucket := true } }
    else .error (.unknownArgument ("--" ++ name))

/-- A word that starts with one hyphen and a letter. -/
def short (r : ArgumentReader) (letter : Char) : Except UsageError ArgumentReader :=
  if letter = 'h' then do let _ ← r.resolve; throw .help
  else if letter = 'V' then do let _ ← r.resolve; throw .version
  else .error (.unknownArgument (String.ofList ['-', letter]))

/-- A word that may be a value. -/
def plain (r : ArgumentReader) (word : String) : Except UsageError ArgumentReader :=
  match r.pending with
  | some (o, none) => .ok { r with pending := some (o, some word) }
  | _ => .error (.unknownArgument word)

/-- Read one word. -/
def step (r : ArgumentReader) (word : String) : Except UsageError ArgumentReader :=
  if r.trailing then .error (.unknownArgument word)
  else
    match word.toList with
    | ['-', '-'] => .ok { r with trailing := true }
    | '-' :: '-' :: rest =>
      match Text.cutAt '=' rest with
      | some (name, value) => r.long (String.ofList name) (some (String.ofList value))
      | none => r.long (String.ofList rest) none
    | '-' :: letter :: _ => r.short letter
    | _ => r.plain word

end ArgumentReader

/-- Read the arguments of the program. -/
def Arguments.parse (words : List String) : Except UsageError Arguments := do
  let r ← words.foldlM ArgumentReader.step {}
  let r ← r.resolve
  pure r.arguments

end MediaVault
