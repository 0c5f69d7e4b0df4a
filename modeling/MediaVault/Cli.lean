import MediaVault.Assembly
import MediaVault.S3.Store
import MediaVault.Store.Memory

/-!
# The command line

The program reads its settings, puts the gateway together and makes sure that
the bucket exists.  With `--ensure-bucket` it ends there.
-/

namespace MediaVault.Cli

/-- How a run of the program ends. -/
structure Outcome where
  exitCode : Nat
  stderr : String
deriving Repr, DecidableEq

/-- What the arguments lead to. -/
inductive Action where
  /-- The run is over. -/
  | ends (outcome : Outcome)
  /-- The gateway is ready to listen. -/
  | serves (settings : Settings)

/-- The lines after the first are indented. -/
def indent (width : Nat) (text : String) : String :=
  String.ofList (text.toList.flatMap fun c =>
    if c = '\n' then '\n' :: List.replicate width ' ' else [c])

/-- A cause with its number. -/
def numbered (n : Nat) (text : String) : String :=
  let digits := toString n
  String.ofList (List.replicate (5 - digits.length) ' ') ++ digits ++ ": " ++ indent 7 text

/-- A failure with its causes; several of them are numbered. -/
def report : List String → String
  | [] => "Error: \n"
  | [message] => "Error: " ++ message ++ "\n"
  | [message, cause] =>
    "Error: " ++ message ++ "\n\nCaused by:\n    " ++ indent 4 cause ++ "\n"
  | message :: causes =>
    "Error: " ++ message ++ "\n\nCaused by:\n" ++
      "\n".intercalate (causes.zipIdx.map fun c => numbered c.2 c.1) ++ "\n"

/-- A run that failed. -/
def failed (error : StartupError) : Action :=
  .ends ⟨1, report error.chain⟩

/-- A service that no call reaches. -/
def offline (settings : Settings) : S3.Client Id where
  region := settings.region
  bucket := settings.bucket
  send _ := ExceptT.mk (.error (.undeliverable "no connection"))

/-- Make sure that the bucket exists. -/
def ensureBucket (settings : Settings) : Except StorageError Unit :=
  match settings.backend with
  | .memory =>
    (((MemoryStore.sequential settings.bucket Timestamp.epoch).ensureBucket).run.run {}).1
  | .s3 => (S3.store (offline settings) 1).ensureBucket.run

/-- Settings from the arguments and the environment. -/
def start (arguments : Arguments) (environment : Environment) : Except StartupError Settings := do
  let settings ← (Settings.merge arguments environment).mapError .settings
  let _ ← settings.publicOrigin
  (ensureBucket settings).mapError .storage
  pure settings

/-- Run the program up to the point where it would listen. -/
def run (words : List String) (environment : Environment) : Action :=
  match Arguments.parse words with
  | .error usage =>
    .ends ⟨usage.exitCode, if usage.message = "" then "" else usage.message ++ "\n"⟩
  | .ok arguments =>
    match start arguments environment with
    | .error error => failed error
    | .ok settings => if arguments.ensureBucket then .ends ⟨0, ""⟩ else .serves settings

end MediaVault.Cli
