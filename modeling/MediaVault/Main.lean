import MediaVault.Cli

/-!
# The program

Reads the arguments and the environment, and reports how the run ends.
-/

open MediaVault

/-- The variables that the settings come from. -/
def settingNames : List String :=
  ["HOST", "PORT", "BACKEND", "BUCKET", "S3_ENDPOINT", "S3_REGION", "S3_ACCESS_KEY",
    "S3_SECRET_KEY", "CDN_URL", "PUBLIC_BASE_URL", "AUTHZ_URL", "MAX_UPLOAD_BYTES",
    "REQUEST_TIMEOUT_SECS"].map Environment.nameOf

/-- Run the program. -/
def main (words : List String) : IO UInt32 := do
  let values ← settingNames.filterMapM fun name => do
    pure ((← IO.getEnv name).map fun value => (name, value))
  let environment : Environment := fun name => (values.find? (·.1 == name)).map (·.2)
  match Cli.run words environment with
  | .ends outcome =>
    IO.eprint outcome.stderr
    pure (UInt32.ofNat outcome.exitCode)
  | .serves settings =>
    IO.println ("ready for " ++ settings.address)
    pure 0
