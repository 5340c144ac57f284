import ServicePlan.CommandLine.Inputs

/-!
# The program

Reads the files that a command line asks for, runs it and prints its report.
-/

namespace ServicePlan.CommandLine

/-- Why the system refuses a file. -/
def failureOf : IO.Error → FileFailure
  | .noFileOrDirectory _ code details => refusal code details
  | .inappropriateType _ code details => refusal code details
  | .permissionDenied _ code details => refusal code details
  | .invalidArgument _ code details => refusal code details
  | e => .other (toString e)
where
  /-- The text of the system with its code. -/
  refusal (code : UInt32) (details : String) : FileFailure :=
    .other s!"{details} (os error {code})"

/-- The text of a file. -/
def fetch (path : String) : IO (Except FileFailure String) := do
  try
    let bytes ← IO.FS.readBinFile path
    match String.fromUTF8? bytes with
    | some text => return .ok text
    | none => return .error .notText
  catch e => return .error (failureOf e)

/-- The texts of some files. -/
def fetchAll (paths : List String) : IO (List (String × Except FileFailure String)) :=
  paths.mapM fun path => do return (path, ← fetch path)

/-- Writes a file. -/
def store (path text : String) : IO (Except FileFailure Unit) := do
  try
    IO.FS.writeFile path text
    return .ok ()
  catch e => return .error (failureOf e)

/-- The environment variables that parameters fall back on. -/
def environment : IO (List (String × String)) := do
  let found ← Parameter.withFallback.mapM fun name => do
    return (← IO.getEnv name).toList.map fun value => (name, value)
  return found.flatten

/-- Layer versions are known to a service that this program has no connection to. -/
def noVersions : LayerVersions := fun _ name =>
  .error (.lookupFailed name "no connection to the layer service")

/-- Runs a command line with the files of the system. -/
def runHere (words : List String) : IO Report := do
  let known ← environment
  let fetched ← match Request.ofWords known words with
    | .ok request => do
      let first ← fetchAll request.named
      let second ← fetchAll (request.referred (filesOf first))
      pure (first ++ second)
    | .error _ => pure []
  run store (filesOf fetched) noVersions known words

end ServicePlan.CommandLine

/-- Runs a command line and prints its report. -/
def main (words : List String) : IO UInt32 := do
  let report ← ServicePlan.CommandLine.runHere words
  IO.eprint report.stderr
  IO.print report.stdout
  return report.code.toUInt32
