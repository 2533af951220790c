import Specimen.Command.Line

/-!
# The program

Reads the command line and the environment, runs the command on the disk and prints what it leaves
behind. A command line that cannot be read ends with the exit code 2, a command that fails with 1.
-/

namespace Specimen

/-- The reason and the number that the system gives for an error. -/
def systemReason : IO.Error → String
  | .noFileOrDirectory _ code details | .resourceVanished code details
  | .unsupportedOperation code details | .otherError code details =>
    s!"{details} (os error {code})"
  | .permissionDenied _ code details | .inappropriateType _ code details
  | .alreadyExists _ code details | .invalidArgument _ code details
  | .resourceExhausted _ code details => s!"{details} (os error {code})"
  | e => toString e

/-- The result of an operation, or the reason why there is none. -/
def attempt {α : Type} (action : IO α) : IO (Except String α) := do
  try
    return .ok (← action)
  catch e =>
    return .error (systemReason e)

/-- The files of the disk. -/
def disk : Files IO where
  read path := attempt (IO.FS.readFile path)
  createDirectory path := attempt (IO.FS.createDirAll path)
  write path content := attempt (IO.FS.writeFile path content)

end Specimen

/-- Runs the command that the arguments ask for. -/
def main (arguments : List String) : IO UInt32 := do
  let environment ← IO.getEnv "SAMPLE_BUILDER_SCHEMA"
  match Specimen.Request.ofWords? arguments environment with
  | none =>
    (← IO.getStderr).putStrLn "error: the arguments make no command"
    return 2
  | some (.help text) =>
    (← IO.getStdout).putStr text
    return 0
  | some (.run command) =>
    let outcome ← command.run Specimen.disk
    (← IO.getStdout).putStr outcome.output
    (← IO.getStderr).putStr outcome.errorText
    return if outcome.hasFailed then 1 else 0
