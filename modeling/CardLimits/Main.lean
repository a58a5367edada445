import CardLimits.CommandLine.Run
/-!
# The program

Gathers the arguments, the environment and the files that they name, runs the
command, prints what it came to and exits with its code.
-/

namespace CardLimits.Main

open CommandLine

/-- The variables that a run looks at. -/
def variableNames : List String :=
  ["ENVIRONMENT", "APP_ENV", "DATABASE_URL", "DB_MAX_CONNECTIONS", "DB_TIMEOUT_SECONDS",
    "BOARDS_LICENSE_PATH", "BOARDS_CARD_LIMIT", "BOARDS_ADMIN_PAGE_SIZE",
    "PGHOST", "PGHOSTADDR", "PGPORT"]

/-- The fault that an error of the system stands for. -/
def faultOf : IO.Error → FileFault
  | .noFileOrDirectory .. => .notFound
  | .inappropriateType _ 20 _ => .notDirectory
  | .inappropriateType _ 21 _ => .isDirectory
  | .invalidArgument _ 36 _ => .nameTooLong
  | error => .other (toString error)

/-- The text of a file. -/
def readText (path : String) : IO (Except FileFault String) := do
  try
    return textOfBytes (← IO.FS.readBinFile path)
  catch error =>
    return .error (faultOf error)

/-- The environment of the process, with the settings in the working directory and the
clock of the machine. -/
def readEnvironment : IO Environment := do
  let clock := (← IO.monoMsNow) / 1000
  let mut process : Variables := []
  for name in variableNames do
    if let some value ← IO.getEnv name then
      process := process ++ [(name, value)]
  match ← readText ".env" with
  | .ok text => return { Environment.ofSettings process text with clock }
  | .error _ => return { process, clock }

/-- The texts of the files that a run looks at. -/
def readFiles (environment : Environment) (arguments : List String) : IO Files := do
  let paths := ((parse? arguments).map (Invocation.pathsIn environment)).getD []
  let mut texts : List (String × Except FileFault String) := []
  for path in paths do
    texts := texts ++ [(path, ← readText path)]
  return fun path => (texts.lookup path).getD (.error .notFound)

/-- A failure as it is reported on the standard error. -/
def report (failure : Failure) : String :=
  let causes := failure.causes.map fun cause => "    " ++ cause
  let listed := if causes.isEmpty then [] else "" :: "Caused by:" :: causes
  "\n".intercalate (("Error: " ++ failure.message) :: listed)

end CardLimits.Main

open CardLimits CardLimits.CommandLine CardLimits.Main

/-- Runs the command. -/
def main (arguments : List String) : IO UInt32 := do
  let environment ← readEnvironment
  let outcome := run (← readFiles environment arguments) environment arguments
  IO.print outcome.output
  match outcome with
  | .printed _ => pure ()
  | .failed failure => IO.eprintln (report failure)
  | .crashed => IO.eprintln "error: no connections can be set up"
  | .misused => IO.eprintln "error: unknown, missing or misplaced arguments"
  return UInt32.ofNat outcome.exitCode
