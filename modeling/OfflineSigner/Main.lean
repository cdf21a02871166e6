import OfflineSigner.CommandLine.Run

/-!
# The program

Reads the environment, the settings file and fresh random bytes, runs the command line and prints
what it gives: a result on standard output, or a report on standard error. The exit code is zero for
a result, one for a failure and two for arguments that are refused.
-/

namespace OfflineSigner.CommandLine

/-- The environment variables that stand in for options. -/
def readVariables : IO (List (String × String)) :=
  ["HAZE_SEED", "HAZE_CONFIG", "HAZE_LOG_LEVEL"].filterMapM fun name => do
    return (← IO.getEnv name).map fun value => (name, value)

/-- The fault of a file that an error of the system stands for. -/
def readFault : IO.Error → ReadFault
  | .noFileOrDirectory .. => .notFound
  | .permissionDenied .. => .permissionDenied
  | .inappropriateType .. => .isDirectory
  | error => .other (toString error)

/-- The bytes of a file, or why they cannot be had. -/
def readContents (path : String) : IO (Except ReadFault (List UInt8)) := do
  try
    return .ok (← IO.FS.readBinFile path).toList
  catch error => return .error (readFault error)

/-- A cycle of one fresh random seed. -/
def freshSeeds : IO SeedCycle := do
  return .ofList (FixedBytes.ofList? (← IO.getRandomBytes 32).toList).toList

/-- What is said of a document that is refused as a settings file. -/
def readerWords (document : String) : String :=
  if (Toml.parse? document).isNone then "TOML parse error" else "a setting has a wrong value"

/-- Prints the end of a run and gives its exit code. -/
def printOutcome (outcome : Outcome) : IO UInt32 := do
  IO.print outcome.standardOutput
  IO.eprint (outcome.errorReport readerWords)
  return outcome.exitCode.toUInt32

/-- Runs a command line in the environment of the process. -/
def runProcess (words : List String) : IO UInt32 := do
  let inherited ← readVariables
  let environment (name : String) : Option String := inherited.lookup name
  let contents ← match settingsPath? environment words with
    | some path => readContents path
    | none => pure (.error .notFound)
  printOutcome (execute SeedCycle.source (← freshSeeds) environment (fun _ => contents) words)

end OfflineSigner.CommandLine

/-- The program. -/
def main (words : List String) : IO UInt32 :=
  OfflineSigner.CommandLine.runProcess words
