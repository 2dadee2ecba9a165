import Observance.Build.Report
import Observance.Log.Timestamp
import Std.Time.DateTime.Timestamp

/-! # The program

Runs one build. Its settings come from the environment, the rules from the file that they name, and
the feed from standard input. The report goes to standard output and the log to standard error. The
schedule is written only if the build succeeds. Nothing is uploaded.
-/

open Observance

def settingNames : List String :=
  ["CAL_ICS_URL", "RULES_PATH", "OUTPUT_PATH", "LOG_LEVEL", "LOOKAHEAD_MONTHS", "TIMEOUT_SECONDS"]

def readEnvironment : IO Build.Environment :=
  settingNames.filterMapM fun name => do return (← IO.getEnv name).map (name, ·)

def readFile? (path : String) : IO (Option Text.Bytes) := do
  try return some (← IO.FS.readBinFile path).toList
  catch _ => return none

/-- The working directory, with the file of the rules if it can be read. -/
def readFiles (rulesPath : String) : IO FileTree := do
  let tree := FileTree.empty (((← IO.currentDir).toString.splitOn "/").filter (!·.isEmpty))
  return ((← readFile? rulesPath).map (tree.withFile rulesPath)).getD tree

def readFeed : IO Web.Exchange := do
  return .answer (.plain 200 ((← readFile? "/dev/stdin").getD []))

def writeSchedule (path : String) (files : FileTree) : IO Unit := do
  if let .ok content := files.read path then
    IO.FS.writeBinFile path (ByteArray.mk content.toArray)

/-- The number of milliseconds since the start of 1970. -/
def readClock : IO Nat := do
  return (← Std.Time.Timestamp.now).toMillisecondsSinceUnixEpoch.val.toNat

/-- The seconds between two readings of the clock, down to hundredths. -/
def elapsed (started ended : Nat) : Binary64 := .ofDecimal false ((ended - started + 5) / 10) (-2)

/-- A text as it is printed; halves of pairs cannot be. -/
def printed (text : Text) : String := String.ofList (text.map (·.char?.getD '\uFFFD'))

def writeLog (clock : Nat) (log : List Log.Entry) : IO Unit := do
  let stamp := (Log.timestampOf clock).toOption.getD ""
  for entry in log do IO.eprintln (printed (entry.line stamp).text)

/-- Runs one build. -/
def main : IO UInt32 := do
  let environment ← readEnvironment
  let places := Build.Places.ofEnvironment environment
  let started ← readClock
  let files ← readFiles places.rulesPath
  let exchange ← readFeed
  let clock ← readClock
  let now := Moment.ofMilliseconds clock
  let world : Build.World := {
    environment, today := now.date, now := .ok now, elapsed := elapsed started clock
    fetch := fun _ => exchange }
  let finished := Build.run world files (.object [])
  writeLog clock finished.progress.log
  match finished.outcome with
  | .ok report =>
    if report.isSuccess then writeSchedule places.outputPath finished.progress.files
    IO.println (printed (report.body.write .line))
    return report.exitCode
  | .error error =>
    IO.eprintln s!"{error.kind}: {printed error.message}"
    return 1
