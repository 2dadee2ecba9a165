import Observance.Build.Run

/-! # Reports of a build

A build ends with a report: a status, and a body that says what was done or what went wrong. An
error that is not foreseen ends it without one.
-/

namespace Observance.Build

open Observance.Log

/-- A report. -/
structure Report where
  status : Nat
  body : Json
deriving Repr

namespace Report

def success : Nat := 200

def failure : Nat := 500

/-- The report of a build that succeeds after some time. -/
def ofSummary (elapsed : Binary64) (summary : Summary) : Report :=
  { status := success
    body := .object [
      ("message", .text "Festival schedule generated"),
      ("statistics", .object [
        ("rules_loaded", .integer summary.rules),
        ("ics_events_parsed", .integer summary.feedEvents),
        ("resolved_events", .integer summary.schedule.events.length),
        ("published_to_s3", .bool summary.isUploaded),
        ("duration_seconds", .real elapsed)]),
      ("generatedAt", .text summary.schedule.generatedAt)] }

def ofError (elapsed : Binary64) (error : Error) : Report :=
  { status := failure
    body := .object [
      ("message", .text error.headline),
      ("error", .text error.message),
      ("error_type", .text error.kind),
      ("duration_seconds", .real elapsed)] }

def isSuccess (report : Report) : Bool := report.status == success

def exitCode (report : Report) : UInt32 := if report.isSuccess then 0 else 1

end Report

def failedEntry (error : Error) : Entry :=
  let failed : Entry := {
    logger := "lambda_function", severity := Log.error
    message := error.headline ++ ": " ++ error.message }
  if error.isOfSettings then failed
  else { failed with
    extra := [("error_type", .text error.kind)]
    failure := some (error.kind ++ ": " ++ error.message) }

/-- An end without a report. -/
inductive Unforeseen where
  | stage (error : Error)
  | logging (error : ThresholdError)
deriving Repr

namespace Unforeseen

def message : Unforeseen → Text
  | .stage error => error.message
  | .logging error => error.message

def kind : Unforeseen → String
  | .stage error => error.kind
  | .logging error => error.kind

end Unforeseen

/-- A finished build: how it ended, and what it leaves behind. -/
structure Finished where
  outcome : Except Unforeseen Report
  progress : Progress

def visible (threshold : Nat) (log : List Entry) : List Entry :=
  log.filter (threshold ≤ ·.severity)

/-- How the stages of a build ended. -/
def conclude (elapsed : Binary64) (outcome : Except Error Summary) (progress : Progress) :
    Finished :=
  match outcome with
  | .ok summary => { outcome := .ok (.ofSummary elapsed summary), progress }
  | .error error =>
    if error.isReported then
      { outcome := .ok (.ofError elapsed error)
        progress := { progress with log := progress.log ++ [failedEntry error] } }
    else { outcome := .error (.stage error), progress }

/-- Runs a build on some files. -/
def run (world : World) (files : FileTree) (request : Json) : Finished :=
  match thresholdOf ((world.environment.lookup "LOG_LEVEL").getD "INFO") with
  | .error error => { outcome := .error (.logging error), progress := { files } }
  | .ok threshold =>
    let (outcome, progress) := (stages world request).run { files }
    let finished := conclude world.elapsed outcome progress
    { finished with
      progress := { finished.progress with log := visible threshold finished.progress.log } }

end Observance.Build
