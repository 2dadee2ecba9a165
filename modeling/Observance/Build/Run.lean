import Observance.Build.Settings
import Observance.Log.Entry
import Observance.Rule.Document
import Observance.Web.Client

/-! # A build

A build loads the rules, fetches the feed, resolves the rules against it, and writes the schedule,
strictly in this order. Nothing is written before the schedule is known to be valid, so a failure
up to then leaves the previous schedule in place.
-/

namespace Observance.Build

open Observance.Log Observance.Text

/-- What a build finds: its environment, the calendar and the clock, what would come of each
request, how the device behaves that the schedule is written on, whether an upload is refused or has
no answer, and how much room there is for nesting in the rule document and in its patterns. -/
structure World where
  environment : Environment
  today : Date
  /-- What the clock gives; it may be out of range. -/
  now : Except DateError Moment
  /-- The time that the build takes, in seconds. -/
  elapsed : Binary64
  fetch : Web.Fetch
  device : Device := {}
  uploadFailure : Option UploadError := none
  outage : Option Outage := none
  documentRoom : Room := none
  patternRoom : Room := none

/-- An upload. -/
structure Upload where
  bucket : String
  key : String
  body : Text
deriving Repr, DecidableEq

namespace Upload

def contentType : String := "application/json; charset=utf-8"

/-- How long an upload may be kept on the way. -/
def cacheControl : String := "no-cache"

/-- The place of an upload, as log entries name it. -/
def place (bucket key : String) : String := s!"s3://{bucket}/{key}"

end Upload

/-- What a build changes and leaves behind: the files, the number of requests, the uploads and the
log. -/
structure Progress where
  files : FileTree
  requests : Nat := 0
  uploads : List Upload := []
  log : List Entry := []
deriving Repr

/-- A part of a build. -/
abbrev Stage (α : Type) := ExceptT Error (StateM Progress) α

def note (entries : List Entry) : Stage Unit :=
  modify fun progress => { progress with log := progress.log ++ entries }

def stage (result : Except Error α) : Stage α := ExceptT.mk (pure result)

def entry (message : Text) (extra : Fields) : Entry :=
  { logger := "lambda_function", severity := info, message, extra }

def rulesEntry (message : Text) : Entry :=
  { logger := "festivals.rules", severity := info, message }

def skippedEntry (skipped : RuleEntry) : Entry :=
  { logger := "festivals.rules", severity := warning
    message := "Skipping event " ++ skipped.id ++ ": unsupported dateRule type '" ++ skipped.type ++
      "'" }

def feedEntry (severity : Nat) (message : Text) : Entry :=
  { logger := "calendar_feed.ics_feed", severity, message }

def feedTextEntry (message : Text) : Entry :=
  { logger := "calendar_feed.ics_parser", severity := debug, message }

def resolverEntry (message : Text) : Entry :=
  { logger := "festivals.date_rules", severity := info, message }

def scheduleEntry (message : Text) : Entry :=
  { logger := "festivals.schedule", severity := info, message }

def storageEntry (severity : Nat) (message : Text) : Entry :=
  { logger := "storage.artifact_store", severity, message }

/-- The entries about events that are skipped in a rule document. -/
def skippedEntries (world : World) (value : Json) : List Entry :=
  match RuleDocument.ofJson value with
  | .ok document =>
    (RuleSet.skippedEntries [] document.entries world.patternRoom).map skippedEntry
  | .error _ => []

/-- Loads the rules. -/
def loadRules (world : World) (path : String) : Stage RuleSet := do
  note [rulesEntry s!"Loading festival rules from {path}"]
  let text ← stage (((← get).files.readText path).mapError .ruleFile)
  let value ← stage ((RuleSet.readText text world.documentRoom).mapError .rules)
  note (skippedEntries world value)
  let rules ← stage ((RuleSet.ofJson value world.patternRoom).mapError .rules)
  note [rulesEntry s!"Loaded {rules.rules.length} festival rules"]
  return rules

/-- The entries about an error that is raised instead of a feed. -/
def failedRequestEntries (error : Web.Raised) : List Entry :=
  if error.isOfRequest then [feedEntry Log.error ("Failed to fetch ICS feed: " ++ error.message)]
  else []

/-- Fetches the feed. -/
def fetchFeed (exchange : Web.Exchange) : Stage (List FeedEvent) := do
  note [feedEntry info "Fetching calendar feed"]
  modify fun progress => { progress with requests := progress.requests + exchange.requestCount }
  match exchange.feedText with
  | .error error =>
    note (failedRequestEntries error)
    throw (.feed error)
  | .ok text =>
    let events := Feed.events text
    note ((Feed.omissions text).map (feedTextEntry ·.message))
    note [feedTextEntry s!"Parsed {events.length} events from ICS feed",
      feedEntry info s!"Extracted {events.length} events from calendar feed"]
    return events

/-- The entry about a rule without an event. -/
def unmatchedEntry (resolver : Resolver) (rule : Rule) : Entry :=
  resolverEntry ("No calendar match for " ++ rule.id ++ " between " ++ resolver.today.text ++
    " and " ++ resolver.windowEnd.text)

def resolve (world : World) (settings : Settings) (rules : RuleSet) (feed : List FeedEvent) :
    Stage CheckedSchedule := do
  let resolver ← stage
    ((Resolver.make (settings.today.getD world.today) settings.lookahead).mapError
      (.resolution ∘ .date))
  note ((resolver.unmatched feed rules.rules).map (unmatchedEntry resolver))
  let events ← stage ((resolver.resolve rules.rules feed).mapError .resolution)
  note [resolverEntry s!"Resolved {events.length} events from {rules.rules.length} rules"]
  let schedule ← stage
    ((Schedule.buildBy world.now rules.window rules.priorityOrder events).mapError .schedule)
  note [scheduleEntry s!"Built schedule with {schedule.events.length} resolved events"]
  return schedule

/-- Writes the schedule. -/
def write (places : Places) (world : World) (schedule : CheckedSchedule) : Stage Text := do
  let (files, written) := Artifact.write world.device (← get).files places.outputPath schedule
  modify fun progress => { progress with files }
  let text ← stage (written.mapError .writing)
  note [storageEntry info
    s!"Wrote {schedule.events.length} resolved events to {places.outputPath}"]
  return text

/-- The outage that ends an upload, before it is begun or during it. -/
def checkOutage (isBegun : Bool) : Option Outage → Except Error Unit
  | some outage => if outage.isBegun = isBegun then .error (.outage outage) else .ok ()
  | none => .ok ()

def upload (places : Places) (world : World) (body : Text) : Stage Unit := do
  let place := Upload.place places.bucket places.key
  stage (checkOutage false world.outage)
  note [storageEntry info s!"Initialized S3ArtifactPublisher for {place}"]
  modify fun progress => { progress with
    uploads := progress.uploads ++ [{ bucket := places.bucket, key := places.key, body }] }
  stage (checkOutage true world.outage)
  match world.uploadFailure with
  | some error =>
    note [storageEntry Log.error (s!"Error uploading artifact to {place}: " ++ error.message)]
    throw (.upload error)
  | none => note [storageEntry info s!"Published artifact to {place}"]

/-- Publishes the schedule. -/
def publish (places : Places) (world : World) (schedule : CheckedSchedule) : Stage Unit := do
  let text ← write places world schedule
  if places.isUploaded then upload places world text

/-- What a build that succeeds has done. -/
structure Summary where
  rules : Nat
  feedEvents : Nat
  schedule : CheckedSchedule
  isUploaded : Bool
deriving Repr

def startedEntry (places : Places) (settings : Settings) : Entry :=
  entry "Festival build started" [
    ("rules_path", .text places.rulesPath),
    ("output_path", .text places.outputPath),
    ("artifact_bucket", if places.isUploaded then .text places.bucket else .null),
    ("lookahead_months", .integer settings.lookahead)]

def completedEntry (elapsed : Binary64) (summary : Summary) : Entry :=
  entry "Festival build completed successfully" [
    ("duration_seconds", .real elapsed),
    ("ics_events", .integer summary.feedEvents),
    ("resolved_events", .integer summary.schedule.events.length)]

def Settings.feedRequest (settings : Settings) : Web.Request :=
  Web.feedRequest settings.address settings.timeout

def stages (world : World) (request : Json) : Stage Summary := do
  let places := Places.ofEnvironment world.environment
  let settings ← stage (Settings.read world.environment request)
  note [startedEntry places settings]
  let rules ← loadRules world places.rulesPath
  let feed ← fetchFeed (world.fetch settings.feedRequest)
  let schedule ← resolve world settings rules feed
  publish places world schedule
  let summary : Summary := {
    rules := rules.rules.length
    feedEvents := feed.length
    schedule := schedule
    isUploaded := places.isUploaded }
  note [completedEntry world.elapsed summary]
  return summary

end Observance.Build
