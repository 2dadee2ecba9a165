import Observance.Proofs.Build.Ending
import Observance.Proofs.Schedule.RoundTrip

/-! # What a report agrees with

A report, the file at the output path and the upload all speak of the same schedule. A report of an
error that comes before writing means that nothing was changed; an upload is attempted only of a
text that is already in the file; and a report of success means that the file holds a valid
schedule with the moment and the number of events that the report gives.
-/

namespace Observance.Build

open Result Text

/-- The headlines of errors that come before anything is written. -/
def earlyHeadlines : List String :=
  ["Invalid configuration", "Failed to load festival rules", "Failed to fetch calendar feed",
    "Resolved schedule is invalid"]

/-- An upload of a text that is already in the file: it needs a bucket, and it comes after the
stages that write the text, at the end of which there was no upload yet. What was written can be
encoded for the upload as well. -/
structure FollowsWriting (world : World) (files : FileTree) (request : Json) (left : Progress)
    (upload : Upload) : Prop where
  bucket : world.places.bucket ≠ ""
  written : ∃ draft before, (prepareAndWrite world request).run { files } =
    (.ok (draft, upload.body), before) ∧ before.uploads = [] ∧ before.files = left.files
  whole : upload.body.isWhole = true
  content : left.files.read world.places.outputPath = .ok (Utf8.encode upload.body)

/-- A file with a valid schedule, which is the one that a report is about, and which was uploaded
if there is a bucket. -/
structure IsPublished (world : World) (report : Report) (left : Progress)
    (schedule : CheckedSchedule) (document : Json) : Prop where
  content : left.files.read world.places.outputPath =
    .ok (Utf8.encode schedule.serialize)
  valid : Schedule.validate schedule.events = .ok ()
  uploaded : left.uploads ≠ [] ↔ world.places.bucket ≠ ""
  decoded : Json.read schedule.serialize = .ok document
  generatedAt : report.body.field? "generatedAt" = document.field? "generatedAt"
  events : ((report.body.field? "statistics").bind (·.field? "resolved_events")) =
    ((document.field? "resolvedEvents").bind Json.elements?).map (.integer ·.length)

/-- What is to be seen of a build that ends with a report. Up to the schedule, an error leaves all
files as they were, and nothing is uploaded; up to the rules, no request is made. -/
structure Agrees (world : World) (files : FileTree) (request : Json) (report : Report)
    (left : Progress) : Prop where
  unchanged : ∀ headline ∈ earlyHeadlines, report.status = Report.failure →
    report.body.field? "message" = some (.text headline) →
      left.files = files ∧ left.uploads = []
  notRequested : ∀ headline ∈ earlyHeadlines.take 2, report.status = Report.failure →
    report.body.field? "message" = some (.text headline) → left.requests = 0
  uploads : left.uploads.length ≤ 1
  uploaded : ∀ upload ∈ left.uploads, FollowsWriting world files request left upload
  published : report.status = Report.success →
    ∃ schedule document, IsPublished world report left schedule document

section Stages

variable {world : World} {files : FileTree} {request : Json} {requests : Nat} {error : Error}

theorem requestCount_le_one (exchange : Web.Exchange) : exchange.requestCount ≤ 1 := by
  cases exchange with
  | answer => exact Nat.le_refl 1
  | failure isSent =>
    cases isSent with
    | false => exact Nat.zero_le 1
    | true => exact Nat.le_refl 1

theorem readFeed_error {exchange : Web.Exchange} (failure : readFeed exchange = .error error) :
    ∃ cause, error = .feed cause := by
  obtain ⟨cause, -, rfl⟩ := mapError_eq_error.mp failure
  exact ⟨cause, rfl⟩

theorem NotScheduled.headline {settings : Settings} {rules : RuleSet} {feed : List FeedEvent}
    (fails : NotScheduled world settings rules feed error) :
    error.headline = "Resolved schedule is invalid" := by
  cases fails <;> rfl

theorem makeSchedule_ok {settings : Settings} {rules : RuleSet} {feed : List FeedEvent}
    {schedule : CheckedSchedule} (success : makeSchedule world settings rules feed = .ok schedule) :
    schedule.window = rules.window ∧ Schedule.validate schedule.events = .ok () := by
  simp only [makeSchedule, bind_eq_ok, mapError_eq_ok] at success
  obtain ⟨_, -, _, -, built⟩ := success
  obtain ⟨valid, _, _, -, -, rfl⟩ := Schedule.buildBy_eq_ok.mp built
  exact ⟨rfl, valid⟩

theorem isUsable_of_readRules {path : String} {rules : RuleSet}
    (success : readRules world files path = .ok rules) : rules.IsUsable := by
  simp only [readRules, RuleSet.ofText, bind_eq_ok, mapError_eq_ok] at success
  obtain ⟨_, -, _, -, accepted⟩ := success
  exact RuleSet.isUsable_of_ofJson accepted

theorem Prepares.requests_le_one {outcome : Except Error Draft}
    (prepares : Prepares world files request outcome requests) : requests ≤ 1 := by
  cases prepares with
  | noSettings => exact Nat.zero_le 1
  | noRules => exact Nat.zero_le 1
  | noFeed => exact requestCount_le_one _
  | noSchedule => exact requestCount_le_one _
  | done => exact requestCount_le_one _

/-- An error of the settings or of the rules comes before a request. -/
theorem Prepares.requests_eq_zero
    (prepares : Prepares world files request (.error error) requests)
    (early : error.headline ∈ earlyHeadlines.take 2) : requests = 0 := by
  cases prepares with
  | noSettings => rfl
  | noRules => rfl
  | noFeed _ _ failure =>
    obtain ⟨cause, rfl⟩ := readFeed_error failure
    simp [earlyHeadlines, Error.headline] at early
  | noSchedule _ _ _ failure =>
    rw [(makeSchedule_eq_error.mp failure).headline] at early
    simp [earlyHeadlines] at early

theorem Uploads.length_le_one {text : Text} {outcome : Except Error Unit}
    {uploads : List Upload} (ends : Uploads world text outcome uploads) : uploads.length ≤ 1 := by
  cases ends <;> simp

theorem Uploads.of_mem {text : Text} {outcome : Except Error Unit} {uploads : List Upload}
    (ends : Uploads world text outcome uploads) {upload : Upload} (member : upload ∈ uploads) :
    world.places.isUploaded = true ∧ upload.body = text := by
  cases ends with
  | unwanted => cases member
  | notBegun => cases member
  | interrupted bucket => exact ⟨bucket, by rw [List.mem_singleton.mp member]⟩
  | refused bucket => exact ⟨bucket, by rw [List.mem_singleton.mp member]⟩
  | stored bucket => exact ⟨bucket, by rw [List.mem_singleton.mp member]⟩

theorem Uploads.headline {text : Text} {uploads : List Upload}
    (ends : Uploads world text (.error error) uploads) : error.headline ∉ earlyHeadlines := by
  cases ends <;> simp [earlyHeadlines, Error.headline]

theorem Uploads.ne_nil_iff {text : Text} {uploads : List Upload}
    (ends : Uploads world text (.ok ()) uploads) :
    uploads ≠ [] ↔ world.places.bucket ≠ "" := by
  have wanted : world.places.isUploaded = true ↔ world.places.bucket ≠ "" := by
    simp [Places.isUploaded]
  cases ends with
  | unwanted noBucket => simp [← wanted, noBucket]
  | stored bucket => simp [← wanted, bucket]

end Stages

section Reports

variable {world : World} {files : FileTree} {request : Json} {left : Progress} {error : Error}

theorem message_ofError {elapsed : Binary64} {headline : String}
    (message : (Report.ofError elapsed error).body.field? "message" = some (.text headline)) :
    error.headline = headline := by
  have : some (Json.text error.headline) = some (.text headline) := message
  simpa using this

theorem not_success_ofError (elapsed : Binary64) (error : Error) :
    (Report.ofError elapsed error).status ≠ Report.success :=
  show Report.failure ≠ Report.success by decide

theorem not_failure_ofSummary (elapsed : Binary64) (summary : Summary) :
    (Report.ofSummary elapsed summary).status ≠ Report.failure :=
  show Report.success ≠ Report.failure by decide

/-- An error after the schedule leaves the early headlines out of account. -/
theorem agrees_of_lateError (late : error.headline ∉ earlyHeadlines)
    (uploads : left.uploads.length ≤ 1)
    (uploaded : ∀ upload ∈ left.uploads, FollowsWriting world files request left upload) :
    Agrees world files request (.ofError world.elapsed error) left where
  unchanged _ early _ message := absurd (message_ofError message ▸ early) late
  notRequested _ early _ message :=
    absurd (message_ofError message ▸ List.mem_of_mem_take early) late
  uploads
  uploaded
  published success := absurd success (not_success_ofError _ error)

/-- The document of a draft that was written has what the report of success says. -/
theorem isPublished_of_draft {draft : Draft} {requests : Nat}
    (prepares : Prepares world files request (.ok draft) requests)
    (content : left.files.read world.places.outputPath =
      .ok (Utf8.encode draft.schedule.serialize))
    (uploaded : left.uploads ≠ [] ↔ world.places.bucket ≠ "") :
    IsPublished world (.ofSummary world.elapsed (draft.summary world.places)) left draft.schedule
      draft.schedule.toJson := by
  cases prepares with
  | done hasSettings hasRules hasFeed hasSchedule =>
    obtain ⟨window, valid⟩ := makeSchedule_ok hasSchedule
    have document := Schedule.read_serialize (window ▸ (isUsable_of_readRules hasRules).window)
    refine ⟨content, valid, uploaded, document, rfl, ?_⟩
    change some (Json.integer draft.schedule.events.length) =
      some (Json.integer (draft.schedule.events.map Event.toJson).length)
    rw [List.length_map]

theorem Ends.requests_le_one {outcome : Except Error Summary} {progress : Progress}
    (ends : Ends world files request outcome progress) : progress.requests ≤ 1 := by
  cases ends with
  | unprepared prepares => exact prepares.requests_le_one
  | unwritten prepares => exact prepares.requests_le_one
  | written prepares => exact prepares.requests_le_one

theorem requests_run_le_one : (run world files request).progress.requests ≤ 1 := by
  rcases run_cases world files request with ⟨error, -, ended⟩ |
    ⟨threshold, outcome, progress, log, -, ends, left, -⟩
  · rw [ended]
    exact Nat.zero_le 1
  · rw [left]
    exact ends.requests_le_one

/-- Every build that ends with a report agrees with it. -/
theorem agrees_of_report {report : Report}
    (reported : (run world files request).outcome = .ok report) :
    Agrees world files request report (run world files request).progress := by
  obtain ⟨outcome, progress, log, ends, left, tells⟩ := ends_of_report world files request reported
  rw [left]
  cases ends with
  | @unprepared error requests _ prepares =>
    cases tells
    exact {
      unchanged := fun _ _ _ _ => ⟨rfl, rfl⟩
      notRequested := fun headline early _ message =>
        prepares.requests_eq_zero (message_ofError message ▸ early)
      uploads := Nat.zero_le 1
      uploaded := nofun
      published := fun success => absurd success (not_success_ofError _ error) }
  | unwritten =>
    cases tells
    exact agrees_of_lateError (by simp [earlyHeadlines, Error.headline]) (Nat.zero_le 1) nofun
  | @written draft requests text files' outcome uploads earlier _ prepares success before
      afterwards =>
    obtain ⟨rfl, whole, read, -⟩ := Artifact.write_eq_ok success
    have uploaded : ∀ upload ∈ uploads, FollowsWriting world files request
        { files := files', requests, uploads, log } upload := by
      intro upload member
      obtain ⟨bucket, body⟩ := afterwards.of_mem member
      rw [← body] at before whole read
      exact ⟨by simpa [Places.isUploaded] using bucket, ⟨draft, _, before, rfl, rfl⟩, whole, read⟩
    cases outcome with
    | error error =>
      cases tells
      exact agrees_of_lateError afterwards.headline afterwards.length_le_one uploaded
    | ok _ =>
      cases tells
      exact {
        unchanged := fun _ _ failure => absurd failure (not_failure_ofSummary _ _)
        notRequested := fun _ _ failure => absurd failure (not_failure_ofSummary _ _)
        uploads := afterwards.length_le_one
        uploaded
        published := fun _ =>
          ⟨_, _, isPublished_of_draft prepares read afterwards.ne_nil_iff⟩ }

end Reports

/-- No build makes more than one request, and the report, the file at the output path and the
upload agree in every build that ends with a report. -/
theorem run_agrees (world : World) (files : FileTree) (request : Json) :
    (run world files request).progress.requests ≤ 1 ∧
      ∀ report, (run world files request).outcome = .ok report →
        Agrees world files request report (run world files request).progress :=
  ⟨requests_run_le_one, fun _ reported => agrees_of_report reported⟩

/-- The rules of a site without observances. -/
def bareRules : Text :=
  "\x7b\"window\": \x7b\"daysBefore\": 5, \"daysAfter\": 2\x7d, \"priorityOrder\": [], " ++
    "\"events\": []\x7d"

/-- The files of a site without observances. -/
def bareFiles : FileTree :=
  { entries := [(["site"], .directory),
      (["site", "rules.json"], .file (Utf8.encode bareRules))]
    workingDirectory := ["site"] }

/-- A world with an empty feed, in which uploads may be refused. -/
def bareWorld (uploadFailure : Option UploadError) : World :=
  { environment := [("CAL_ICS_URL", "https://feed.example.org/data"),
      ("RULES_PATH", "rules.json"), ("OUTPUT_PATH", "out.json"), ("ARTIFACT_BUCKET", "site")]
    today := ⟨2024, 6, 1, by decide⟩
    now := .ok ⟨⟨2024, 6, 1, by decide⟩, ⟨12, 0, 0, 0⟩, some 0⟩
    elapsed := .ofDecimal false 25 (-2)
    fetch := fun _ => .answer (.plain 200 [])
    uploadFailure }

theorem status?_bareWorld :
    (run (bareWorld none) bareFiles .null).status? = some Report.success := by
  decide +kernel

theorem run_agrees_bareWorld : ∃ report schedule document,
    (run (bareWorld none) bareFiles .null).outcome = .ok report ∧
    IsPublished (bareWorld none) report (run (bareWorld none) bareFiles .null).progress schedule
      document := by
  obtain ⟨report, reported, status⟩ := Finished.status?_eq_some.mp status?_bareWorld
  obtain ⟨schedule, document, published⟩ :=
    ((run_agrees (bareWorld none) bareFiles .null).2 report reported).published status
  exact ⟨report, schedule, document, reported, published⟩

end Observance.Build
