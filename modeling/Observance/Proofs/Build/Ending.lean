import Observance.Build.Report
import Observance.Proofs.Build.Stage
import Observance.Proofs.Storage.Artifact

/-! # How a build ends

A build prepares a schedule, writes it, and then uploads it if there is a bucket. The stages that
prepare it change no file and upload nothing. So there are few ways for the stages to end, and they
are told apart by what the build leaves behind.
-/

namespace Observance.Build

open Result

/-- What is prepared before anything is written. -/
@[ext]
structure Draft where
  settings : Settings
  rules : RuleSet
  feed : List FeedEvent
  schedule : CheckedSchedule

def Draft.summary (draft : Draft) (places : Places) : Summary :=
  { rules := draft.rules.rules.length, feedEvents := draft.feed.length,
    schedule := draft.schedule, isUploaded := places.isUploaded }

variable (world : World) (files : FileTree) (request : Json)

abbrev World.places : Places := Places.ofEnvironment world.environment

/-- The stages up to a schedule. -/
def prepare : Stage Draft := do
  let settings ← stage (Settings.read world.environment request)
  note [startedEntry world.places settings]
  let rules ← loadRules world world.places.rulesPath
  let feed ← fetchFeed (world.fetch settings.feedRequest)
  let schedule ← resolve world settings rules feed
  return { settings, rules, feed, schedule }

/-- The stages up to a written text. -/
def prepareAndWrite : Stage (Draft × Text) := do
  let draft ← prepare world request
  let text ← write world.places world draft.schedule
  return (draft, text)

def uploadWritten (text : Text) : Stage Unit :=
  if world.places.isUploaded then upload world.places world text else pure ()

def finish (draft : Draft) (text : Text) : Stage Summary := do
  uploadWritten world text
  note [completedEntry world.elapsed (draft.summary world.places)]
  return draft.summary world.places

/-- A build uploads nothing before the text is written. -/
theorem stages_eq : stages world request =
    prepareAndWrite world request >>= fun written => finish world written.1 written.2 := by
  simp only [stages, prepareAndWrite, prepare, finish, uploadWritten, publish, bind_assoc,
    pure_bind, World.places, Draft.summary]

/-- How the stages up to a schedule end, and how many requests they make. -/
inductive Prepares : Except Error Draft → Nat → Prop
  | noSettings {error : Error} (settings : Settings.read world.environment request = .error error) :
      Prepares (.error error) 0
  | noRules {settings : Settings} {error : Error}
      (hasSettings : Settings.read world.environment request = .ok settings)
      (rules : readRules world files world.places.rulesPath = .error error) :
      Prepares (.error error) 0
  | noFeed {settings : Settings} {rules : RuleSet} {error : Error}
      (hasSettings : Settings.read world.environment request = .ok settings)
      (hasRules : readRules world files world.places.rulesPath = .ok rules)
      (feed : readFeed (world.fetch settings.feedRequest) = .error error) :
      Prepares (.error error) (world.fetch settings.feedRequest).requestCount
  | noSchedule {settings : Settings} {rules : RuleSet} {feed : List FeedEvent} {error : Error}
      (hasSettings : Settings.read world.environment request = .ok settings)
      (hasRules : readRules world files world.places.rulesPath = .ok rules)
      (hasFeed : readFeed (world.fetch settings.feedRequest) = .ok feed)
      (schedule : makeSchedule world settings rules feed = .error error) :
      Prepares (.error error) (world.fetch settings.feedRequest).requestCount
  | done {draft : Draft}
      (hasSettings : Settings.read world.environment request = .ok draft.settings)
      (hasRules : readRules world files world.places.rulesPath = .ok draft.rules)
      (hasFeed : readFeed (world.fetch draft.settings.feedRequest) = .ok draft.feed)
      (hasSchedule :
        makeSchedule world draft.settings draft.rules draft.feed = .ok draft.schedule) :
      Prepares (.ok draft) (world.fetch draft.settings.feedRequest).requestCount

/-- The stages up to a schedule change no file and upload nothing. -/
theorem prepare_run : ∃ outcome requests log, Prepares world files request outcome requests ∧
    (prepare world request).run { files } = (outcome, { files, requests, log }) := by
  unfold prepare
  rw [run_bind, run_stage]
  cases settings : Settings.read world.environment request with
  | error error => exact ⟨_, _, _, .noSettings settings, rfl⟩
  | ok settings' =>
    simp only [run_bind, run_note, run_pure]
    obtain ⟨log, run⟩ := loadRules_run
      { files, log := [] ++ [startedEntry world.places settings'] } world world.places.rulesPath
    rw [run]
    cases rules : readRules world files world.places.rulesPath with
    | error error => exact ⟨_, _, _, .noRules settings rules, rfl⟩
    | ok rules' =>
      obtain ⟨log, run⟩ := fetchFeed_run { files, log } (world.fetch settings'.feedRequest)
      simp only
      rw [run]
      cases feed : readFeed (world.fetch settings'.feedRequest) with
      | error error => exact ⟨_, _, _, .noFeed settings rules feed, by rw [Nat.zero_add]⟩
      | ok feed' =>
        obtain ⟨log, run⟩ := resolve_run
          { files, requests := (world.fetch settings'.feedRequest).requestCount, log }
          world settings'
          rules' feed'
        simp only [Nat.zero_add]
        rw [run]
        cases schedule : makeSchedule world settings' rules' feed' with
        | error error => exact ⟨_, _, _, .noSchedule settings rules feed schedule, rfl⟩
        | ok schedule' =>
          exact ⟨_, _, _, @Prepares.done world files request
            ⟨settings', rules', feed', schedule'⟩ settings rules feed schedule, rfl⟩

/-- The stages up to a schedule end in one way only. -/
theorem Prepares.unique {world : World} {files : FileTree} {request : Json}
    {outcome other : Except Error Draft} {requests others : Nat}
    (first : Prepares world files request outcome requests)
    (second : Prepares world files request other others) : outcome = other ∧ requests = others := by
  cases first <;> cases second <;> simp_all [Draft.ext_iff]

/-- How the upload of a written text ends, and which uploads are attempted. -/
inductive Uploads (text : Text) : Except Error Unit → List Upload → Prop
  | unwanted (noBucket : world.places.isUploaded = false) : Uploads text (.ok ()) []
  | notBegun {outage : Outage} (bucket : world.places.isUploaded = true)
      (ended : checkOutage false world.outage = .error (.outage outage)) :
      Uploads text (.error (.outage outage)) []
  | interrupted {outage : Outage} (bucket : world.places.isUploaded = true)
      (ended : checkOutage true world.outage = .error (.outage outage)) :
      Uploads text (.error (.outage outage)) [⟨world.places.bucket, world.places.key, text⟩]
  | refused {error : UploadError} (bucket : world.places.isUploaded = true)
      (refusal : world.uploadFailure = some error) :
      Uploads text (.error (.upload error)) [⟨world.places.bucket, world.places.key, text⟩]
  | stored (bucket : world.places.isUploaded = true) :
      Uploads text (.ok ()) [⟨world.places.bucket, world.places.key, text⟩]

theorem checkOutage_cases (isBegun : Bool) (outage : Option Outage) :
    checkOutage isBegun outage = .ok () ∨
      ∃ cause, checkOutage isBegun outage = .error (.outage cause) := by
  cases outage with
  | none => exact .inl rfl
  | some cause =>
    by_cases same : cause.isBegun = isBegun
    · exact .inr ⟨cause, if_pos same⟩
    · exact .inl (if_neg same)

theorem uploadWritten_run (text : Text) (progress : Progress) : ∃ outcome uploads log,
    Uploads world text outcome uploads ∧ (uploadWritten world text).run progress =
      (outcome, { progress with uploads := progress.uploads ++ uploads, log }) := by
  unfold uploadWritten
  cases bucket : world.places.isUploaded with
  | false => exact ⟨_, _, _, .unwanted bucket, by rw [List.append_nil]; rfl⟩
  | true =>
    simp only [if_true, upload, run_bind, run_stage, run_note, run_modify]
    rcases checkOutage_cases false world.outage with begun | ⟨outage, ended⟩
    · simp only [begun]
      rcases checkOutage_cases true world.outage with answered | ⟨outage, ended⟩
      · simp only [answered]
        cases refusal : world.uploadFailure with
        | some error => exact ⟨_, _, _, .refused bucket refusal, rfl⟩
        | none => exact ⟨_, _, _, .stored bucket, rfl⟩
      · simp only [ended]
        exact ⟨_, _, _, .interrupted bucket ended, rfl⟩
    · simp only [ended]
      exact ⟨_, _, _, .notBegun bucket ended, by rw [List.append_nil]⟩

/-- How the stages end, and what they leave behind. -/
inductive Ends : Except Error Summary → Progress → Prop
  | unprepared {error : Error} {requests : Nat} {log : List Log.Entry}
      (prepares : Prepares world files request (.error error) requests)
      (stopped : (prepareAndWrite world request).run { files } =
        (.error error, { files, requests, log })) :
      Ends (.error error) { files, requests, log }
  | unwritten {draft : Draft} {requests : Nat} {error : Artifact.WritingError} {left : FileTree}
      {log : List Log.Entry} (prepares : Prepares world files request (.ok draft) requests)
      (failure : Artifact.write world.device files world.places.outputPath draft.schedule =
        (left, .error error))
      (stopped : (prepareAndWrite world request).run { files } =
        (.error (.writing error), { files := left, requests, log })) :
      Ends (.error (.writing error)) { files := left, requests, log }
  | written {draft : Draft} {requests : Nat} {text : Text} {left : FileTree}
      {outcome : Except Error Unit} {uploads : List Upload} {earlier log : List Log.Entry}
      (prepares : Prepares world files request (.ok draft) requests)
      (success : Artifact.write world.device files world.places.outputPath draft.schedule =
        (left, .ok text))
      (before : (prepareAndWrite world request).run { files } =
        (.ok (draft, text), { files := left, requests, log := earlier }))
      (afterwards : Uploads world text outcome uploads) :
      Ends (outcome.map fun _ => draft.summary world.places)
        { files := left, requests, uploads, log }

/-- The stages end in one of these ways. -/
theorem stages_run : ∃ outcome progress, Ends world files request outcome progress ∧
    (stages world request).run { files } = (outcome, progress) := by
  obtain ⟨prepared, requests, log, prepares, run⟩ := prepare_run world files request
  rw [stages_eq, run_bind]
  cases prepared with
  | error error =>
    have stopped : (prepareAndWrite world request).run { files } =
        (.error error, { files, requests, log }) := by
      rw [prepareAndWrite, run_bind, run]
    exact ⟨_, _, .unprepared prepares stopped, by rw [stopped]⟩
  | ok draft =>
    obtain ⟨earlier, wrote⟩ := write_run { files, requests, log } world.places world draft.schedule
    cases written : Artifact.write world.device files world.places.outputPath draft.schedule with
    | mk left result =>
      simp only [written] at wrote
      cases result with
      | error error =>
        have stopped : (prepareAndWrite world request).run { files } =
            (.error (.writing error), { files := left, requests, log := earlier }) := by
          simp only [prepareAndWrite, run_bind, run, wrote, mapError_error]
        exact ⟨_, _, .unwritten prepares written stopped, by rw [stopped]⟩
      | ok text =>
        have before : (prepareAndWrite world request).run { files } =
            (.ok (draft, text), { files := left, requests, log := earlier }) := by
          simp only [prepareAndWrite, run_bind, run, wrote, mapError_ok, run_pure]
        obtain ⟨outcome, uploads, later, afterwards, uploaded⟩ := uploadWritten_run world text
          { files := left, requests, log := earlier }
        simp only [before, finish, run_bind, uploaded, run_note, run_pure]
        cases outcome with
        | error error => exact ⟨_, _, .written prepares written before afterwards, rfl⟩
        | ok _ => exact ⟨_, _, .written prepares written before afterwards, rfl⟩

/-- The name of the threshold of a build's log. -/
def World.logLevel : String := (world.environment.lookup "LOG_LEVEL").getD "INFO"

/-- The report that tells how the stages end. -/
inductive Tells : Except Error Summary → Report → Prop
  | summary (summary : Summary) : Tells (.ok summary) (.ofSummary world.elapsed summary)
  | error (error : Error) : Tells (.error error) (.ofError world.elapsed error)

/-- How a build concludes: with a report, unless the error is not foreseen. -/
inductive Concludes : Except Error Summary → Except Unforeseen Report → Prop
  | told {outcome : Except Error Summary} {report : Report} (tells : Tells world outcome report)
      (foreseen : ∀ error, outcome = .error error → error.isReported = true) :
      Concludes outcome (.ok report)
  | untold {error : Error} (unforeseen : error.isReported = false) :
      Concludes (.error error) (.error (.stage error))

/-- A build whose log has no threshold does not begin. Every other build runs its stages, concludes
according to how they end, and leaves what they leave. -/
theorem run_cases :
    (∃ error, Log.thresholdOf world.logLevel = .error error ∧
      run world files request = ⟨.error (.logging error), { files }⟩) ∨
    ∃ threshold outcome progress log, Log.thresholdOf world.logLevel = .ok threshold ∧
      Ends world files request outcome progress ∧
      (run world files request).progress = { progress with log } ∧
      Concludes world outcome (run world files request).outcome := by
  obtain ⟨outcome, progress, ends, stages⟩ := stages_run world files request
  unfold run
  cases level : Log.thresholdOf ((world.environment.lookup "LOG_LEVEL").getD "INFO") with
  | error error => exact .inl ⟨error, level, rfl⟩
  | ok threshold =>
    refine .inr ⟨threshold, outcome, progress, ?_⟩
    simp only [stages]
    cases outcome with
    | ok summary => exact ⟨_, level, ends, rfl, .told (.summary summary) nofun⟩
    | error error =>
      simp only [conclude]
      split
      next foreseen =>
        refine ⟨_, level, ends, rfl, .told (.error error) ?_⟩
        rintro _ ⟨⟩
        exact foreseen
      next unforeseen =>
        exact ⟨_, level, ends, rfl, .untold (Bool.not_eq_true _ ▸ unforeseen)⟩

def Finished.status? (finished : Finished) : Option Nat :=
  finished.outcome.toOption.map (·.status)

theorem Finished.status?_eq_some {finished : Finished} {status : Nat} :
    finished.status? = some status ↔
      ∃ report, finished.outcome = .ok report ∧ report.status = status := by
  simp only [status?, Option.map_eq_some_iff, toOption_eq_some]

/-- A report comes from how the stages end, and leaves what they leave. -/
theorem ends_of_report {report : Report}
    (reported : (run world files request).outcome = .ok report) :
    ∃ outcome progress log, Ends world files request outcome progress ∧
      (run world files request).progress = { progress with log } ∧ Tells world outcome report := by
  rcases run_cases world files request with ⟨error, -, ended⟩ |
    ⟨threshold, outcome, progress, log, -, ends, left, concludes⟩
  · rw [ended] at reported
    cases reported
  · rw [reported] at concludes
    cases concludes with
    | told tells => exact ⟨outcome, progress, log, ends, left, tells⟩

end Observance.Build
