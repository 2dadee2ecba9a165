import Observance.Build.Run
import Observance.Proofs.Result

/-! # What each stage does

Each stage is described by what it gives, which depends on what it finds and not on the log, and
by what it changes. Only writing changes files, only fetching makes requests, and only uploading
adds uploads; every stage adds to the log.
-/

namespace Observance.Build

open Result

section Steps

variable {α β : Type} (progress : Progress)

theorem run_bind (part : Stage α) (next : α → Stage β) :
    (part >>= next).run progress =
      match part.run progress with
      | (.ok value, after) => (next value).run after
      | (.error error, after) => (.error error, after) := by
  have unfolded : (part >>= next).run progress =
      ExceptT.bindCont next (part.run progress).1 (part.run progress).2 := rfl
  rw [unfolded]
  cases part.run progress with
  | mk result after => cases result <;> rfl

theorem run_pure (value : α) : (pure value : Stage α).run progress = (.ok value, progress) := rfl

theorem run_get : (get : Stage Progress).run progress = (.ok progress, progress) := rfl

theorem run_modify (change : Progress → Progress) :
    (modify change : Stage Unit).run progress = (.ok (), change progress) := rfl

theorem run_note (entries : List Log.Entry) :
    (note entries).run progress = (.ok (), { progress with log := progress.log ++ entries }) := rfl

theorem run_stage (result : Except Error α) :
    (stage result).run progress = (result, progress) := rfl

end Steps

section Results

def readRules (world : World) (files : FileTree) (path : String) : Except Error RuleSet := do
  let text ← (files.readText path).mapError .ruleFile
  (RuleSet.ofText text world.documentRoom world.patternRoom).mapError .rules

def readFeed (exchange : Web.Exchange) : Except Error (List FeedEvent) :=
  (exchange.feedText.map Feed.events).mapError .feed

def makeSchedule (world : World) (settings : Settings) (rules : RuleSet) (feed : List FeedEvent) :
    Except Error CheckedSchedule := do
  let resolver ← (Resolver.make (settings.today.getD world.today) settings.lookahead).mapError
    (.resolution ∘ .date)
  let events ← (resolver.resolve rules.rules feed).mapError .resolution
  (Schedule.buildBy world.now rules.window rules.priorityOrder events).mapError .schedule

/-- How rules and a feed fail to give a schedule. -/
inductive NotScheduled (world : World) (settings : Settings) (rules : RuleSet)
    (feed : List FeedEvent) : Error → Prop
  | lookahead {cause : DateError}
      (failed : Resolver.make (settings.today.getD world.today) settings.lookahead = .error cause) :
      NotScheduled world settings rules feed (.resolution (.date cause))
  | resolution {resolver : Resolver} {cause : ResolutionError}
      (made : Resolver.make (settings.today.getD world.today) settings.lookahead = .ok resolver)
      (failed : resolver.resolve rules.rules feed = .error cause) :
      NotScheduled world settings rules feed (.resolution cause)
  | schedule {resolver : Resolver} {events : List (Event Text)} {cause : ScheduleError}
      (made : Resolver.make (settings.today.getD world.today) settings.lookahead = .ok resolver)
      (resolved : resolver.resolve rules.rules feed = .ok events)
      (failed : Schedule.buildBy world.now rules.window rules.priorityOrder events = .error cause) :
      NotScheduled world settings rules feed (.schedule cause)

theorem makeSchedule_eq_error {world : World} {settings : Settings} {rules : RuleSet}
    {feed : List FeedEvent} {error : Error} :
    makeSchedule world settings rules feed = .error error ↔
      NotScheduled world settings rules feed error := by
  simp only [makeSchedule, bind_eq_error, mapError_eq_error, mapError_eq_ok]
  constructor
  · rintro (⟨cause, failed, rfl⟩ | ⟨resolver, made, failure⟩)
    · exact .lookahead failed
    rcases failure with ⟨cause, failed, rfl⟩ | ⟨events, resolved, cause, failed, rfl⟩
    · exact .resolution made failed
    · exact .schedule made resolved failed
  · intro fails
    cases fails with
    | lookahead failed => exact .inl ⟨_, failed, rfl⟩
    | resolution made failed => exact .inr ⟨_, made, .inl ⟨_, failed, rfl⟩⟩
    | schedule made resolved failed => exact .inr ⟨_, made, .inr ⟨_, resolved, _, failed, rfl⟩⟩

variable (progress : Progress)

theorem loadRules_run (world : World) (path : String) : ∃ log,
    (loadRules world path).run progress =
      (readRules world progress.files path, { progress with log }) := by
  simp only [loadRules, readRules, RuleSet.ofText, run_bind, run_note, run_get, run_stage]
  cases progress.files.readText path with
  | error error => exact ⟨_, rfl⟩
  | ok text =>
    simp only [mapError_ok, bind, Except.bind]
    cases RuleSet.readText text world.documentRoom with
    | error error => exact ⟨_, rfl⟩
    | ok value =>
      simp only [mapError_ok]
      cases RuleSet.ofJson value world.patternRoom with
      | error error => exact ⟨_, rfl⟩
      | ok rules => exact ⟨_, rfl⟩

theorem fetchFeed_run (exchange : Web.Exchange) : ∃ log,
    (fetchFeed exchange).run progress = (readFeed exchange,
      { progress with requests := progress.requests + exchange.requestCount, log }) := by
  simp only [fetchFeed, readFeed, run_bind, run_note, run_modify]
  cases exchange.feedText with
  | error error => exact ⟨_, rfl⟩
  | ok text => exact ⟨_, rfl⟩

theorem resolve_run (world : World) (settings : Settings) (rules : RuleSet)
    (feed : List FeedEvent) : ∃ log,
    (resolve world settings rules feed).run progress =
      (makeSchedule world settings rules feed, { progress with log }) := by
  simp only [resolve, makeSchedule, run_bind, run_note, run_stage]
  cases Resolver.make (settings.today.getD world.today) settings.lookahead with
  | error error => exact ⟨_, rfl⟩
  | ok resolver =>
    simp only [mapError_ok, bind, Except.bind]
    cases resolver.resolve rules.rules feed with
    | error error => exact ⟨_, rfl⟩
    | ok events =>
      simp only [mapError_ok]
      cases Schedule.buildBy world.now rules.window rules.priorityOrder events with
      | error error => exact ⟨_, rfl⟩
      | ok schedule => exact ⟨_, rfl⟩

theorem write_run (places : Places) (world : World) (schedule : CheckedSchedule) : ∃ log,
    (write places world schedule).run progress =
      ((Artifact.write world.device progress.files places.outputPath schedule).2.mapError .writing,
        { progress with
          files := (Artifact.write world.device progress.files places.outputPath schedule).1
          log }) := by
  simp only [write, run_bind, run_note, run_get, run_modify, run_stage]
  cases Artifact.write world.device progress.files places.outputPath schedule with
  | mk files written =>
    cases written with
    | error error => exact ⟨_, rfl⟩
    | ok text => exact ⟨_, rfl⟩

end Results

end Observance.Build
