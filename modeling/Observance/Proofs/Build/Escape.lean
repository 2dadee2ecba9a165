import Observance.Proofs.Build.Agreement
import Observance.Proofs.Json.Nesting
import Observance.Proofs.Rule.Violation

/-! # Builds that end without a report

Every stage reports the errors that are foreseen. A build that is asked for no reference day, or
for one that is a text, ends without a report for a few reasons only: the log's threshold has the
name of a layout, the values of the rule document or the groups of a pattern lie deeper in one
another than there is room for, a pattern asks for more than a search can do, the lookahead leads to
a year beyond what can be counted to, a search fails, or the clock is out of range. Each of them is
an error of a kind that the stage at which it comes up does not look for.
-/

namespace Observance.Build

open Calendar Result

/-- A request that asks for no reference day, or for one that is a text. -/
def IsInvocation : Json → Prop
  | .null => True
  | .object fields =>
    match Fields.get? fields "today" with
    | none | some .null | some (.text _) => True
    | some _ => False
  | _ => False

/-- A text that is, in capitals, the name of a layout or of the table of layouts. -/
def NamesLayout (name : Text) : Prop :=
  ∃ layout ∈ (["BASIC_FORMAT", "_STYLES"] : List Text), Text.capitalizesTo name layout = true

variable {world : World} {files : FileTree} {request : Json}

def Settings.referenceDay (settings : Settings) (world : World) : Date :=
  settings.today.getD world.today

/-- The text of a rule file has a value that lies deeper than there is room for, or a pattern that
asks for more than a search can do or than there is room for, and that is its first violation. -/
inductive RulesEscape (world : World) (files : FileTree) (path : String) : Prop
  | document {text : Text} {container : Json.Container}
      (hasText : files.readText path = .ok text)
      (tooDeep : Json.read text world.documentRoom = .error (.tooDeep container))
  | pattern {text : Text} {value : Json} {document : RuleDocument}
      (hasText : files.readText path = .ok text)
      (hasValue : Json.read text world.documentRoom = .ok value)
      (hasShape : RuleDocument.ofJson value = .ok document)
      (asks : document.AsksTooMuch world.patternRoom)

/-- The search for the pattern of a rule fails for some event of the feed, and the rules before it
can be resolved. -/
inductive SearchEscapes (resolver : Resolver) (rules : List Rule) (feed : List FeedEvent) : Prop
  | intro {before after : List Rule} {rule : Rule} {pattern : Pattern}
      {events : List (Event Text)} {event : FeedEvent} {fault : Pattern.SearchFault}
      (split : rules = before ++ rule :: after)
      (resolved : resolver.resolveAll feed before = .ok events)
      (calendar : rule.dateRule = .calendar pattern)
      (inFeed : event ∈ feed)
      (failed : pattern.search (event.summary.getD "") = .error fault)

/-- The reasons for a schedule to fail without a report: the end of the lookahead is out of reach,
a search fails, the clock overflows, or its universal time is outside the calendar. -/
inductive ScheduleEscapes (world : World) (settings : Settings) (rules : RuleSet)
    (feed : List FeedEvent) : Prop
  | lookahead (beyond : ¬ IsPart ((settings.referenceDay world).yearAfter settings.lookahead))
  | search {resolver : Resolver}
      (made : Resolver.make (settings.referenceDay world) settings.lookahead = .ok resolver)
      (escapes : SearchEscapes resolver rules.rules feed)
  | clock {resolver : Resolver} {events : List (Event Text)} {cause : DateError}
      (made : Resolver.make (settings.referenceDay world) settings.lookahead = .ok resolver)
      (resolved : resolver.resolve rules.rules feed = .ok events)
      (failed : world.now = .error cause) (overflow : cause.isOverflow = true)
  | universal {resolver : Resolver} {events : List (Event Text)} {moment : Moment}
      (made : Resolver.make (settings.referenceDay world) settings.lookahead = .ok resolver)
      (resolved : resolver.resolve rules.rules feed = .ok events)
      (read : world.now = .ok moment) (beyond : moment.toUniversal = .error .outsideCalendar)

/-- The reasons for a build to end without a report. -/
inductive Escapes (world : World) (files : FileTree) (request : Json) : Prop
  | logLevel (layout : NamesLayout world.logLevel)
  | rules {settings : Settings}
      (hasSettings : Settings.read world.environment request = .ok settings)
      (escapes : RulesEscape world files world.places.rulesPath)
  | schedule {settings : Settings} {rules : RuleSet} {feed : List FeedEvent}
      (hasSettings : Settings.read world.environment request = .ok settings)
      (hasRules : readRules world files world.places.rulesPath = .ok rules)
      (hasFeed : readFeed (world.fetch settings.feedRequest) = .ok feed)
      (escapes : ScheduleEscapes world settings rules feed)

/-- However much room there is for a rule document, it runs out in a file in which enough arrays are
opened. -/
theorem Escapes.ofBrackets {settings : Settings} {levels : Nat} {rest : Text}
    (limited : world.documentRoom = some levels)
    (hasSettings : Settings.read world.environment request = .ok settings)
    (hasText : files.readText world.places.rulesPath =
      .ok (List.replicate (levels + 1) (.char '[') ++ rest)) : Escapes world files request :=
  .rules hasSettings (.document hasText (limited ▸ Json.read_brackets levels rest))

section Stages

variable {error : Error}

theorem exists_thresholdOf_error {name : Text} :
    (∃ error, Log.thresholdOf name = .error error) ↔ NamesLayout name := by
  have found : (Log.layoutNames.find? (Text.capitalizesTo name ·.1)).isSome = true ↔
      NamesLayout name := by
    rw [List.find?_isSome]
    simp [NamesLayout, Log.layoutNames]
  rw [← found]
  unfold Log.thresholdOf
  simp only
  split
  next layout => simp [layout]
  next plain _ => simp [plain]
  next plain _ => simp [plain]

theorem isReported_of_readToday (invocation : IsInvocation request)
    (failure : readToday request = .error error) : error.isReported = true := by
  unfold readToday at failure
  split at failure
  · cases failure
  · cases request with
    | object fields =>
      simp only [IsInvocation] at invocation failure
      split at failure
      · cases failure
      next text =>
        split at failure
        · cases failure
        · split at failure
          · cases failure
          next cause malformed =>
            cases failure
            simp only [Error.isReported, Date.isOverflow_of_ofText malformed, Bool.not_false]
      next value notText present =>
        rw [present] at invocation
        cases value with
        | null => cases failure
        | text text => exact absurd rfl (notText text)
        | _ => exact invocation.elim
    | null => contradiction
    | _ => exact invocation.elim

/-- Errors of the settings are reported. -/
theorem isReported_of_settings {environment : Environment} (invocation : IsInvocation request)
    (failure : Settings.read environment request = .error error) : error.isReported = true := by
  have isReported_of_setting {name : String} {usual : Int}
      (failure : readSetting environment name usual = .error error) : error.isReported = true := by
    unfold readSetting at failure
    split at failure
    · cases failure
    · obtain ⟨cause, -, rfl⟩ := mapError_eq_error.mp failure
      rfl
  unfold Settings.read at failure
  simp only at failure
  split at failure
  · cases failure
    rfl
  · simp only [bind_eq_error, pure_ne_error, and_false, exists_false, or_false] at failure
    rcases failure with lookahead | ⟨_, -, timeout | ⟨_, -, today⟩⟩
    · exact isReported_of_setting lookahead
    · exact isReported_of_setting timeout
    · exact isReported_of_readToday invocation today

theorem isForeseen_unreadable {text : Text} {error : Json.ReadError} :
    (RuleError.unreadable text error).isForeseen = false ↔
      ∃ container, error = .tooDeep container := by
  cases error <;> simp [RuleError.isForeseen]

/-- The rules of a file fail without a report exactly on account of values that lie too deep, or of
a pattern that asks too much. -/
theorem readRules_escapes_iff {path : String} :
    (∃ error, readRules world files path = .error error ∧ error.isReported = false) ↔
      RulesEscape world files path := by
  constructor
  · rintro ⟨error, failure, unreported⟩
    rcases bind_eq_error.mp failure with failure | ⟨text, hasText, failure⟩
    · obtain ⟨cause, -, rfl⟩ := mapError_eq_error.mp failure
      cases unreported
    · obtain ⟨cause, refused, rfl⟩ := mapError_eq_error.mp failure
      rcases bind_eq_error.mp refused with unreadable | ⟨value, hasValue, refused⟩
      · obtain ⟨cause, failed, rfl⟩ := mapError_eq_error.mp unreadable
        obtain ⟨container, rfl⟩ := isForeseen_unreadable.mp unreported
        exact .document (mapError_eq_ok.mp hasText) failed
      · obtain ⟨document, hasShape, asks⟩ :=
          RuleSet.exists_ofJson_error.mp ⟨cause, refused, unreported⟩
        exact .pattern (mapError_eq_ok.mp hasText) (mapError_eq_ok.mp hasValue) hasShape asks
  · have refuses {text : Text} {cause : RuleError} (hasText : files.readText path = .ok text)
        (refused : RuleSet.ofText text world.documentRoom world.patternRoom = .error cause) :
        readRules world files path = .error (.rules cause) :=
      bind_eq_error.mpr (.inr ⟨text, mapError_eq_ok.mpr hasText,
        mapError_eq_error.mpr ⟨cause, refused, rfl⟩⟩)
    intro escapes
    cases escapes with
    | @document text container hasText tooDeep =>
      have refused : RuleSet.readText text world.documentRoom =
          .error (.unreadable text (.tooDeep container)) :=
        mapError_eq_error.mpr ⟨_, tooDeep, rfl⟩
      exact ⟨_, refuses hasText (bind_eq_error.mpr (.inl refused)), rfl⟩
    | pattern hasText hasValue hasShape asks =>
      obtain ⟨cause, refused, unforeseen⟩ := RuleSet.exists_ofJson_error.mpr ⟨_, hasShape, asks⟩
      exact ⟨_, refuses hasText
        (bind_eq_error.mpr (.inr ⟨_, mapError_eq_ok.mpr hasValue, refused⟩)),
        unforeseen⟩

theorem timestamp_eq_error {moment : Moment} {error : DateError} :
    moment.timestamp = .error error ↔
      moment.toUniversal = .error .outsideCalendar ∧ error = .outsideCalendar := by
  simp only [Moment.timestamp, bind_eq_error, pure_ne_error, and_false, exists_false, or_false]
  have only {error : DateError} (failure : moment.toUniversal = .error error) :
      error = .outsideCalendar := by
    simp only [Moment.toUniversal] at failure
    split at failure
    · cases failure
      rfl
    · cases failure
  constructor
  · intro failure
    cases only failure
    exact ⟨failure, rfl⟩
  · rintro ⟨failure, rfl⟩
    exact failure

theorem make_eq_error {today : Date} {lookahead : Int} {cause : DateError} :
    Resolver.make today lookahead = .error cause ↔ today.addMonths lookahead = .error cause := by
  simp only [Resolver.make, bind_eq_error, pure_ne_error, and_false, exists_false, or_false]

theorem exists_resolve_search {resolver : Resolver} {rules : List Rule} {feed : List FeedEvent} :
    (∃ fault, resolver.resolve rules feed = .error (.search fault)) ↔
      SearchEscapes resolver rules feed := by
  constructor
  · rintro ⟨fault, failed⟩
    obtain ⟨before, rule, after, events, split, resolved, failure⟩ :=
      Resolver.resolveAll_eq_error.mp (Resolver.resolve_eq_error.mp failed)
    obtain ⟨pattern, calendar, event, inFeed, fault, failed⟩ :=
      Resolver.exists_resolveRule_search.mp ⟨fault, failure⟩
    exact .intro split resolved calendar inFeed failed
  · rintro ⟨split, resolved, calendar, inFeed, failed⟩
    obtain ⟨fault, failure⟩ :=
      Resolver.exists_resolveRule_search.mpr ⟨_, calendar, _, inFeed, _, failed⟩
    exact ⟨fault, Resolver.resolve_eq_error.mpr
      (Resolver.resolveAll_eq_error.mpr ⟨_, _, _, _, split, resolved, failure⟩)⟩

section Schedules

variable {settings : Settings} {rules : RuleSet} {feed : List FeedEvent}

/-- An error of a schedule from usable rules that is not reported has one of the reasons above. -/
theorem NotScheduled.escapes (usable : rules.IsUsable)
    (fails : NotScheduled world settings rules feed error) (unreported : error.isReported = false) :
    ScheduleEscapes world settings rules feed := by
  cases fails with
  | @lookahead cause failed =>
    have overflow : cause.isOverflow = true := by
      simpa [Error.isReported, ResolutionError.isForeseen] using unreported
    exact .lookahead ((Date.addMonths_overflows_iff _ _).mp
      ⟨cause, make_eq_error.mp failed, overflow⟩)
  | @resolution resolver cause made failed =>
    cases cause with
    | date cause =>
      have := Resolver.isOverflow_of_resolve usable.rules failed
      simp [Error.isReported, ResolutionError.isForeseen, this] at unreported
    | search fault => exact .search made (exists_resolve_search.mp ⟨fault, failed⟩)
  | schedule made resolved failed =>
    have publishable := isPublishable_of_resolve usable resolved
    obtain ⟨cause, noMoment, rfl⟩ := (Schedule.buildBy_eq_error publishable).mp failed
    rcases bind_eq_error.mp noMoment with noClock | ⟨moment, read, noTimestamp⟩
    · exact .clock made resolved noClock (by simpa [Error.isReported] using unreported)
    · exact .universal made resolved read (timestamp_eq_error.mp noTimestamp).1

/-- Each of the reasons above leads to an error that is not reported. -/
theorem ScheduleEscapes.exists_notScheduled (usable : rules.IsUsable)
    (escapes : ScheduleEscapes world settings rules feed) :
    ∃ error, NotScheduled world settings rules feed error ∧ error.isReported = false := by
  cases escapes with
  | lookahead beyond =>
    obtain ⟨cause, failed, overflow⟩ := (Date.addMonths_overflows_iff _ _).mpr beyond
    refine ⟨_, .lookahead (make_eq_error.mpr failed), ?_⟩
    simp [Error.isReported, ResolutionError.isForeseen, overflow]
  | search made escapes =>
    obtain ⟨fault, failed⟩ := exists_resolve_search.mpr escapes
    exact ⟨_, .resolution made failed, rfl⟩
  | @clock resolver events cause made resolved failed overflow =>
    have publishable := isPublishable_of_resolve usable resolved
    have failure : Schedule.buildBy world.now rules.window rules.priorityOrder events =
        .error (.moment cause) :=
      (Schedule.buildBy_eq_error publishable).mpr ⟨_, bind_eq_error.mpr (.inl failed), rfl⟩
    exact ⟨_, .schedule made resolved failure, by simp [Error.isReported, overflow]⟩
  | @universal resolver events moment made resolved read beyond =>
    have publishable := isPublishable_of_resolve usable resolved
    have failed : Schedule.buildBy world.now rules.window rules.priorityOrder events =
        .error (.moment .outsideCalendar) :=
      (Schedule.buildBy_eq_error publishable).mpr
        ⟨_, bind_eq_error.mpr (.inr ⟨_, read, timestamp_eq_error.mpr ⟨beyond, rfl⟩⟩), rfl⟩
    exact ⟨_, .schedule made resolved failed, rfl⟩

end Schedules

/-- An error up to a schedule is not reported for one of the reasons above. -/
theorem Prepares.escapes_of_not_isReported {requests : Nat} (invocation : IsInvocation request)
    (prepares : Prepares world files request (.error error) requests)
    (unreported : error.isReported = false) : Escapes world files request := by
  cases prepares with
  | noSettings settings =>
    rw [isReported_of_settings invocation settings] at unreported
    cases unreported
  | noRules hasSettings failure =>
    exact .rules hasSettings (readRules_escapes_iff.mp ⟨error, failure, unreported⟩)
  | noFeed _ _ failure =>
    obtain ⟨cause, rfl⟩ := readFeed_error failure
    cases unreported
  | noSchedule hasSettings hasRules hasFeed failure =>
    have usable := isUsable_of_readRules hasRules
    exact .schedule hasSettings hasRules hasFeed
      ((makeSchedule_eq_error.mp failure).escapes usable unreported)

/-- Past the log's threshold, the reasons above lead to an error that is not reported. -/
theorem Escapes.exists_prepares {threshold : Nat} (escapes : Escapes world files request)
    (level : Log.thresholdOf world.logLevel = .ok threshold) : ∃ error requests,
      Prepares world files request (.error error) requests ∧ error.isReported = false := by
  cases escapes with
  | logLevel layout =>
    obtain ⟨error, failure⟩ := exists_thresholdOf_error.mpr layout
    rw [level] at failure
    cases failure
  | rules hasSettings escapes =>
    obtain ⟨error, failure, unreported⟩ := readRules_escapes_iff.mpr escapes
    exact ⟨error, _, .noRules hasSettings failure, unreported⟩
  | schedule hasSettings hasRules hasFeed escapes =>
    obtain ⟨error, fails, unreported⟩ :=
      escapes.exists_notScheduled (isUsable_of_readRules hasRules)
    exact ⟨error, _, .noSchedule hasSettings hasRules hasFeed (makeSchedule_eq_error.mpr fails),
      unreported⟩

theorem Uploads.isReported {text : Text} {uploads : List Upload}
    (ends : Uploads world text (.error error) uploads) : error.isReported = true := by
  cases ends <;> rfl

/-- An error that is not reported is one up to a schedule. -/
theorem Ends.exists_prepares {left : Progress}
    (ends : Ends world files request (.error error) left) (unreported : error.isReported = false) :
    ∃ requests, Prepares world files request (.error error) requests := by
  generalize failed : (.error error : Except Error Summary) = outcome at ends
  cases ends with
  | unprepared prepares =>
    cases failed
    exact ⟨_, prepares⟩
  | unwritten =>
    cases failed
    cases unreported
  | written _ _ _ afterwards =>
    rw [map_eq_error.mp failed.symm] at afterwards
    rw [afterwards.isReported] at unreported
    cases unreported

/-- An error up to a schedule is how the stages end. -/
theorem Ends.eq_of_prepares {outcome : Except Error Summary} {left : Progress} {requests : Nat}
    (ends : Ends world files request outcome left)
    (stopped : Prepares world files request (.error error) requests) : outcome = .error error := by
  cases ends with
  | unprepared prepares =>
    cases (prepares.unique stopped).1
    rfl
  | unwritten prepares => cases (prepares.unique stopped).1
  | written prepares => cases (prepares.unique stopped).1

end Stages

theorem Tells.status {outcome : Except Error Summary} {report : Report}
    (tells : Tells world outcome report) :
    report.status = Report.success ∨ report.status = Report.failure := by
  cases tells with
  | summary => exact .inl rfl
  | error => exact .inr rfl

/-- A build ends with a report of success or failure unless one of the reasons above holds. -/
theorem returns_iff (invocation : IsInvocation request) :
    (∃ report, (run world files request).outcome = .ok report ∧
      (report.status = Report.success ∨ report.status = Report.failure)) ↔
      ¬ Escapes world files request := by
  rcases run_cases world files request with ⟨error, layout, ended⟩ |
    ⟨threshold, outcome, progress, log, level, ends, -, concludes⟩
  · have escapes : Escapes world files request :=
      .logLevel (exists_thresholdOf_error.mp ⟨error, layout⟩)
    simp [ended, escapes]
  · constructor
    · rintro ⟨report, reported, -⟩ escapes
      obtain ⟨error, requests, stopped, unreported⟩ := escapes.exists_prepares level
      cases ends.eq_of_prepares stopped
      rw [reported] at concludes
      cases concludes with
      | told _ foreseen =>
        rw [foreseen error rfl] at unreported
        cases unreported
    · intro noReason
      generalize (run world files request).outcome = conclusion at concludes
      cases concludes with
      | told tells => exact ⟨_, rfl, tells.status⟩
      | untold unforeseen =>
        obtain ⟨requests, stopped⟩ := ends.exists_prepares unforeseen
        exact absurd (stopped.escapes_of_not_isReported invocation unforeseen) noReason

theorem returns_iff_bareWorld :
    IsInvocation .null ∧ ¬ Escapes (bareWorld none) bareFiles .null := by
  have invocation : IsInvocation .null := trivial
  obtain ⟨report, reported, status⟩ := Finished.status?_eq_some.mp status?_bareWorld
  exact ⟨invocation, (returns_iff invocation).mp ⟨report, reported, .inl status⟩⟩

/-- A world in which a build looks farther ahead than can be counted to. -/
def farsightedWorld : World :=
  { bareWorld none with
    environment := ("LOOKAHEAD_MONTHS", "1000000000000") :: (bareWorld none).environment }

/-- Not every build that is asked for no reference day ends with a report: a lookahead may be out of
reach. -/
theorem exists_invocation_escapes : ¬ ∀ (world : World) (files : FileTree) (request : Json),
    IsInvocation request → ∃ report, (run world files request).outcome = .ok report ∧
      (report.status = Report.success ∨ report.status = Report.failure) := by
  intro returns
  have unreported : (run farsightedWorld bareFiles .null).status? = none := by decide +kernel
  obtain ⟨report, reported, -⟩ := returns farsightedWorld bareFiles .null trivial
  rw [Finished.status?_eq_some.mpr ⟨report, reported, rfl⟩] at unreported
  cases unreported

end Observance.Build
