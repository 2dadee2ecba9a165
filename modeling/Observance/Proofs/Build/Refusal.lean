import Observance.Proofs.Build.Escape
import Observance.Proofs.Web.Client

/-! # Responses that are refused

A response is refused if its status reports an error. Every other response is taken for a success,
whatever its status: a client and a build do the same as if the status were the one for success. So
a response that only says where something has moved is read as a feed, and its schedule takes the
place of the previous one.
-/

namespace Observance

open Result

namespace Web

def Response.IsSuccess (response : Response) : Prop :=
  200 ≤ response.status ∧ response.status < 300

def Response.asSuccess (response : Response) : Response := { response with status := 200 }

namespace Exchange

variable {response : Response}

theorem received_asSuccess : (answer response.asSuccess).received = .ok response.asSuccess := rfl

theorem feedText_refused (refused : response.isRefused = true) :
    (answer response).feedText = .error response.refused := by
  rw [feedText, received_refused refused]
  rfl

/-- A response that is not refused is received as a success. -/
theorem feedText_taken (taken : response.isRefused = false) :
    (answer response).feedText = (answer response.asSuccess).feedText := by
  rw [feedText, feedText, received_taken taken, received_asSuccess]
  rfl

theorem schedule?_refused (refused : response.isRefused = true) :
    (answer response).schedule? = .ok none := by
  rw [schedule?, document?, received_refused refused]
  rfl

theorem schedule?_taken (taken : response.isRefused = false) :
    (answer response).schedule? = (answer response.asSuccess).schedule? := by
  rw [schedule?, schedule?, document?, document?, received_taken taken,
    received_asSuccess]
  rfl

end Exchange

end Web

namespace Build

open Web (Response)

variable {world : World} {files : FileTree} {request : Json} {response : Response}

/-- A world in which a response is what comes of each request for a feed. -/
def World.Answers (world : World) (response : Response) : Prop :=
  ∀ address timeout, world.fetch (Web.feedRequest address timeout) = .answer response

/-- No feed is read from a refused response. -/
theorem readFeed_ne_ok (refused : response.isRefused = true) {feed : List FeedEvent} :
    readFeed (.answer response) ≠ .ok feed := by
  intro success
  obtain ⟨text, success, -⟩ := map_eq_ok.mp (mapError_eq_ok.mp success)
  rw [Web.Exchange.feedText_refused refused] at success
  cases success

/-- With a refused feed the stages end before anything is written. -/
theorem Ends.of_isRefused {outcome : Except Error Summary} {left : Progress}
    (answered : world.Answers response) (refused : response.isRefused = true)
    (ends : Ends world files request outcome left) :
    (∃ error, outcome = .error error) ∧ left.files = files ∧ left.uploads = [] := by
  have unprepared {draft : Draft} {requests : Nat} :
      ¬ Prepares world files request (.ok draft) requests := by
    intro prepares
    cases prepares with
    | done _ _ hasFeed _ =>
      rw [Settings.feedRequest, answered] at hasFeed
      exact readFeed_ne_ok refused hasFeed
  cases ends with
  | unprepared => exact ⟨⟨_, rfl⟩, rfl, rfl⟩
  | unwritten prepares => exact absurd prepares unprepared
  | written prepares => exact absurd prepares unprepared

/-- A build with a refused feed changes no file and uploads nothing. It reports a failure unless
there is a reason to end without a report. -/
theorem unpublished_of_isRefused (answered : world.Answers response)
    (refused : response.isRefused = true) :
    (run world files request).progress.files = files ∧
      (run world files request).progress.uploads = [] ∧
      (IsInvocation request → ¬ Escapes world files request →
        (run world files request).status? = some Report.failure) := by
  refine ⟨?_, ?_, fun invocation noReason => ?_⟩
  · rcases run_cases world files request with ⟨_, -, ended⟩ | ⟨_, _, _, _, -, ends, left, -⟩
    · rw [ended]
    · rw [left]
      exact (ends.of_isRefused answered refused).2.1
  · rcases run_cases world files request with ⟨_, -, ended⟩ | ⟨_, _, _, _, -, ends, left, -⟩
    · rw [ended]
    · rw [left]
      exact (ends.of_isRefused answered refused).2.2
  · obtain ⟨report, reported, -⟩ := (returns_iff invocation).mpr noReason
    obtain ⟨outcome, _, _, ends, -, tells⟩ := ends_of_report world files request reported
    obtain ⟨⟨error, rfl⟩, -⟩ := ends.of_isRefused answered refused
    cases tells
    exact Finished.status?_eq_some.mpr ⟨_, reported, rfl⟩

/-- A build depends on what comes of its request only through the number of requests that are sent
and the text of the feed. -/
theorem run_congr_feed {fetch : Web.Fetch}
    (sent : ∀ address timeout, (world.fetch (Web.feedRequest address timeout)).requestCount =
      (fetch (Web.feedRequest address timeout)).requestCount)
    (same : ∀ address timeout, (world.fetch (Web.feedRequest address timeout)).feedText =
      (fetch (Web.feedRequest address timeout)).feedText) :
    run world files request = run { world with fetch } files request := by
  have stages_congr : stages world request = stages { world with fetch } request := by
    have fetches (settings : Settings) :
        fetchFeed (world.fetch settings.feedRequest) = fetchFeed (fetch settings.feedRequest) := by
      simp only [fetchFeed, Settings.feedRequest, sent, same]
    simp only [stages, fetches, loadRules, skippedEntries, resolve, publish, write, upload]
  simp only [run, stages_congr]

/-- A response that is not refused is taken for a success by every build. -/
theorem run_taken (answered : world.Answers response) (taken : response.isRefused = false) :
    run world files request =
      run { world with fetch := fun _ => .answer response.asSuccess } files request := by
  refine run_congr_feed (fun address timeout => ?_) (fun address timeout => ?_)
  · rw [answered]
    rfl
  · rw [answered]
    exact Web.Exchange.feedText_taken taken

/-- Exactly the responses with a status that reports an error are refused. With one of them the feed
fails with an error of requests, there is no schedule, and a build changes nothing; with any other
response, clients and builds do the same as with the status for success. -/
theorem refused_or_taken_for_success (response : Response) :
    (400 ≤ response.status ∧ response.status < 600 →
      (∃ error, (Web.Exchange.answer response).feedText = .error error ∧
        error.isOfRequest = true) ∧
      (Web.Exchange.answer response).schedule? = .ok none ∧
      ∀ world files request, world.Answers response →
        (run world files request).progress.files = files ∧
        (run world files request).progress.uploads = [] ∧
        (IsInvocation request → ¬ Escapes world files request →
          (run world files request).status? = some Report.failure)) ∧
    (¬ (400 ≤ response.status ∧ response.status < 600) →
      (Web.Exchange.answer response).feedText = (Web.Exchange.answer response.asSuccess).feedText ∧
      (Web.Exchange.answer response).schedule? =
        (Web.Exchange.answer response.asSuccess).schedule? ∧
      ∀ world files request, world.Answers response →
        run world files request =
          run { world with fetch := fun _ => .answer response.asSuccess } files request) := by
  rw [← Response.isRefused_iff, Bool.not_eq_true]
  refine ⟨fun refused => ?_, fun taken => ?_⟩
  · exact ⟨⟨_, Web.Exchange.feedText_refused refused, rfl⟩, Web.Exchange.schedule?_refused refused,
      fun world files request answered => unpublished_of_isRefused answered refused⟩
  · exact ⟨Web.Exchange.feedText_taken taken, Web.Exchange.schedule?_taken taken,
      fun world files request answered => run_taken answered taken⟩

def moved (body : Text.Bytes) : Response := .plain 301 body

/-- The world of a site without observances, whose feed has moved. -/
def movedWorld : World := { bareWorld none with fetch := fun _ => .answer (moved []) }

/-- A feed that has moved is read as one without events. -/
theorem refused_or_taken_for_success_moved :
    ¬ (400 ≤ (moved []).status ∧ (moved []).status < 600) ∧ movedWorld.Answers (moved []) ∧
      (run movedWorld bareFiles .null).status? = some Report.success := by
  have taken := (refused_or_taken_for_success (moved [])).2 (by decide)
  refine ⟨by decide, fun _ _ => rfl, ?_⟩
  rw [taken.2.2 movedWorld bareFiles .null fun _ _ => rfl]
  exact status?_bareWorld

/-- Not every response without a status of success is a failure: neither for the feed, nor for the
schedule, nor for the build. -/
theorem exists_not_success_taken :
    (¬ ∀ response : Response, ¬ response.IsSuccess →
      ∃ error, (Web.Exchange.answer response).feedText = .error error ∧
        error.isOfRequest = true) ∧
    (¬ ∀ response : Response, ¬ response.IsSuccess →
      (Web.Exchange.answer response).schedule? = .ok none) ∧
    ¬ ∀ (world : World) (files : FileTree) (request : Json) (response : Response),
      world.Answers response → ¬ response.IsSuccess →
        (run world files request).status? = some Report.failure := by
  have outside (body : Text.Bytes) : ¬ (moved body).IsSuccess :=
    fun success => absurd success.2 (show ¬ 301 < 300 by decide)
  refine ⟨fun fails => ?_, fun fails => ?_, fun fails => ?_⟩
  · obtain ⟨error, failure, -⟩ := fails (moved []) (outside [])
    cases failure
  · -- The body holds an object without fields.
    exact absurd (fails (moved [123, 32, 32, 125]) (outside _)) (by decide +kernel)
  · have failed := fails movedWorld bareFiles .null (moved []) (fun _ _ => rfl) (outside [])
    have answered : movedWorld.Answers (moved []) := fun _ _ => rfl
    rw [run_taken answered rfl] at failed
    exact absurd (status?_bareWorld.symm.trans failed) (by decide)

end Build

end Observance
