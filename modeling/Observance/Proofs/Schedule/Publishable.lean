import Observance.Proofs.Calendar.DateText
import Observance.Proofs.Resolver
import Observance.Proofs.Rule.Document
import Observance.Schedule.Build

/-! # Publishable schedules

A publishable schedule has a window that documents may have, and events with six texts that are
not empty, of which two are dates. Every schedule that is built from an accepted rule document and
every schedule that is read from a document is one.
-/

namespace Observance

open Result

/-- No text of the event is empty, and its days are dates in the form of published dates. -/
structure Event.IsPublishable (event : Event Text) : Prop where
  id : event.id ≠ []
  name : event.name ≠ []
  importance : event.importance ≠ []
  themeId : event.themeId ≠ []
  startDate : ∃ start : Date, event.startDate = start.text
  endDate : ∃ stop : Date, event.endDate = stop.text

/-- The window is one for documents, and all events are publishable. -/
structure Schedule.IsPublishable (schedule : CheckedSchedule) : Prop where
  window : schedule.window.IsUsable
  events : ∀ event ∈ schedule.events, event.IsPublishable

/-- The events of a usable rule are publishable. -/
theorem Rule.IsUsable.isPublishable {rule : Rule} (usable : rule.IsUsable) (start stop : Date) :
    (Resolver.resolvedEvent rule start stop).IsPublishable :=
  ⟨usable.id, usable.name, usable.importance, usable.themeId, ⟨start, rfl⟩, ⟨stop, rfl⟩⟩

/-- The events that usable rules are resolved to are publishable. -/
theorem isPublishable_of_resolve {rules : RuleSet} {resolver : Resolver} {feed : List FeedEvent}
    {events : List (Event Text)} (usable : rules.IsUsable)
    (resolved : resolver.resolve rules.rules feed = .ok events) :
    ∀ event ∈ events, event.IsPublishable := by
  intro event member
  obtain ⟨rule, known, start, stop, rfl⟩ := Resolver.exists_of_mem_resolve resolved event member
  exact (usable.rules rule known).isPublishable start stop

namespace Schedule

variable {window : Window Int} {priorityOrder : List Text} {events : List (Event Text)}
  {clock : Except DateError Moment} {moment : Moment} {schedule : CheckedSchedule}

/-- A schedule of texts is built from its events in order, once they are valid and the clock gives a
moment that has a timestamp. -/
theorem buildBy_eq_ok : buildBy clock window priorityOrder events = .ok schedule ↔
    validate (Event.sortByStart events) = .ok () ∧
    ∃ moment generatedAt, clock = .ok moment ∧ moment.timestamp = .ok generatedAt ∧
      schedule = ⟨generatedAt, window, priorityOrder, Event.sortByStart events⟩ := by
  have sorted : (EventData.sort events).mapError ScheduleError.unordered =
      .ok (Event.sortByStart events) := rfl
  simp only [buildBy, sorted, bind_eq_ok, Except.ok.injEq, exists_eq_left', pure_eq_ok]
  constructor
  · rintro ⟨⟨⟩, valid, moment, read, generatedAt, stamped, rfl⟩
    exact ⟨valid, moment, generatedAt, mapError_eq_ok.mp read, mapError_eq_ok.mp stamped, rfl⟩
  · rintro ⟨valid, moment, generatedAt, read, stamped, rfl⟩
    exact ⟨(), valid, moment, mapError_eq_ok.mpr read, generatedAt, mapError_eq_ok.mpr stamped, rfl⟩

theorem build_eq_ok : build window priorityOrder events moment = .ok schedule ↔
    validate (Event.sortByStart events) = .ok () ∧
    ∃ generatedAt, moment.timestamp = .ok generatedAt ∧
      schedule = ⟨generatedAt, window, priorityOrder, Event.sortByStart events⟩ := by
  simp only [build, buildBy_eq_ok, Except.ok.injEq, exists_and_left, exists_eq_left']

theorem validateEvent_of_isPublishable {event : Event Text}
    (publishable : event.IsPublishable) : validateEvent event = .ok () := by
  obtain ⟨start, startDate⟩ := publishable.startDate
  obtain ⟨stop, endDate⟩ := publishable.endDate
  have present {text : Text} (filled : text ≠ []) : (Json.text text).isPresent = true := by
    simpa [Json.isPresent] using filled
  have isDate (date : Date) : isDateField (.text date.text) = true := by
    simpa [isDateField, Json.text?] using date.hasDateShape_text
  rw [validateEvent]
  simp only [Publishable.toJson, present publishable.id, present publishable.name,
    present publishable.importance, present publishable.themeId, startDate, endDate, isDate]
  rfl

/-- Publishable events are valid. -/
theorem validate_of_isPublishable {events : List (Event Text)}
    (publishable : ∀ event ∈ events, event.IsPublishable) : validate events = .ok () :=
  forM_eq_ok.mpr fun event member => validateEvent_of_isPublishable (publishable event member)

/-- A schedule of publishable events fails to be built only if the clock gives no moment, or one
that has no timestamp. -/
theorem buildBy_eq_error {error : ScheduleError}
    (publishable : ∀ event ∈ events, event.IsPublishable) :
    buildBy clock window priorityOrder events = .error error ↔
      ∃ cause, clock >>= Moment.timestamp = .error cause ∧ .moment cause = error := by
  have valid : validate (Event.sortByStart events) = .ok () :=
    validate_of_isPublishable fun event member => publishable event (List.mem_mergeSort.mp member)
  have sorted : (EventData.sort events).mapError ScheduleError.unordered =
      .ok (Event.sortByStart events) := rfl
  simp only [buildBy, sorted, valid, bind_eq_error, mapError_eq_error, mapError_eq_ok,
    pure_ne_error,
    and_false, exists_false, or_false, Except.ok.injEq, exists_eq_left', reduceCtorEq, false_or,
    exists_const, true_and]
  constructor
  · rintro (⟨cause, failed, rfl⟩ | ⟨moment, read, cause, failed, rfl⟩)
    · exact ⟨cause, .inl failed, rfl⟩
    · exact ⟨cause, .inr ⟨moment, read, failed⟩, rfl⟩
  · rintro ⟨cause, failed | ⟨moment, read, failed⟩, rfl⟩
    · exact .inl ⟨cause, failed, rfl⟩
    · exact .inr ⟨moment, read, cause, failed, rfl⟩

/-- A schedule that is built from an accepted rule document is publishable. -/
theorem isPublishable_of_build {rules : RuleSet} {resolver : Resolver} {feed : List FeedEvent}
    (usable : rules.IsUsable) (resolved : resolver.resolve rules.rules feed = .ok events)
    (built : build rules.window rules.priorityOrder events moment = .ok schedule) :
    schedule.IsPublishable := by
  obtain ⟨-, generatedAt, -, rfl⟩ := build_eq_ok.mp built
  refine ⟨usable.window, fun event member => ?_⟩
  exact isPublishable_of_resolve usable resolved event (List.mem_mergeSort.mp member)

end Schedule

end Observance
