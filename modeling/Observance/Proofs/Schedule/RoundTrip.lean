import Observance.Proofs.Json.RoundTrip
import Observance.Proofs.Schedule.Publishable
import Observance.Schedule.Reader

/-! # Published schedules are read back

The build writes a schedule, and the page reads it without trusting it. What the page gets is the
schedule that was written, except for events whose active range leaves the calendar. The text is
read back to the same JSON value because its integers are small and its field names differ; from
there on each check of the reader is passed by a publishable schedule.
-/

namespace Observance

open Json Result Text

namespace Event

/-- The active range of an event, unless one of its days is no date or the range leaves the
calendar. -/
def activeRange? (window : Window Int) (event : Event Text) : Option (Date × Date) := do
  let start ← Date.ofText? event.startDate
  let stop ← Date.ofText? event.endDate
  Theme.activeRange? window start stop

def isKept (window : Window Int) (event : Event Text) : Bool :=
  (event.activeRange? window).isSome

theorem map_text_inj {event other : Event Text} :
    event.map Json.text = other.map Json.text ↔ event = other := by
  cases event
  cases other
  simp [map]

theorem isReadable_toJson (event : Event Text) : isReadable false event.toJson = true := by
  simp [toJson, map, Publishable.toJson, isReadable, haveReadable, Json.isKept]

theorem activeRange?_eq {window : Window Int} {event : Event Text} {start stop : Date}
    (startDate : event.startDate = start.text) (endDate : event.endDate = stop.text) :
    event.activeRange? window = Theme.activeRange? window start stop := by
  simp [activeRange?, startDate, endDate, Date.ofText?, Date.ofText_text, Except.toOption]

end Event

namespace Schedule

/-- What the page keeps of a schedule: the events with an active range. -/
def kept (schedule : CheckedSchedule) : CheckedSchedule :=
  { schedule with events := schedule.events.filter (·.isKept schedule.window) }

def ofText? (text : Text) : Option CheckedSchedule := (Json.read text).toOption.bind ofJson?

theorem isReadableInteger_of_isAllowed {days : Int} (allowed : Window.isAllowed days = true) :
    isReadableInteger days = true := by
  simp only [Window.isAllowed, Bool.and_eq_true, decide_eq_true_eq] at allowed
  obtain ⟨count, rfl⟩ := Int.eq_ofNat_of_zero_le allowed.1
  rw [Window.mostDays] at allowed
  have short := length_numeral_le (n := count) (show 0 < 3 by decide) (by omega)
  rw [isReadableInteger, maxIntegerDigits, decide_eq_true_eq, Int.natAbs_natCast]
  omega

theorem isReadable_window {window : Window Int} (usable : window.IsUsable) :
    isReadable false window.toJson = true := by
  have before := isReadableInteger_of_isAllowed usable.daysBefore
  have after := isReadableInteger_of_isAllowed usable.daysAfter
  simp [Window.toJson, Publishable.toJson, isReadable, haveReadable, Json.isKept,
    before, after]

theorem areReadable_map {α : Type} (toJson : α → Json) (elements : List α)
    (readable : ∀ element, isReadable false (toJson element) = true) :
    areReadable false (elements.map toJson) = true := by
  induction elements with
  | nil => rfl
  | cons element elements ih => simp [areReadable, readable, ih]

/-- The text of a schedule with a usable window is read as the JSON value that was written. -/
theorem read_serialize {schedule : CheckedSchedule} (usable : schedule.window.IsUsable) :
    Json.read schedule.serialize = .ok schedule.toJson := by
  refine read_write layout ?_
  change isReadable false _ = true
  have priorities := areReadable_map Json.text schedule.priorityOrder fun _ => rfl
  have events := areReadable_map Event.toJson schedule.events Event.isReadable_toJson
  have window := isReadable_window usable
  simp only [toJson, Publishable.toJson, isReadable, haveReadable, priorities, events, window]
  rfl

theorem readField?_eq_some {fields : Fields} {name text : Text} :
    readField? fields name = some text ↔
      (Fields.get? fields name).getD .null = .text text ∧ text ≠ [] := by
  simp only [readField?, Option.bind_eq_some_iff, nonEmptyText?_eq_some]
  cases Fields.get? fields name with
  | none => simp
  | some value => simp

/-- An event is read from an object with its six texts, two of which are dates, unless its active
range leaves the calendar. -/
theorem readEvent?_eq_some {window : Window Int} {element : Json} {event : Event Text} :
    readEvent? window element = some event ↔
      event.IsPublishable ∧ event.isKept window = true ∧
        ∃ fields, element = .object fields ∧ Event.ofFields fields = event.map .text := by
  have isObject (fields : Fields) : element.fields? = some fields ↔ element = .object fields := by
    cases element <;> simp [fields?]
  simp only [readEvent?, Option.bind_eq_bind, Option.bind_eq_some_iff, readField?_eq_some,
    readDate?_eq_some_iff, isObject, Option.pure_def, Option.some.injEq]
  constructor
  · rintro ⟨fields, object, id, hasId, name, hasName, importance, hasImportance, themeId,
      hasThemeId, startDate, hasStart, endDate, hasEnd, start, startText, stop, stopText, range,
      active, rfl⟩
    refine ⟨⟨hasId.2, hasName.2, hasImportance.2, hasThemeId.2, ⟨start, startText⟩,
      ⟨stop, stopText⟩⟩, ?_, fields, object, ?_⟩
    · rw [Event.isKept, Event.activeRange?_eq startText stopText, active]
      rfl
    · simp only [Event.ofFields, Event.map, hasId, hasName, hasImportance, hasThemeId, hasStart,
        hasEnd]
  · rintro ⟨publishable, isKept, fields, object, same⟩
    obtain ⟨start, startText⟩ := publishable.startDate
    obtain ⟨stop, stopText⟩ := publishable.endDate
    rw [Event.isKept, Event.activeRange?_eq startText stopText, Option.isSome_iff_exists] at isKept
    obtain ⟨range, active⟩ := isKept
    simp only [Event.ofFields, Event.map, Event.mk.injEq] at same
    obtain ⟨hasId, hasName, hasImportance, hasThemeId, hasStart, hasEnd⟩ := same
    exact ⟨fields, object, _, ⟨hasId, publishable.id⟩, _, ⟨hasName, publishable.name⟩, _,
      ⟨hasImportance, publishable.importance⟩, _, ⟨hasThemeId, publishable.themeId⟩, _,
      ⟨hasStart, startText ▸ start.text_ne_nil⟩, _, ⟨hasEnd, stopText ▸ stop.text_ne_nil⟩,
      start, startText, stop, stopText, range, active, rfl⟩

/-- An event is read from what it was written as if it has an active range, provided that it is
publishable then. -/
theorem readEvent?_toJson {window : Window Int} {event : Event Text}
    (publishable : event.isKept window = true → event.IsPublishable) :
    readEvent? window event.toJson = if event.isKept window then some event else none := by
  have written : Event.ofFields [("id", .text event.id), ("name", .text event.name),
      ("importance", .text event.importance), ("themeId", .text event.themeId),
      ("startDate", .text event.startDate), ("endDate", .text event.endDate)] =
      event.map .text := rfl
  split
  next isKept => exact readEvent?_eq_some.mpr ⟨publishable isKept, isKept, _, rfl, written⟩
  next isDropped =>
    rw [Option.eq_none_iff_forall_ne_some]
    intro other success
    obtain ⟨-, isKept, fields, object, same⟩ := readEvent?_eq_some.mp success
    cases object
    cases Event.map_text_inj.mp (same.symm.trans written)
    exact isDropped isKept

theorem filterMap_readEvent? {window : Window Int} {events : List (Event Text)}
    (publishable : ∀ event ∈ events, event.isKept window = true → event.IsPublishable) :
    (events.map Event.toJson).filterMap (readEvent? window) = events.filter (·.isKept window) := by
  induction events with
  | nil => rfl
  | cons event events ih =>
    obtain ⟨first, others⟩ := List.forall_mem_cons.mp publishable
    rw [List.map_cons, List.filterMap_cons, readEvent?_toJson first, ih others,
      List.filter_cons]
    cases event.isKept window <;> rfl

theorem readWindow_toJson {window : Window Int} (usable : window.IsUsable) {fields : Fields}
    (written : Fields.get? fields "window" = some window.toJson) : readWindow fields = window := by
  have before : readDays? [("daysBefore", .integer window.daysBefore),
      ("daysAfter", .integer window.daysAfter)] "daysBefore" = some window.daysBefore := by
    simp [readDays?, Fields.get?, integer?, usable.daysBefore]
  have after : readDays? [("daysBefore", .integer window.daysBefore),
      ("daysAfter", .integer window.daysAfter)] "daysAfter" = some window.daysAfter := by
    simp [readDays?, Fields.get?, List.lookup_cons, integer?, usable.daysAfter]
  rw [readWindow, written, Option.bind_some]
  simp only [Window.toJson, Publishable.toJson, fields?, before, after]

/-- A schedule with a usable window is read from what it was written as, up to what is not kept,
provided that what is kept is publishable. -/
theorem ofJson?_toJson_of_isKept {schedule : CheckedSchedule} (usable : schedule.window.IsUsable)
    (publishable : ∀ event ∈ schedule.events,
      event.isKept schedule.window = true → event.IsPublishable) :
    ofJson? schedule.toJson = some schedule.kept := by
  have events := filterMap_readEvent? publishable
  have texts : (schedule.priorityOrder.map Json.text).filterMap Json.text? =
      schedule.priorityOrder := by
    rw [List.filterMap_map]
    exact List.filterMap_some
  rw [toJson, ofJson?, fields?, Option.map_some, ofFields, readWindow_toJson usable rfl]
  change some (Schedule.mk schedule.generatedAt schedule.window
    ((schedule.priorityOrder.map Json.text).filterMap Json.text?)
    ((schedule.events.map Event.toJson).filterMap (readEvent? schedule.window))) = _
  rw [texts, events]
  rfl

/-- A publishable schedule is read from what it was written as, up to what is not kept. -/
theorem ofJson?_toJson {schedule : CheckedSchedule} (publishable : schedule.IsPublishable) :
    ofJson? schedule.toJson = some schedule.kept :=
  ofJson?_toJson_of_isKept publishable.window fun event member _ =>
    publishable.events event member

theorem isUsable_readWindow (fields : Fields) : (readWindow fields).IsUsable := by
  have usual : Window.usual.IsUsable := ⟨by decide, by decide⟩
  unfold readWindow
  split
  · exact usual
  · split
    next before after hasBefore hasAfter =>
      exact ⟨(Option.filter_eq_some_iff.mp hasBefore).2, (Option.filter_eq_some_iff.mp hasAfter).2⟩
    · exact usual

/-- A schedule that was read from a document is publishable, and all of it is kept. -/
theorem isPublishable_of_ofJson? {document : Json} {schedule : CheckedSchedule}
    (success : ofJson? document = some schedule) :
    schedule.IsPublishable ∧ schedule.kept = schedule := by
  obtain ⟨fields, -, rfl⟩ := Option.map_eq_some_iff.mp success
  have origin : ∀ event ∈ (ofFields fields).events,
      event.IsPublishable ∧ event.isKept (ofFields fields).window = true := by
    intro event member
    obtain ⟨element, -, read⟩ := List.mem_filterMap.mp member
    obtain ⟨publishable, isKept, -⟩ := readEvent?_eq_some.mp read
    exact ⟨publishable, isKept⟩
  refine ⟨⟨isUsable_readWindow fields, fun event member => (origin event member).1⟩, ?_⟩
  rw [kept, List.filter_eq_self.mpr fun event member => (origin event member).2]

/-- Each event of a schedule that was read is publishable, and its active range stays in the
calendar. -/
theorem isKept_of_ofJson? {document : Json} {schedule : CheckedSchedule}
    (success : ofJson? document = some schedule) :
    ∀ event ∈ schedule.events, event.IsPublishable ∧ event.isKept schedule.window = true := by
  obtain ⟨publishable, same⟩ := isPublishable_of_ofJson? success
  intro event member
  refine ⟨publishable.events event member, ?_⟩
  rw [← same] at member
  exact (List.mem_filter.mp member).2

/-- Publishing and reading loses nothing but the events whose active range leaves the calendar.
This covers every schedule that is built from an accepted rule document, and nothing at all is lost
of a schedule that was itself read. -/
theorem ofText?_serialize :
    (∀ schedule : CheckedSchedule, schedule.IsPublishable →
      ofText? schedule.serialize = some schedule.kept) ∧
    (∀ (value : Json) (rules : RuleSet) (resolver : Resolver) (feed : List FeedEvent)
      (events : List (Event Text)) (moment : Moment) (schedule : CheckedSchedule),
      RuleSet.ofJson value = .ok rules → resolver.resolve rules.rules feed = .ok events →
      build rules.window rules.priorityOrder events moment = .ok schedule →
      schedule.IsPublishable) ∧
    (∀ (document : Json) (schedule : CheckedSchedule), ofJson? document = some schedule →
      schedule.IsPublishable ∧ ofText? schedule.serialize = some schedule) := by
  have roundTrip (schedule : CheckedSchedule) (publishable : schedule.IsPublishable) :
      ofText? schedule.serialize = some schedule.kept := by
    rw [ofText?, read_serialize publishable.window]
    exact ofJson?_toJson publishable
  refine ⟨roundTrip, ?_, ?_⟩
  · intro value rules resolver feed events moment schedule accepted resolved built
    exact isPublishable_of_build (RuleSet.isUsable_of_ofJson accepted) resolved built
  · intro document schedule success
    obtain ⟨publishable, same⟩ := isPublishable_of_ofJson? success
    exact ⟨publishable, by rw [roundTrip schedule publishable, same]⟩

/-- A schedule with texts that need escapes and with an event at the end of the calendar. -/
def lastDays : CheckedSchedule :=
  { generatedAt := "2024-12-31T23:59:59.000Z"
    window := ⟨5, 2⟩
    priorityOrder := ["\"quoted\\", "\u2028😀"]
    events := [
      ⟨"eve", "New\nYear\u0007", "major", "fireworks", "2024-12-31", "2025-01-01"⟩,
      ⟨"end", "Last day", "major", "dark", "9999-12-30", "9999-12-31"⟩] }

theorem ofText?_serialize_lastDays :
    lastDays.IsPublishable ∧
      ofText? lastDays.serialize = some { lastDays with events := lastDays.events.take 1 } := by
  have publishable : lastDays.IsPublishable := by
    refine ⟨⟨by decide, by decide⟩, ?_⟩
    simp only [lastDays, List.forall_mem_cons]
    refine ⟨⟨by decide, by decide, by decide, by decide, ?_, ?_⟩,
      ⟨by decide, by decide, by decide, by decide, ?_, ?_⟩, by simp⟩
    · exact ⟨⟨2024, 12, 31, by decide⟩, by decide +kernel⟩
    · exact ⟨⟨2025, 1, 1, by decide⟩, by decide +kernel⟩
    · exact ⟨⟨9999, 12, 30, by decide⟩, by decide +kernel⟩
    · exact ⟨⟨9999, 12, 31, by decide⟩, by decide +kernel⟩
  have keptDays : lastDays.kept = { lastDays with events := lastDays.events.take 1 } := by
    decide +kernel
  exact ⟨publishable, by rw [ofText?_serialize.1 lastDays publishable, keptDays]⟩

end Schedule

end Observance
