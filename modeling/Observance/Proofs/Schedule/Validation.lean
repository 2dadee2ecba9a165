import Observance.Proofs.Schedule.Untrusted

/-! # What passes validation and is not read

Events are validated before they are published, and what is published is checked again by its
reader. The two checks do not agree: validation asks for the form of a date only, so a date with a
line feed after it, with digits of another script, or with a day that the calendar does not have is
published and then left out without a word. These three flaws, and a range that leaves the calendar,
are all that the reader leaves out of a schedule that was validated.
-/

namespace Observance

open Calendar Result Text

/-- A text has the form of a date but is none: a line feed follows the form, one of its digits is
not of ASCII, or the calendar has no such day. -/
inductive Calendar.IsFlawed (text : Text) : Prop
  | lineFeed {year month day : Text} (form : DateForm text year month day [.char '\n']) :
      IsFlawed text
  | digit {year month day rest : Text} (form : DateForm text year month day rest)
      {c : CodePoint} (member : c ∈ year ++ month ++ day) (other : isAsciiDigit c = false) :
      IsFlawed text
  | day {year month day rest : Text} (form : DateForm text year month day rest)
      (missing : ¬IsDate (digitsValue year) (digitsValue month) (digitsValue day)) :
      IsFlawed text

namespace Event

/-- The id, the name, the importance and the theme of an event are not empty, and both of its days
have the form of a date, with at most a line feed after it. -/
structure IsValid (event : Event Text) : Prop where
  id : event.id ≠ []
  name : event.name ≠ []
  importance : event.importance ≠ []
  themeId : event.themeId ≠ []
  startDate : ∃ year month day rest, DateForm event.startDate year month day rest ∧
    (rest = [] ∨ rest = [.char '\n'])
  endDate : ∃ year month day rest, DateForm event.endDate year month day rest ∧
    (rest = [] ∨ rest = [.char '\n'])

/-- Both days of an event are in the published form of a date, and are read as one. -/
def HasReadableDays (event : Event Text) : Prop :=
  ∃ start stop : Date, (start.IsWrittenIn event.startDate ∧
    Schedule.readDate? event.startDate = some start) ∧
      stop.IsWrittenIn event.endDate ∧ Schedule.readDate? event.endDate = some stop

/-- The window around the days of an event leaves the calendar. -/
def LeavesCalendar (window : Window Int) (event : Event Text) : Prop :=
  ∃ start stop : Date, start.IsWrittenIn event.startDate ∧ stop.IsWrittenIn event.endDate ∧
    (start.number - window.daysBefore < 1 ∨ lastNumber < stop.number + window.daysAfter)

end Event

/-- A text with the form of a date and at most a line feed after it is read as a date exactly if it
is not flawed. -/
theorem Calendar.exists_isWrittenIn_iff {text : Text} {year month day rest : Text}
    (form : DateForm text year month day rest) (short : rest = [] ∨ rest = [.char '\n']) :
    (∃ date : Date, date.IsWrittenIn text) ↔ ¬IsFlawed text := by
  simp only [Date.isWrittenIn_iff, ← Schedule.readDate?_eq_some_iff,
    Date.exists_readDate?_iff form]
  constructor
  · rintro ⟨rfl, ascii, isDate⟩ flawed
    cases flawed with
    | lineFeed other => exact nomatch (form.unique other).2.2.2
    | digit other member isOther =>
      obtain ⟨rfl, rfl, rfl, -⟩ := form.unique other
      rw [ascii _ member] at isOther
      cases isOther
    | day other missing =>
      obtain ⟨rfl, rfl, rfl, -⟩ := form.unique other
      exact missing isDate
  · intro flawless
    refine ⟨?_, ?_, ?_⟩
    · rcases short with rfl | rfl
      · rfl
      · exact absurd (.lineFeed form) flawless
    · intro c member
      by_contra other
      exact flawless (.digit form member (Bool.eq_false_iff.mpr other))
    · by_contra missing
      exact flawless (.day form missing)

namespace Schedule

theorem isDateField_text_iff {text : Text} :
    isDateField (.text text) = true ↔ ∃ year month day rest,
      DateForm text year month day rest ∧ (rest = [] ∨ rest = [.char '\n']) := by
  rw [← hasDateShape_iff]
  rfl

theorem isPresent_text_iff {text : Text} : (Json.text text).isPresent = true ↔ text ≠ [] := by
  simp [Json.isPresent]

/-- An event passes validation exactly if it is valid. -/
theorem validateEvent_eq_ok {event : Event Text} :
    validateEvent event = .ok () ↔ event.IsValid := by
  constructor
  · intro passed
    dsimp only [validateEvent] at passed
    split at passed
    · cases passed
    next present =>
      split at passed
      · cases passed
      next dates =>
        simp only [Publishable.toJson, Bool.not_eq_true', Bool.not_eq_false, Bool.and_eq_true,
          isPresent_text_iff, isDateField_text_iff] at present dates
        obtain ⟨⟨⟨id, name⟩, importance⟩, themeId⟩ := present
        exact ⟨id, name, importance, themeId, dates.1, dates.2⟩
  · intro valid
    have present {text : Text} (filled : text ≠ []) : (Json.text text).isPresent = true :=
      isPresent_text_iff.mpr filled
    have start : isDateField (.text event.startDate) = true :=
      isDateField_text_iff.mpr valid.startDate
    have stop : isDateField (.text event.endDate) = true :=
      isDateField_text_iff.mpr valid.endDate
    simp only [validateEvent, Publishable.toJson, present valid.id, present valid.name,
      present valid.importance, present valid.themeId, start, stop]
    rfl

/-- Events pass validation exactly if all of them are valid. -/
theorem validate_eq_ok {events : List (Event Text)} :
    validate events = .ok () ↔ ∀ event ∈ events, event.IsValid := by
  simp only [validate, forM_eq_ok, validateEvent_eq_ok]

end Schedule

namespace Event

variable {event : Event Text}

/-- The days of a valid event can be read exactly if neither of them is flawed. -/
theorem hasReadableDays_iff (valid : event.IsValid) :
    event.HasReadableDays ↔ ¬IsFlawed event.startDate ∧ ¬IsFlawed event.endDate := by
  obtain ⟨_, _, _, _, startForm, startShort⟩ := valid.startDate
  obtain ⟨_, _, _, _, stopForm, stopShort⟩ := valid.endDate
  rw [← exists_isWrittenIn_iff startForm startShort, ← exists_isWrittenIn_iff stopForm stopShort]
  simp only [HasReadableDays, Schedule.readDate?_eq_some_iff, ← Date.isWrittenIn_iff, and_self,
    exists_and_left, exists_and_right]

/-- A valid event with an active range is publishable. -/
theorem isPublishable_of_isKept {window : Window Int} (valid : event.IsValid)
    (isKept : event.isKept window = true) : event.IsPublishable := by
  rw [Event.isKept, Option.isSome_iff_exists] at isKept
  obtain ⟨range, active⟩ := isKept
  simp only [activeRange?, Option.bind_eq_bind, Option.bind_eq_some_iff, Date.ofText?,
    toOption_eq_some] at active
  obtain ⟨start, starts, stop, stops, -⟩ := active
  have startShape := hasDateShape_iff.mpr valid.startDate
  have stopShape := hasDateShape_iff.mpr valid.endDate
  exact ⟨valid.id, valid.name, valid.importance, valid.themeId,
    ⟨start, Date.text_of_ofText startShape starts⟩, ⟨stop, Date.text_of_ofText stopShape stops⟩⟩

/-- An event on two dates is kept exactly if the window around them stays in the calendar. -/
theorem isKept_iff_stays {window : Window Int} (usable : window.IsUsable) {start stop : Date}
    (startDate : event.startDate = start.text) (endDate : event.endDate = stop.text) :
    event.isKept window = true ↔
      1 ≤ start.number - window.daysBefore ∧ stop.number + window.daysAfter ≤ lastNumber := by
  rw [isKept, activeRange?_eq startDate endDate, Option.isSome_iff_exists]
  exact Schedule.exists_activeRange?_iff usable

/-- A valid event is kept exactly if neither of its days is flawed and the window around them stays
in the calendar. -/
theorem isKept_iff_of_isValid {window : Window Int} (usable : window.IsUsable)
    (valid : event.IsValid) :
    event.isKept window = true ↔
      ¬IsFlawed event.startDate ∧ ¬IsFlawed event.endDate ∧ ¬event.LeavesCalendar window := by
  rw [← and_assoc, ← hasReadableDays_iff valid]
  constructor
  · intro isKept
    obtain ⟨-, -, -, -, ⟨start, startDate⟩, ⟨stop, endDate⟩⟩ := isPublishable_of_isKept valid isKept
    have stays := (isKept_iff_stays usable startDate endDate).mp isKept
    have startWritten := Date.isWrittenIn_iff.mpr startDate
    have stopWritten := Date.isWrittenIn_iff.mpr endDate
    have startRead := (Schedule.readDate?_eq_some_iff _ _).mpr startDate
    have stopRead := (Schedule.readDate?_eq_some_iff _ _).mpr endDate
    refine ⟨⟨start, stop, ⟨startWritten, startRead⟩, stopWritten, stopRead⟩, ?_⟩
    rintro ⟨otherStart, otherStop, otherStartWritten, otherStopWritten, leaves⟩
    obtain rfl := startWritten.unique otherStartWritten
    obtain rfl := stopWritten.unique otherStopWritten
    omega
  · rintro ⟨⟨start, stop, ⟨startWritten, -⟩, stopWritten, -⟩, stays⟩
    have startDate := Date.isWrittenIn_iff.mp startWritten
    have endDate := Date.isWrittenIn_iff.mp stopWritten
    by_contra dropped
    rw [isKept_iff_stays usable startDate endDate] at dropped
    refine stays ⟨start, stop, startWritten, stopWritten, ?_⟩
    omega

end Event

namespace Schedule

/-- Events pass validation exactly if they are valid, and then a schedule of them is read back
without the events that have a flawed date or leave the calendar, and with all others. The days of
all events can be read exactly if no date is flawed. -/
theorem ofText?_serialize_of_validate (schedule : CheckedSchedule)
    (usable : schedule.window.IsUsable) :
    (validate schedule.events = .ok () ↔ ∀ event ∈ schedule.events, event.IsValid) ∧
    (validate schedule.events = .ok () →
      ((∀ event ∈ schedule.events, event.HasReadableDays) ↔
        ∀ event ∈ schedule.events, ¬IsFlawed event.startDate ∧ ¬IsFlawed event.endDate) ∧
      ofText? schedule.serialize = some schedule.kept ∧
      ∀ event ∈ schedule.events, event ∉ schedule.kept.events ↔
        IsFlawed event.startDate ∨ IsFlawed event.endDate ∨
          event.LeavesCalendar schedule.window) := by
  refine ⟨validate_eq_ok, fun passed => ?_⟩
  have valid := validate_eq_ok.mp passed
  refine ⟨?_, ?_, ?_⟩
  · exact forall₂_congr fun event member => Event.hasReadableDays_iff (valid event member)
  · rw [ofText?, read_serialize usable]
    exact ofJson?_toJson_of_isKept usable fun event member =>
      Event.isPublishable_of_isKept (valid event member)
  · intro event member
    have isKept := Event.isKept_iff_of_isValid usable (valid event member)
    rw [kept, List.mem_filter, and_iff_right member, isKept]
    tauto

def fairOn (day : Text) : Event Text := ⟨"fair", "Fair", "school", "stalls", day, day⟩

/-- A schedule with one fair for each flaw that a date may have, and with one that has none. -/
def fairs : CheckedSchedule :=
  { generatedAt := "2024-05-01T08:00:00.000Z"
    window := .usual
    priorityOrder := []
    events := [fairOn "2024-06-01\n", fairOn "2024-06-0\u0967", fairOn "2024-06-31",
      fairOn "2024-06-01"] }

theorem ofText?_serialize_of_validate_fairs :
    fairs.window.IsUsable ∧ validate fairs.events = .ok () ∧
      ofText? fairs.serialize = some { fairs with events := [fairOn "2024-06-01"] } := by
  have usable : fairs.window.IsUsable := ⟨by decide, by decide⟩
  have valid : validate fairs.events = .ok () := rfl
  have remaining : fairs.kept = { fairs with events := [fairOn "2024-06-01"] } := by
    decide +kernel
  refine ⟨usable, valid, ?_⟩
  rw [((ofText?_serialize_of_validate fairs usable).2 valid).2.1, remaining]

/-- Events may pass validation although the days of one of them cannot be read: a line feed after a
date is not noticed. -/
theorem exists_valid_not_readable :
    ¬∀ events : List (Event Text), validate events = .ok () →
      ∀ event ∈ events, event.HasReadableDays := by
  intro readable
  have valid : validate [fairOn "2024-06-01\n"] = .ok () := rfl
  obtain ⟨start, -, ⟨-, read⟩, -⟩ := readable _ valid _ (List.mem_singleton_self _)
  have unread : readDate? "2024-06-01\n" = none := by decide +kernel
  rw [fairOn, unread] at read
  cases read

end Schedule

end Observance
