import Observance.Proofs.Calendar.Addition
import Observance.Proofs.Schedule.RoundTrip

/-! # Active days by number

Whether a day is active for an event is a matter of numbers: it has to lie between the start less
the days before and the end plus the days after, and both of these have to be numbers of dates.
This holds for every window, also for one that no document may have.
-/

namespace Observance

open Calendar Result

namespace Theme

/-- Whether a window around some days covers another day: the start less the days before and the
end plus the days after are in the calendar, and the day is between them. -/
def Covers (window : Window Int) (start stop today : Date) : Prop :=
  (IsNumber (start.number - window.daysBefore) ∧ IsNumber (stop.number + window.daysAfter)) ∧
    (start.number - window.daysBefore ≤ today.number ∧
      today.number ≤ stop.number + window.daysAfter)

instance (window : Window Int) (start stop today : Date) :
    Decidable (Covers window start stop today) := by
  unfold Covers
  infer_instance

variable {window : Window Int} {start stop : Date}

/-- The active range goes from the start less the days before to the end plus the days after. -/
theorem activeRange?_eq_some {first last : Date} :
    activeRange? window start stop = some (first, last) ↔
      (first.number : Int) = start.number - window.daysBefore ∧
        (last.number : Int) = stop.number + window.daysAfter := by
  simp only [activeRange?, Option.bind_eq_bind, Option.bind_eq_some_iff, Option.pure_def,
    Option.some.injEq, Prod.mk.injEq, toOption_eq_some, Date.subDays_eq_ok, Date.addDays_eq_ok]
  constructor
  · rintro ⟨_, before, _, after, rfl, rfl⟩
    exact ⟨before, after⟩
  · rintro ⟨before, after⟩
    exact ⟨first, before, last, after, rfl, rfl⟩

/-- An active range stays in the calendar on both sides, or there is none. -/
theorem isSome_activeRange? :
    (activeRange? window start stop).isSome = true ↔
      IsNumber (start.number - window.daysBefore) ∧ IsNumber (stop.number + window.daysAfter) := by
  rw [← Date.exists_number_eq, ← Date.exists_number_eq, Option.isSome_iff_exists, Prod.exists]
  simp only [activeRange?_eq_some, exists_and_left, exists_and_right]

/-- A day is one of an active range exactly if the window covers it. -/
theorem isWithin_activeRange? (today : Date) :
    isWithin (activeRange? window start stop) today = true ↔ Covers window start stop today := by
  unfold Covers
  rw [← isSome_activeRange?]
  cases range : activeRange? window start stop with
  | none => simp [isWithin]
  | some bounds =>
    obtain ⟨first, last⟩ := bounds
    obtain ⟨before, after⟩ := activeRange?_eq_some.mp range
    have lower : first ≤ today ↔ first.number ≤ today.number := Iff.rfl
    have upper : today ≤ last ↔ today.number ≤ last.number := Iff.rfl
    simp only [isWithin, decide_eq_true_eq, Option.isSome_some, true_and, lower, upper]
    omega

variable {event : Event Text}

theorem readDays_eq (startDate : event.startDate = start.text)
    (endDate : event.endDate = stop.text) :
    readDays event = .ok (start, stop) := by
  simp only [readDays, Publishable.toJson, startDate, endDate, Json.asDate, Date.ofText_text]
  rfl

/-- A day is active for an event on two dates exactly if the window covers it, and whether it is
does not fail to be answered. -/
theorem isActive_eq (startDate : event.startDate = start.text) (endDate : event.endDate = stop.text)
    (today : Date) :
    isActive window event today = .ok (decide (Covers window start stop today)) := by
  have covers : isWithin (activeRange? window start stop) today =
      decide (Covers window start stop today) := by
    rw [Bool.eq_iff_iff, isWithin_activeRange?, decide_eq_true_eq]
  simp only [isActive, readDays_eq startDate endDate, activeRange_eq, ← covers]
  rfl

end Theme

namespace Event

/-- An event on two dates is kept exactly if its active range stays in the calendar. -/
theorem isKept_iff {window : Window Int} {event : Event Text} {start stop : Date}
    (startDate : event.startDate = start.text) (endDate : event.endDate = stop.text) :
    event.isKept window = true ↔
      IsNumber (start.number - window.daysBefore) ∧ IsNumber (stop.number + window.daysAfter) := by
  rw [isKept, activeRange?_eq startDate endDate, Theme.isSome_activeRange?]

/-- The window around an event that is kept covers the days from its start less the days before to
its end plus the days after. -/
theorem covers_iff_of_isKept {window : Window Int} {event : Event Text} {start stop : Date}
    (startDate : event.startDate = start.text) (endDate : event.endDate = stop.text)
    (isKept : event.isKept window = true) (today : Date) :
    Theme.Covers window start stop today ↔ start.number - window.daysBefore ≤ today.number ∧
      today.number ≤ stop.number + window.daysAfter :=
  and_iff_right ((isKept_iff startDate endDate).mp isKept)

end Event

end Observance
