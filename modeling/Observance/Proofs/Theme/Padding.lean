import Observance.Proofs.Calendar.DateForm
import Observance.Proofs.Theme.Activity

/-! # Padded events

A window may pad an event by any number of days, also by fewer than none and by more than the
calendar has. Padding is addition of numbers: it gives two dates if both sums are numbers of dates,
and nothing otherwise, and it does not fail. So a wider window does not make an active day inactive
before one of the sums leaves the calendar.
-/

namespace Observance.Theme

open Calendar

/-- Whether the days that a window pads an event to are in the calendar. -/
def StaysInCalendar (window : Window Int) (start stop : Date) : Prop :=
  IsNumber (start.number - window.daysBefore) ∧ IsNumber (stop.number + window.daysAfter)

instance (window : Window Int) (start stop : Date) :
    Decidable (StaysInCalendar window start stop) := by
  unfold StaysInCalendar
  infer_instance

variable {window wider : Window Int} {start stop today : Date}

/-- An event is padded to dates if these stay in the calendar. -/
theorem exists_activeRange (stays : StaysInCalendar window start stop) :
    ∃ first last : Date, (first.number : Int) = start.number - window.daysBefore ∧
      (last.number : Int) = stop.number + window.daysAfter ∧
        activeRange window start stop = .ok (some (first, last)) := by
  obtain ⟨⟨first, last⟩, range⟩ := Option.isSome_iff_exists.mp (isSome_activeRange?.mpr stays)
  obtain ⟨before, after⟩ := activeRange?_eq_some.mp range
  exact ⟨first, last, before, after, by rw [activeRange_eq, range]⟩

/-- An event that is padded beyond the calendar has no active range. -/
theorem activeRange_of_not_stays (leaves : ¬ StaysInCalendar window start stop) :
    activeRange window start stop = .ok none := by
  rw [activeRange_eq, Option.not_isSome_iff_eq_none.mp (isSome_activeRange?.not.mpr leaves)]

/-- A wider window covers what a window covers, as long as it stays in the calendar. -/
theorem Covers.mono (covers : Covers window start stop today)
    (before : window.daysBefore ≤ wider.daysBefore) (after : window.daysAfter ≤ wider.daysAfter)
    (stays : StaysInCalendar wider start stop) : Covers wider start stop today := by
  obtain ⟨-, lower, upper⟩ := covers
  exact ⟨stays, by omega, by omega⟩

/-- The active range of an event goes from its start less the days before to its end plus the days
after, if both are in the calendar, and otherwise there is none; the active days are those of the
range. Neither fails, and a wider window that stays in the calendar keeps the active days. -/
theorem isActive_padded (event : Event Text)
    (startWritten : start.IsWrittenIn event.startDate)
    (stopWritten : stop.IsWrittenIn event.endDate) (window : Window Int) :
    ((StaysInCalendar window start stop → ∃ first last : Date,
        (first.number : Int) = start.number - window.daysBefore ∧
          (last.number : Int) = stop.number + window.daysAfter ∧
            activeRange window start stop = .ok (some (first, last))) ∧
      (¬ StaysInCalendar window start stop → activeRange window start stop = .ok none)) ∧
    ∀ today : Date,
      isActive window event today = .ok (decide (StaysInCalendar window start stop ∧
        start.number - window.daysBefore ≤ today.number ∧
          today.number ≤ stop.number + window.daysAfter)) ∧
      ∀ wider : Window Int, window.daysBefore ≤ wider.daysBefore →
        window.daysAfter ≤ wider.daysAfter → StaysInCalendar wider start stop →
          isActive window event today = .ok true → isActive wider event today = .ok true := by
  have answer (window : Window Int) (today : Date) :
      isActive window event today = .ok (decide (Covers window start stop today)) :=
    isActive_eq (Date.isWrittenIn_iff.mp startWritten) (Date.isWrittenIn_iff.mp stopWritten) today
  refine ⟨⟨exists_activeRange, activeRange_of_not_stays⟩, fun today => ⟨answer window today, ?_⟩⟩
  intro wider before after stays active
  rw [answer, Except.ok.injEq, decide_eq_true_eq] at active ⊢
  exact Covers.mono active before after stays

section WholeCalendar

def farewell : Event Text :=
  { id := "farewell", name := "Farewell", importance := "national", themeId := "fireworks",
    startDate := "9999-12-31", endDate := "9999-12-31" }

/-- The longest window that an event on the last day can have makes the first day active, and one
day more makes none active. -/
theorem isActive_padded_farewell :
    isActive (⟨3652058, 0⟩ : Window Int) farewell Date.first = .ok true ∧
      isActive (⟨3652059, 0⟩ : Window Int) farewell Date.first = .ok false := by
  have written : (⟨9999, 12, 31, by decide⟩ : Date).IsWrittenIn "9999-12-31" :=
    Date.isWrittenIn_iff.mpr (by decide +kernel)
  have answer (window : Window Int) :=
    ((isActive_padded farewell written written window).2 Date.first).1
  constructor
  · rw [answer]
    decide +kernel
  · rw [answer]
    decide +kernel

end WholeCalendar

end Observance.Theme
