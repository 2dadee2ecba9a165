import Observance.Calendar.IsoText
import Observance.Calendar.Parts
import Observance.Proofs.Calendar.Addition

/-! # Which dates overflow

Most errors about dates say that there is no such date. An overflow is another matter, and few
operations lead to one: reading a text never does, a day of a month that runs on into the next
month does not, adding months does exactly if the year they lead to does not fit into 32 bits, and
adding days does exactly if they lead out of the calendar.
-/

namespace Observance

open Calendar Result Text

namespace Calendar

/-- Whether a part fits into 32 bits. -/
def IsPart (part : Int) : Prop := -0x80000000 ≤ part ∧ part < 0x80000000

instance (part : Int) : Decidable (IsPart part) := inferInstanceAs (Decidable (_ ∧ _))

theorem checkPart_eq_ok {part : Int} : checkPart part = .ok () ↔ IsPart part := by
  unfold checkPart IsPart
  split
  · simp only [reduceCtorEq, false_iff]
    omega
  · split
    · simp only [reduceCtorEq, false_iff]
      omega
    · split
      · simp only [reduceCtorEq, false_iff]
        omega
      · simp only [true_iff]
        omega

theorem isOverflow_of_checkPart {part : Int} {error : DateError}
    (failure : checkPart part = .error error) : error.isOverflow = true := by
  unfold checkPart at failure
  split at failure
  · cases failure
    rfl
  · split at failure
    · cases failure
      rfl
    · split at failure
      · cases failure
        rfl
      · cases failure

theorem isOverflow_of_checkDuration {days : Int} {error : DateError}
    (failure : checkDuration days = .error error) : error.isOverflow = true := by
  unfold checkDuration at failure
  split at failure
  · cases failure
    rfl
  · split at failure
    · cases failure
      rfl
    · cases failure

end Calendar

namespace Date

def yearAfter (date : Date) (months : Int) : Int :=
  date.year + ((date.month : Int) - 1 + months).fdiv 12

variable {error : DateError}

theorem isOverflow_of_ofCheckedParts {year month day : Int}
    (failure : ofCheckedParts year month day = .error error) : error.isOverflow = false := by
  unfold ofCheckedParts at failure
  split at failure
  · cases failure
    rfl
  · split at failure
    · cases failure
      rfl
    · split at failure
      · cases failure
      · cases failure
        rfl

theorem isOverflow_of_ofWeek {text : Text} {year week day : Nat}
    (failure : ofWeek text year week day = .error error) : error.isOverflow = false := by
  unfold ofWeek at failure
  simp only at failure
  split at failure
  · cases failure
    rfl
  · split at failure
    · cases failure
      rfl
    · split at failure
      · cases failure
      · cases failure
        rfl

theorem isOverflow_of_readWeek {text : Text} {separated : Bool} {year : Nat}
    {input : Text} (failure : readWeek text separated year input = .error error) :
    error.isOverflow = false := by
  unfold readWeek at failure
  split at failure
  · cases failure
    rfl
  · exact isOverflow_of_ofWeek failure
  · split at failure
    · exact isOverflow_of_ofWeek failure
    · cases failure
      rfl

/-- A text that is no date does not overflow. -/
theorem isOverflow_of_ofText {text : Text} (failure : ofText text = .error error) :
    error.isOverflow = false := by
  unfold ofText at failure
  simp only at failure
  split at failure
  · cases failure
    rfl
  · split at failure
    · cases failure
      rfl
    · split at failure
      · exact isOverflow_of_readWeek failure
      · split at failure
        · exact isOverflow_of_ofCheckedParts failure
        · cases failure
          rfl

theorem ofParts_eq {year month day : Int} (isYear : IsPart year) (isMonth : IsPart month)
    (isDay : IsPart day) : ofParts year month day = ofCheckedParts year month day := by
  rw [ofParts, checkPart_eq_ok.mpr isYear, checkPart_eq_ok.mpr isMonth, checkPart_eq_ok.mpr isDay]
  rfl

theorem ofParts_overflows_iff {year month day : Int} (isMonth : IsPart month)
    (isDay : IsPart day) :
    (∃ error, ofParts year month day = .error error ∧ error.isOverflow = true) ↔
      ¬ IsPart year := by
  by_cases isYear : IsPart year
  · rw [ofParts_eq isYear isMonth isDay]
    simp only [isYear, not_true, iff_false]
    rintro ⟨error, failure, overflow⟩
    rw [isOverflow_of_ofCheckedParts failure] at overflow
    cases overflow
  · simp only [isYear, not_false_eq_true, iff_true]
    cases check : checkPart year with
    | error error =>
      exact ⟨error, by rw [ofParts, check]; rfl, isOverflow_of_checkPart check⟩
    | ok _ => exact absurd (checkPart_eq_ok.mp check) isYear

/-- A number of months leads to an overflow exactly if the year does not fit into 32 bits. -/
theorem addMonths_overflows_iff (date : Date) (months : Int) :
    (∃ error, date.addMonths months = .error error ∧ error.isOverflow = true) ↔
      ¬ IsPart (date.yearAfter months) := by
  refine ofParts_overflows_iff ?_ ?_
  · have := Int.fmod_nonneg_of_pos ((date.month : Int) - 1 + months) (show (0 : Int) < 12 by decide)
    have := Int.fmod_lt_of_pos ((date.month : Int) - 1 + months) (show (0 : Int) < 12 by decide)
    unfold IsPart
    omega
  · have := date.valid.2.2.2
    have := daysInMonth_le date.year date.month
    unfold IsPart
    omega

/-- There are 30 days after the first day of a month, unless they are of a later month. -/
theorem number_add_le {date : Date} (first : date.day = 1) : date.number + 30 ≤ lastNumber := by
  obtain ⟨⟨positive, inCalendar⟩, ⟨-, isMonth⟩, -⟩ := date.valid
  have december : daysBeforeMonth date.year 13 = daysBeforeMonth date.year 12 + 31 := rfl
  have months := daysBeforeMonth_mono date.year date.valid.2.1.1 isMonth
  have years := daysBeforeYear_mono (Nat.le_add_left 1 date.year)
    (show date.year + 1 ≤ lastYear + 1 by omega)
  have last : daysBeforeYear (lastYear + 1) = lastNumber := by decide
  rw [daysBeforeYear_succ positive, last] at years
  rw [number, first]
  omega

/-- A day of a month does not overflow: even the last month of the calendar has 31 days. -/
theorem isOverflow_of_ofRunningDay {year month day : Nat} (isYear : year ≤ 10000)
    (isMonth : 1 ≤ month ∧ month ≤ 12) (isDay : 1 ≤ day ∧ day ≤ 31)
    (failure : ofRunningDay year month day = .error error) : error.isOverflow = false := by
  have parts := ofParts_eq (show IsPart year by unfold IsPart; omega)
    (show IsPart month by unfold IsPart; omega) (show IsPart 1 by unfold IsPart; omega)
  rcases bind_eq_error.mp failure with failure | ⟨start, success, failure⟩
  · exact isOverflow_of_ofCheckedParts (parts ▸ failure)
  · rw [parts] at success
    obtain ⟨sameYear, sameMonth, sameDay⟩ :=
      (ofCheckedParts_eq_ok_iff year month 1 start).mp success
    have room := number_add_le sameDay
    have positive := start.number_pos
    have inCalendar : IsNumber (start.number + ((day : Int) - 1)) := by
      unfold IsNumber
      omega
    obtain ⟨date, sum⟩ := exists_number_eq.mpr inCalendar
    rw [addDays_eq_ok.mpr sum] at failure
    cases failure

/-- Of a duration that is checked and then moves a date, every error is an overflow. -/
theorem isOverflow_of_checked_moveBy {date : Date} {days distance : Int}
    (failure : (checkDuration days >>= fun _ => date.moveBy distance) = .error error) :
    error.isOverflow = true := by
  rcases bind_eq_error.mp failure with tooLong | ⟨_, -, failure⟩
  · exact isOverflow_of_checkDuration tooLong
  · unfold moveBy at failure
    split at failure
    · cases failure
    · cases failure
      rfl

/-- What gives the date with a number, or else overflows, overflows exactly if no date has the
number. -/
theorem overflows_iff {moved : Except DateError Date} {number : Int}
    (moves : ∀ {date : Date}, moved = .ok date ↔ (date.number : Int) = number)
    (overflows : ∀ {error}, moved = .error error → error.isOverflow = true) :
    (∃ error, moved = .error error ∧ error.isOverflow = true) ↔ ¬ IsNumber number := by
  rw [← exists_number_eq]
  cases moved with
  | ok date =>
    have found : ∃ date : Date, (date.number : Int) = number := ⟨date, moves.mp rfl⟩
    simp [found]
  | error error =>
    have leaves : ¬ ∃ date : Date, (date.number : Int) = number :=
      fun ⟨_, same⟩ => absurd (moves.mpr same) nofun
    simp [leaves, overflows rfl]

/-- A duration overflows exactly if it leads out of the calendar: it is too long itself, or there is
no date that it leads to. -/
theorem addDays_overflows_iff {date : Date} {days : Int} :
    (∃ error, date.addDays days = .error error ∧ error.isOverflow = true) ↔
      ¬ IsNumber (date.number + days) :=
  overflows_iff addDays_eq_ok isOverflow_of_checked_moveBy

/-- The same holds of a duration that leads back. -/
theorem subDays_overflows_iff {date : Date} {days : Int} :
    (∃ error, date.subDays days = .error error ∧ error.isOverflow = true) ↔
      ¬ IsNumber (date.number - days) :=
  overflows_iff subDays_eq_ok isOverflow_of_checked_moveBy

end Date

end Observance
