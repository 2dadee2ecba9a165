import Observance.Log.Timestamp
import Observance.Proofs.Calendar.Addition
import Observance.Proofs.Json.Plain

/-! # Seconds that have a timestamp

A timestamp can be written exactly for the seconds of the years that a calendar can hold and that
can be written. Dates repeat after 400 years, so the year of a second is had from the cycle that its
day lies in and from the date within the first cycle. It has only digits and signs of ASCII.
-/

namespace Observance.Log

open Calendar Json Result Text

/-- The first second of the first year that a calendar can hold. -/
def firstSecond : Int := -67768040609740800

def lastSecond : Int := 67767976233532799

def dayOf (second : Int) : Int := second / 86400 + 719162

/-- The year of a second lies between the first and the last that have timestamps exactly if the
second does. -/
theorem isWrittenYear_iff {second : Int} {date : Date}
    (number : (date.number : Int) = dayOf second % cycleDays + 1) :
    (calendarYears.1 ≤ date.year + 400 * (dayOf second / cycleDays) ∧
        date.year + 400 * (dayOf second / cycleDays) ≤ mostWrittenYear) ↔
      firstSecond ≤ second ∧ second ≤ lastSecond := by
  have begun (year : Nat) (positive : 1 ≤ year) :
      year ≤ date.year ↔ daysBeforeYear year < date.number := Date.le_year_iff positive
  have first : 252 ≤ date.year ↔ 91675 < date.number := begun 252 (by decide)
  have last : 48 ≤ date.year ↔ 17166 < date.number := begun 48 (by decide)
  have cycle : 401 ≤ date.year ↔ 146097 < date.number := begun 401 (by decide)
  have positive : 1 ≤ date.year := date.valid.1.1
  simp only [dayOf, cycleDays, calendarYears, mostWrittenYear, firstSecond, lastSecond] at number ⊢
  omega

/-- A second can be written exactly from the first to the last that have timestamps. -/
theorem exists_secondText_iff {second : Int} :
    (∃ text, secondText second = .ok text) ↔ firstSecond ≤ second ∧ second ≤ lastSecond := by
  have days : (cycleDays : Int) = 146097 := rfl
  have nonneg : 0 ≤ dayOf second % cycleDays := Int.emod_nonneg _ (by decide)
  have bound : dayOf second % cycleDays < cycleDays := Int.emod_lt_of_pos _ (by decide)
  obtain ⟨date, isDate, number⟩ :=
    Date.exists_of_number (show 1 ≤ (dayOf second % cycleDays).toNat + 1 by omega)
      (show _ ≤ 3652059 by omega)
  have years := isWrittenYear_iff (show (date.number : Int) = dayOf second % cycleDays + 1 by omega)
  have counted : firstSecond ≤ second ∧ second ≤ lastSecond →
      -mostSeconds - 1 ≤ second ∧ second ≤ mostSeconds := by
    simp only [firstSecond, lastSecond, mostSeconds]
    omega
  have written : mostWrittenYear ≤ calendarYears.2 := by decide
  have day : second.fdiv 86400 + (Moment.epochNumber - 1 : Nat) = dayOf second := by
    rw [dayOf, Int.fdiv_eq_ediv_of_nonneg _ (by decide)]
    rfl
  simp only [secondText, day, Int.fmod_eq_emod_of_nonneg _ (show (0 : Int) ≤ cycleDays by decide),
    Int.fdiv_eq_ediv_of_nonneg _ (show (0 : Int) ≤ cycleDays by decide)]
  rw [isDate, Option.getD_some]
  split
  next =>
    split
    next held =>
      split
      next late => exact ⟨nofun, fun within => absurd (years.mpr within).2 (Int.not_le.mpr late)⟩
      next early => exact ⟨fun _ => years.mp ⟨held.1, Int.not_lt.mp early⟩, fun _ => ⟨_, rfl⟩⟩
    next outside =>
      refine ⟨nofun, fun within => absurd ?_ outside⟩
      obtain ⟨least, most⟩ := years.mpr within
      exact ⟨least, Int.le_trans most written⟩
  next beyond => exact ⟨nofun, fun within => absurd (counted within) beyond⟩

/-- Whatever counts as an integer is written as milliseconds. -/
theorem exists_millisecondText {value : Json} {milliseconds : Int}
    (counted : truncated 'd' value = .ok milliseconds) :
    ∃ text, millisecondText value = .ok text := by
  rw [millisecondText, writeAs]
  simp only [counted]
  exact ⟨_, rfl⟩

theorem isVisibleText_paddedDecimal (width n : Nat) : IsVisibleText (paddedDecimal width n) :=
  isVisibleText_digits fun _ member => isAsciiDigit_of_mem_paddedDecimal member

theorem isVisibleText_yearText (year : Int) : IsVisibleText (yearText year) := by
  have digits : IsVisibleText (numeral 10 year.natAbs) :=
    isVisibleText_digits fun _ member => isAsciiDigit_of_mem_numeral member
  unfold yearText
  split
  · exact isVisibleText_cons.mpr ⟨by decide, digits⟩
  · exact digits

theorem isVisibleText_secondText {second : Int} {text : Text}
    (written : secondText second = .ok text) : IsVisibleText text := by
  simp only [secondText] at written
  -- Only a second of a year that can be held and written passes the three checks.
  split at written
  next =>
    split at written
    next =>
      split at written
      next => cases written
      next =>
        cases written
        simp only [isVisibleText_append, isVisibleText_cons, isVisibleText_yearText,
          isVisibleText_paddedDecimal]
        decide
    next => cases written
  next => cases written

theorem isVisibleText_millisecondText {value : Json} {text : Text}
    (written : millisecondText value = .ok text) : IsVisibleText text := by
  obtain ⟨milliseconds, -, padded⟩ := bind_eq_ok.mp written
  rw [integerText, if_neg (by decide)] at padded
  cases padded
  have zeros (count : Nat) : IsVisibleText (List.replicate count (.char '0')) := by
    intro c member
    rw [List.eq_of_mem_replicate member]
    decide
  have digits : IsVisibleText (numeral 10 milliseconds.natAbs) :=
    isVisibleText_digits fun _ member => isAsciiDigit_of_mem_numeral member
  have sign : IsVisibleText (millisecondStyle.sign (decide (milliseconds < 0))) := by
    cases decide (milliseconds < 0) <;> decide
  exact isVisibleText_append.mpr ⟨isVisibleText_append.mpr
    ⟨isVisibleText_append.mpr ⟨sign, isVisibleText_nil⟩, zeros _⟩,
    isVisibleText_append.mpr ⟨zeros _, digits⟩⟩

end Observance.Log
