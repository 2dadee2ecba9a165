import Observance.Proofs.Calendar.Addition
import Observance.Proofs.Calendar.Overflow

/-! # Adding months

Months are counted from the start of the calendar on, so adding months to a date adds to the count
of its month, and only then is the day cut down to the length of the month that is reached. Dates
are in the order of their months, and within a month in the order of their days. So a later date
does not become an earlier one when both are moved by the same number of months.
-/

namespace Observance

open Calendar Result

namespace Calendar

/-- The leap years come back every 400 years, and with them the lengths of the months. -/
theorem daysInMonth_mod (year month : Nat) :
    daysInMonth (year % 400) month = daysInMonth year month := by
  have leap : isLeapYear (year % 400) = isLeapYear year := by
    rw [isLeapYear, isLeapYear, Nat.mod_mod_of_dvd year (show 4 ∣ 400 by decide),
      Nat.mod_mod_of_dvd year (show 100 ∣ 400 by decide), Nat.mod_mod]
  simp only [daysInMonth, leap]

end Calendar

namespace Date

variable {date other first second : Date}

/-- The number of months from January of year 0 to the month of a date. -/
def monthIndex (date : Date) : Nat := 12 * date.year + (date.month - 1)

theorem monthIndex_inj (same : first.monthIndex = second.monthIndex) :
    first.year = second.year ∧ first.month = second.month := by
  have firstMonth := first.valid.2.1
  have secondMonth := second.valid.2.1
  simp only [monthIndex] at same
  omega

/-- A date of an earlier month is an earlier date. -/
theorem number_lt_of_monthIndex (earlier : first.monthIndex < second.monthIndex) :
    first.number < second.number := by
  obtain ⟨-, ⟨firstMonth, firstLast⟩, -, firstDay⟩ := first.valid
  obtain ⟨-, ⟨secondMonth, secondLast⟩, secondDay, -⟩ := second.valid
  simp only [monthIndex] at earlier
  rcases Nat.lt_or_ge first.year second.year with years | notBefore
  · have within := first.number_mem_year.2
    have begun := second.number_mem_year.1
    have := daysBeforeYear_mono (Nat.le_add_left 1 first.year) (Nat.succ_le_of_lt years)
    omega
  · have sameYear : first.year = second.year := by omega
    have months := daysBeforeMonth_mono first.year (Nat.le_add_left 1 first.month)
      (show first.month + 1 ≤ second.month by omega)
    rw [daysBeforeMonth_succ first.year firstMonth] at months
    rw [number, number, ← sameYear]
    omega

/-- Dates are ordered by month, and within a month by day. -/
theorem le_iff_monthIndex : first ≤ second ↔ first.monthIndex < second.monthIndex ∨
    first.monthIndex = second.monthIndex ∧ first.day ≤ second.day := by
  change first.number ≤ second.number ↔ _
  rcases Nat.lt_trichotomy first.monthIndex second.monthIndex with earlier | same | later
  · have := number_lt_of_monthIndex earlier
    omega
  · obtain ⟨years, months⟩ := monthIndex_inj same
    rw [number, number, years, months]
    omega
  · have := number_lt_of_monthIndex later
    omega

/-- A date has the parts that it is made of, whatever integers they are. -/
theorem ofParts_eq_ok {year month day : Int} :
    ofParts year month day = .ok date ↔
      (date.year : Int) = year ∧ (date.month : Int) = month ∧ (date.day : Int) = day := by
  constructor
  · intro success
    simp only [ofParts, bind_eq_ok] at success
    obtain ⟨_, -, _, -, _, -, success⟩ := success
    unfold ofCheckedParts at success
    split at success
    · cases success
    next isYear =>
      split at success
      · cases success
      next isMonth =>
        split at success
        next made =>
          cases success
          unfold ofParts? at made
          split at made
          next valid =>
            cases made
            have positive := valid.2.2.1
            simp only [firstYear, lastYear] at isYear
            exact ⟨by simp only; omega, by simp only; omega, by simp only; omega⟩
          · cases made
        · cases success
  · rintro ⟨rfl, rfl, rfl⟩
    obtain ⟨⟨positive, inCalendar⟩, ⟨isMonth, inYear⟩, isDay, inMonth⟩ := date.valid
    have short := daysInMonth_le date.year date.month
    simp only [lastYear] at inCalendar
    rw [ofParts_eq (by unfold IsPart; omega) (by unfold IsPart; omega) (by unfold IsPart; omega)]
    exact (ofCheckedParts_eq_ok_iff date.year date.month date.day date).mpr ⟨rfl, rfl, rfl⟩

/-- Adding months adds to the month of a date, and cuts the day down to the end of that month. -/
theorem addMonths_eq_ok {months : Int} :
    date.addMonths months = .ok other ↔
      (other.monthIndex : Int) = date.monthIndex + months ∧
        other.day = min date.day (daysInMonth other.year other.month) := by
  have dateMonth := date.valid.2.1
  have otherMonth := other.valid.2.1
  have quotient := Int.fmod_add_mul_fdiv ((date.month : Int) - 1 + months) 12
  have nonneg := Int.fmod_nonneg_of_pos ((date.month : Int) - 1 + months)
    (show (0 : Int) < 12 by decide)
  have small := Int.fmod_lt_of_pos ((date.month : Int) - 1 + months) (show (0 : Int) < 12 by decide)
  rw [addMonths, ofParts_eq_ok]
  have parts : (other.year : Int) = date.year + ((date.month : Int) - 1 + months).fdiv 12 ∧
      (other.month : Int) = ((date.month : Int) - 1 + months).fmod 12 + 1 ↔
        (other.monthIndex : Int) = date.monthIndex + months := by
    simp only [monthIndex]
    omega
  rw [← and_assoc, parts, Int.natCast_inj]
  refine and_congr_right fun reached => ?_
  obtain ⟨year, month⟩ := parts.mpr reached
  rw [← year, ← month, Int.fmod_eq_emod_of_nonneg _ (by decide), Int.toNat_natCast,
    show ((other.year : Int) % 400).toNat = other.year % 400 by omega, daysInMonth_mod]

/-- A later date is no earlier one after the same number of months. -/
theorem addMonths_mono {months : Int} {firstMoved secondMoved : Date} (earlier : first ≤ second)
    (firstAdded : first.addMonths months = .ok firstMoved)
    (secondAdded : second.addMonths months = .ok secondMoved) : firstMoved ≤ secondMoved := by
  obtain ⟨firstIndex, firstDay⟩ := addMonths_eq_ok.mp firstAdded
  obtain ⟨secondIndex, secondDay⟩ := addMonths_eq_ok.mp secondAdded
  rw [le_iff_monthIndex] at earlier ⊢
  rcases earlier with months | ⟨sameMonth, days⟩
  · omega
  · have same : firstMoved.monthIndex = secondMoved.monthIndex := by omega
    obtain ⟨years, months⟩ := monthIndex_inj same
    rw [years, months] at firstDay
    omega

end Date

end Observance
