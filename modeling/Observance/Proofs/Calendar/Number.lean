import Mathlib.Data.Nat.Init
import Observance.Calendar.Date

/-! # Dates by number

Every number from that of the first date to that of the last is the number of a date. The search
for the year keeps below the number, and the search for the month keeps the number of days that
are left, so what they end at are the parts of a date.
-/

namespace Observance

namespace Calendar

theorem daysBeforeMonth_thirteen (year : Nat) :
    daysBeforeMonth year 13 = 365 + if isLeapYear year then 1 else 0 := by
  simp only [daysBeforeMonth, daysInMonth]
  split <;> rfl

private theorem succ_div (n d : Nat) :
    (n + 1) / d = n / d + if (n + 1) % d = 0 then 1 else 0 := by
  rw [Nat.succ_div]
  simp only [Nat.dvd_iff_mod_eq_zero]

theorem daysBeforeYear_succ {year : Nat} (positive : 1 ≤ year) :
    daysBeforeYear (year + 1) = daysBeforeYear year + daysBeforeMonth year 13 := by
  obtain ⟨past, rfl⟩ := Nat.exists_eq_add_of_le' positive
  have multiple : past / 100 ≤ past := Nat.div_le_self past 100
  have centuries : (past + 1) % 100 = 0 → (past + 1) % 4 = 0 := by omega
  have cycles : (past + 1) % 400 = 0 → (past + 1) % 100 = 0 := by omega
  simp only [daysBeforeYear, Nat.add_sub_cancel, daysBeforeMonth_thirteen, isLeapYear,
    succ_div past 4, succ_div past 100, succ_div past 400]
  by_cases quarter : (past + 1) % 4 = 0 <;> by_cases century : (past + 1) % 100 = 0 <;>
    by_cases cycle : (past + 1) % 400 = 0 <;> simp [quarter, century, cycle] <;> grind

theorem daysBeforeYear_mono {first second : Nat} (positive : 1 ≤ first)
    (earlier : first ≤ second) : daysBeforeYear first ≤ daysBeforeYear second := by
  induction second, earlier using Nat.le_induction with
  | base => exact Nat.le_refl _
  | succ year later ih =>
    rw [daysBeforeYear_succ (Nat.le_trans positive later)]
    omega

theorem daysBeforeMonth_succ (year : Nat) {month : Nat} (positive : 1 ≤ month) :
    daysBeforeMonth year (month + 1) = daysBeforeMonth year month + daysInMonth year month := by
  obtain ⟨earlier, rfl⟩ := Nat.exists_eq_add_of_le' positive
  rfl

theorem daysBeforeMonth_mono (year : Nat) {first second : Nat} (positive : 1 ≤ first)
    (earlier : first ≤ second) : daysBeforeMonth year first ≤ daysBeforeMonth year second := by
  induction second, earlier using Nat.le_induction with
  | base => exact Nat.le_refl _
  | succ month later ih =>
    rw [daysBeforeMonth_succ year (Nat.le_trans positive later)]
    omega

/-- The search for a year ends at the year that a number lies in. -/
theorem yearOfNumber_spec {number year : Nat} (inCalendar : number ≤ lastNumber)
    (positive : 1 ≤ year) (known : year ≤ lastYear) (begun : daysBeforeYear year < number) :
    (1 ≤ yearOfNumber number year ∧ yearOfNumber number year ≤ lastYear) ∧
      daysBeforeYear (yearOfNumber number year) < number ∧
      number ≤ daysBeforeYear (yearOfNumber number year + 1) := by
  fun_induction yearOfNumber number year with
  | case1 year later ih => exact ih (by omega) (by omega) later.1
  | case2 year ends =>
    refine ⟨⟨positive, known⟩, begun, ?_⟩
    by_cases last : year = lastYear
    · subst last
      exact inCalendar
    · omega

/-- The search for a month ends at the month that a day lies in. -/
theorem monthAndDay_spec {year month day : Nat} (isMonth : 1 ≤ month ∧ month ≤ 12)
    (positive : 1 ≤ day)
    (inYear : daysBeforeMonth year month + day ≤ daysBeforeMonth year 13) :
    (1 ≤ (monthAndDay year month day).1 ∧ (monthAndDay year month day).1 ≤ 12) ∧
      (1 ≤ (monthAndDay year month day).2 ∧
        (monthAndDay year month day).2 ≤ daysInMonth year (monthAndDay year month day).1) ∧
      daysBeforeMonth year (monthAndDay year month day).1 + (monthAndDay year month day).2 =
        daysBeforeMonth year month + day := by
  fun_induction monthAndDay year month day with
  | case1 month day later ih =>
    have step := daysBeforeMonth_succ year isMonth.1
    obtain ⟨months, days, same⟩ := ih (by omega) (by omega) (by omega)
    exact ⟨months, days, by omega⟩
  | case2 month day ends =>
    refine ⟨isMonth, ⟨positive, ?_⟩, rfl⟩
    change day ≤ daysInMonth year month
    by_cases last : month = 12
    · subst last
      have step : daysBeforeMonth year 13 = daysBeforeMonth year 12 + daysInMonth year 12 := rfl
      omega
    · omega

end Calendar

namespace Date

open Calendar

theorem number_pos (date : Date) : 1 ≤ date.number :=
  Nat.le_add_left_of_le date.valid.2.2.1

theorem ofParts?_eq_some {year month day : Nat} (valid : IsDate year month day) :
    ofParts? year month day = some ⟨year, month, day, valid⟩ := dif_pos valid

/-- Every number up to that of the last date is the number of a date. -/
theorem exists_of_number {number : Nat} (positive : 1 ≤ number)
    (inCalendar : number ≤ lastNumber) :
    ∃ date, ofNumber? number = some date ∧ date.number = number := by
  have begun : daysBeforeYear ((number - 1) / 366 + 1) < number := by
    simp only [daysBeforeYear]
    omega
  have known : (number - 1) / 366 + 1 ≤ lastYear := by
    simp only [lastYear, lastNumber] at inCalendar ⊢
    omega
  have spec := yearOfNumber_spec inCalendar (Nat.le_add_left 1 _) known begun
  rw [ofNumber?, if_neg (by omega)]
  simp only
  generalize yearOfNumber number ((number - 1) / 366 + 1) = year at spec ⊢
  obtain ⟨years, before, within⟩ := spec
  rw [daysBeforeYear_succ years.1] at within
  have noMonths : daysBeforeMonth year 1 = 0 := rfl
  obtain ⟨months, days, same⟩ := monthAndDay_spec (show 1 ≤ 1 ∧ 1 ≤ 12 by decide)
    (show 1 ≤ number - daysBeforeYear year by omega) (show daysBeforeMonth year 1 + _ ≤ _ by omega)
  refine ⟨_, ofParts?_eq_some ⟨years, months, days⟩, ?_⟩
  simp only [Date.number]
  omega

end Date

end Observance
