import Observance.Calendar.Parts
import Observance.Proofs.Calendar.DateText
import Observance.Proofs.Calendar.Number
import Observance.Proofs.Result

/-! # Adding days

A date is known by its number: the number says which year it lies in, then which month, then which
day. So adding days to a date gives the date whose number is the sum, or nothing if no date has that
number. Days that run on past the end of their month stay within their year, because the last month
is as long as any.
-/

namespace Observance

namespace Calendar

/-- Whether an integer is the number of a date. -/
def IsNumber (number : Int) : Prop := 1 ≤ number ∧ number ≤ lastNumber

instance (number : Int) : Decidable (IsNumber number) := by
  unfold IsNumber
  infer_instance

theorem le_daysInMonth (year month : Nat) : 28 ≤ daysInMonth year month := by
  unfold daysInMonth
  split
  · split <;> decide
  all_goals decide

end Calendar

namespace Date

open Calendar Result

/-- The number of a date lies in its year. -/
theorem number_mem_year (date : Date) :
    daysBeforeYear date.year < date.number ∧ date.number ≤ daysBeforeYear (date.year + 1) := by
  obtain ⟨⟨positive, -⟩, ⟨isMonth, inYear⟩, isDay, inMonth⟩ := date.valid
  have next := daysBeforeMonth_succ date.year isMonth
  have months := daysBeforeMonth_mono date.year (Nat.le_add_left 1 date.month)
    (show date.month + 1 ≤ 13 by omega)
  rw [daysBeforeYear_succ positive, number]
  omega

/-- A date is not before a year exactly if all days before that year are past. -/
theorem le_year_iff {date : Date} {year : Nat} (positive : 1 ≤ year) :
    year ≤ date.year ↔ daysBeforeYear year < date.number := by
  obtain ⟨start, stop⟩ := date.number_mem_year
  constructor
  · intro later
    exact Nat.lt_of_le_of_lt (daysBeforeYear_mono positive later) start
  · intro begun
    by_contra earlier
    have := daysBeforeYear_mono (Nat.le_add_left 1 date.year)
      (show date.year + 1 ≤ year by omega)
    omega

/-- The year that the number of a date lies in is the year of the date. -/
theorem year_eq_of_number {date : Date} {year : Nat} (begun : daysBeforeYear year < date.number)
    (within : date.number ≤ daysBeforeYear (year + 1)) : date.year = year := by
  obtain ⟨start, stop⟩ := date.number_mem_year
  rcases Nat.lt_trichotomy date.year year with earlier | same | later
  · have := daysBeforeYear_mono (Nat.le_add_left 1 date.year) (Nat.succ_le_of_lt earlier)
    omega
  · exact same
  · have := daysBeforeYear_mono (Nat.le_add_left 1 year) (Nat.succ_le_of_lt later)
    omega

/-- Two days of months of one year are not on the same day of the year. -/
private theorem month_eq_of_number {year month other day days : Nat} (isMonth : 1 ≤ month)
    (isOther : 1 ≤ other) (isDay : 1 ≤ day ∧ day ≤ daysInMonth year month)
    (areDays : 1 ≤ days ∧ days ≤ daysInMonth year other)
    (same : daysBeforeMonth year month + day = daysBeforeMonth year other + days) :
    month = other := by
  rcases Nat.lt_trichotomy month other with earlier | same | later
  · have := daysBeforeMonth_succ year isMonth
    have := daysBeforeMonth_mono year (Nat.le_add_left 1 month) (Nat.succ_le_of_lt earlier)
    omega
  · exact same
  · have := daysBeforeMonth_succ year isOther
    have := daysBeforeMonth_mono year (Nat.le_add_left 1 other) (Nat.succ_le_of_lt later)
    omega

/-- No two dates have the same number. -/
theorem number_injective {first second : Date} (same : first.number = second.number) :
    first = second := by
  obtain ⟨begun, within⟩ := first.number_mem_year
  have years : second.year = first.year := by
    rw [same] at begun within
    exact year_eq_of_number begun within
  rw [number, number, years] at same
  have valid := second.valid
  rw [years] at valid
  have months : first.month = second.month :=
    month_eq_of_number first.valid.2.1.1 valid.2.1.1 first.valid.2.2 valid.2.2 (by omega)
  rw [months] at same
  cases first
  cases second
  simp only at years months same
  subst years months
  simp only [mk.injEq, true_and]
  omega

theorem number_le (date : Date) : date.number ≤ lastNumber := by
  have years := daysBeforeYear_mono (Nat.le_add_left 1 date.year)
    (show date.year + 1 ≤ lastYear + 1 from Nat.succ_le_succ date.valid.1.2)
  have last : daysBeforeYear (lastYear + 1) = lastNumber := by decide
  exact Nat.le_trans date.number_mem_year.2 (last ▸ years)

theorem isNumber_number (date : Date) : IsNumber date.number :=
  ⟨Int.ofNat_le.mpr date.number_pos, Int.ofNat_le.mpr date.number_le⟩

theorem ofNumber?_eq_some {number : Nat} {date : Date} :
    ofNumber? number = some date ↔ date.number = number := by
  constructor
  · intro found
    by_cases inCalendar : 1 ≤ number ∧ number ≤ lastNumber
    · obtain ⟨other, found', same⟩ := exists_of_number inCalendar.1 inCalendar.2
      rw [found] at found'
      cases found'
      exact same
    · rw [ofNumber?, if_pos (by omega)] at found
      cases found
  · rintro rfl
    obtain ⟨other, found, same⟩ := exists_of_number date.number_pos date.number_le
    rw [found, number_injective same]

/-- Adding days adds to the number of a date. -/
theorem addDays?_eq_some {date other : Date} {days : Int} :
    date.addDays? days = some other ↔ (other.number : Int) = date.number + days := by
  have := other.number_pos
  rw [addDays?, ofNumber?_eq_some]
  omega

/-- An integer is the number of a date exactly if it is in the calendar. -/
theorem exists_number_eq {number : Int} :
    (∃ date : Date, (date.number : Int) = number) ↔ IsNumber number := by
  constructor
  · rintro ⟨date, rfl⟩
    exact date.isNumber_number
  · rintro ⟨positive, inCalendar⟩
    obtain ⟨date, -, same⟩ := exists_of_number (show 1 ≤ number.toNat by omega) (by omega)
    exact ⟨date, by omega⟩

theorem checkDuration_eq_ok {days : Int} :
    checkDuration days = .ok () ↔ days.natAbs ≤ 999999999 := by
  unfold checkDuration
  split
  · simp only [reduceCtorEq, false_iff]
    omega
  · split
    · simp only [reduceCtorEq, false_iff]
      omega
    · simp only [true_iff]
      omega

/-- A duration can be as long as any two dates are apart. -/
theorem checkDuration_between (start stop : Date) :
    checkDuration ((stop.number : Int) - start.number) = .ok () := by
  have starts := start.isNumber_number
  have stops := stop.isNumber_number
  simp only [IsNumber, lastNumber] at starts stops
  exact checkDuration_eq_ok.mpr (by omega)

theorem moveBy_eq_ok {date other : Date} {days : Int} :
    date.moveBy days = .ok other ↔ (other.number : Int) = date.number + days := by
  rw [← addDays?_eq_some, moveBy]
  cases date.addDays? days <;> simp

/-- A duration leads to the date whose number is the sum. Days that are too many for a duration
would lead out of the calendar anyway. -/
theorem addDays_eq_ok {date other : Date} {days : Int} :
    date.addDays days = .ok other ↔ (other.number : Int) = date.number + days := by
  simp only [addDays, bind_eq_ok, moveBy_eq_ok]
  refine ⟨fun ⟨_, _, sum⟩ => sum, fun sum => ⟨(), ?_, sum⟩⟩
  rw [show days = (other.number : Int) - date.number by omega]
  exact checkDuration_between date other

/-- A duration leads back to the date whose number is the difference. -/
theorem subDays_eq_ok {date other : Date} {days : Int} :
    date.subDays days = .ok other ↔ (other.number : Int) = date.number - days := by
  simp only [subDays, bind_eq_ok, moveBy_eq_ok, ← Int.sub_eq_add_neg]
  refine ⟨fun ⟨_, _, difference⟩ => difference, fun difference => ⟨(), ?_, difference⟩⟩
  rw [show days = (date.number : Int) - other.number by omega]
  exact checkDuration_between other date

/-- The number of a day that may run on past the end of its month. -/
theorem number_of_ofRunningDay {year month day : Nat} {date : Date}
    (success : ofRunningDay year month day = .ok date) :
    (date.number : Int) = daysBeforeYear year + daysBeforeMonth year month + (day : Int) ∧
      IsDate year month 1 := by
  obtain ⟨start, made, added⟩ := bind_eq_ok.mp success
  simp only [ofParts, bind_eq_ok] at made
  obtain ⟨_, -, _, -, _, -, made⟩ := made
  obtain ⟨rfl, rfl, first⟩ := (ofCheckedParts_eq_ok_iff year month 1 start).mp made
  have sum := addDays_eq_ok.mp added
  have valid := start.valid
  rw [first] at valid
  rw [sum, number, first]
  exact ⟨by omega, valid⟩

/-- A day runs on past the end of its month, but not past the end of its year. -/
theorem year_of_ofRunningDay {year month day : Nat} {date : Date} (isDay : 1 ≤ day ∧ day ≤ 31)
    (success : ofRunningDay year month day = .ok date) : date.year = year := by
  obtain ⟨same, ⟨positive, -⟩, ⟨isMonth, inYear⟩, -⟩ := number_of_ofRunningDay success
  have room : daysBeforeMonth year month + 31 ≤ daysBeforeMonth year 13 := by
    rcases Nat.lt_or_ge month 12 with earlier | last
    · have next := daysBeforeMonth_succ year isMonth
      have afterNext := daysBeforeMonth_succ year (Nat.le_add_left 1 month)
      have months := daysBeforeMonth_mono year (Nat.le_add_left 1 (month + 1))
        (show month + 2 ≤ 13 by omega)
      have := le_daysInMonth year month
      have := le_daysInMonth year (month + 1)
      omega
    · obtain rfl : month = 12 := by omega
      exact Nat.le_refl _
  have next := daysBeforeYear_succ positive
  exact year_eq_of_number (by omega) (by omega)

end Date

end Observance
