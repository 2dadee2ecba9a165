import Observance.Proofs.Calendar.Months

/-! # The arithmetic of months

A number of months leads to the month that so many months later or earlier is, in every year of the
calendar and in no other, and there to the same day or, in a shorter month, to the last one. Where
it leads to depends on the count of months and on the day alone. So of two dates the later one stays
the later one, more months lead further, and months may be added one after another as long as no day
is cut down.
-/

namespace Observance

open Calendar

namespace Calendar

def IsYear (year : Int) : Prop := firstYear ≤ year ∧ year ≤ lastYear

instance (year : Int) : Decidable (IsYear year) := inferInstanceAs (Decidable (_ ∧ _))

end Calendar

namespace Date

/-- The number of the month that a number of months leads to. -/
def indexAfter (date : Date) (months : Int) : Int := date.monthIndex + months

/-- Whether a date is where a number of months leads to: its month is the one that is reached, and
its day is that of the first date or the last one of the month. -/
structure IsMonthsAfter (date : Date) (months : Int) (moved : Date) : Prop where
  year : (moved.year : Int) = date.indexAfter months / 12
  month : (moved.month : Int) = date.indexAfter months % 12 + 1
  day : moved.day = min date.day (daysInMonth moved.year moved.month)

/-- The laws of an addition of months to dates. -/
structure IsMonthArithmetic (add : Date → Int → Except DateError Date) : Prop where
  /-- A month of the calendar is reached. -/
  reaches (date : Date) (months : Int) : IsYear (date.indexAfter months / 12) →
    ∃ moved, add date months = .ok moved ∧ date.IsMonthsAfter months moved
  /-- No other month is, and a year that does not fit into 32 bits overflows. -/
  refuses (date : Date) (months : Int) : ¬ IsYear (date.indexAfter months / 12) →
    ∃ error, add date months = .error error ∧ error.kind =
      if IsPart (date.indexAfter months / 12) then "ValueError" else "OverflowError"
  /-- A later date is no earlier one after the same number of months. -/
  mono {first second firstMoved secondMoved : Date} {months : Int} : first ≤ second →
    add first months = .ok firstMoved → add second months = .ok secondMoved →
      firstMoved ≤ secondMoved
  /-- More months lead to a later date. -/
  strictMono {date moved further : Date} {fewer more : Int} : fewer < more →
    add date fewer = .ok moved → add date more = .ok further → moved < further
  /-- No months lead nowhere. -/
  zero (date : Date) : add date 0 = .ok date
  /-- Months that are added one after another are added at once, if every month has the day. -/
  add_add {date moved : Date} {months more : Int} : date.day ≤ 28 → add date months = .ok moved →
    add moved more = add date (months + more)

variable {date moved first second : Date} {months more : Int}

theorem monthIndex_eq_iff {index : Int} : (date.monthIndex : Int) = index ↔
    (date.year : Int) = index / 12 ∧ (date.month : Int) = index % 12 + 1 := by
  have isMonth := date.valid.2.1
  rw [monthIndex]
  omega

/-- Every month of the calendar has a date that is on a day, or on its last one. -/
theorem exists_monthIndex {index : Int} {day : Nat} (isYear : IsYear (index / 12))
    (positive : 1 ≤ day) : ∃ date : Date,
      (date.monthIndex : Int) = index ∧ date.day = min day (daysInMonth date.year date.month) := by
  unfold IsYear at isYear
  obtain ⟨year, years⟩ := Int.eq_ofNat_of_zero_le (show 0 ≤ index / 12 by omega)
  obtain ⟨month, months⟩ := Int.eq_ofNat_of_zero_le (show 0 ≤ index % 12 by omega)
  have long := le_daysInMonth year (month + 1)
  have valid : IsDate year (month + 1) (min day (daysInMonth year (month + 1))) :=
    ⟨by omega, by omega, by omega⟩
  exact ⟨⟨_, _, _, valid⟩, monthIndex_eq_iff.mpr ⟨years.symm, by simp only; omega⟩, rfl⟩

theorem addMonths_eq_ok_iff_isMonthsAfter :
    date.addMonths months = .ok moved ↔ date.IsMonthsAfter months moved := by
  rw [addMonths_eq_ok, ← indexAfter, monthIndex_eq_iff]
  exact ⟨fun ⟨⟨year, month⟩, day⟩ => ⟨year, month, day⟩,
    fun ⟨year, month, day⟩ => ⟨⟨year, month⟩, day⟩⟩

theorem yearAfter_eq (date : Date) (months : Int) :
    date.yearAfter months = date.indexAfter months / 12 := by
  have isMonth := date.valid.2.1
  rw [yearAfter, indexAfter, monthIndex, Int.fdiv_eq_ediv_of_nonneg _ (by decide)]
  omega

/-- Months that lead out of the calendar lead to no date. -/
theorem addMonths_eq_error (outside : ¬ IsYear (date.indexAfter months / 12)) :
    ∃ error, date.addMonths months = .error error ∧ error.kind =
      if IsPart (date.indexAfter months / 12) then "ValueError" else "OverflowError" := by
  have overflows := date.addMonths_overflows_iff months
  rw [yearAfter_eq] at overflows
  cases result : date.addMonths months with
  | ok moved =>
    have reached := (addMonths_eq_ok_iff_isMonthsAfter.mp result).year
    have inCalendar := moved.valid.1
    unfold IsYear at outside
    omega
  | error error =>
    simp only [result, Except.error.injEq, exists_eq_left'] at overflows
    exact ⟨error, rfl, by simp only [DateError.kind, overflows, ite_not]⟩

/-- Adding months asks for nothing but the month that is reached and the day. -/
theorem addMonths_congr (index : first.indexAfter months = second.indexAfter more)
    (day : first.day = second.day) : first.addMonths months = second.addMonths more := by
  have firstMonth := first.valid.2.1
  have secondMonth := second.valid.2.1
  simp only [indexAfter, monthIndex] at index
  have years : (first.year : Int) + ((first.month : Int) - 1 + months).fdiv 12 =
      second.year + ((second.month : Int) - 1 + more).fdiv 12 := by
    rw [Int.fdiv_eq_ediv_of_nonneg _ (by decide), Int.fdiv_eq_ediv_of_nonneg _ (by decide)]
    omega
  have months : ((first.month : Int) - 1 + months).fmod 12 =
      ((second.month : Int) - 1 + more).fmod 12 := by
    rw [Int.fmod_eq_emod_of_nonneg _ (by decide), Int.fmod_eq_emod_of_nonneg _ (by decide)]
    omega
  simp only [addMonths, years, months, day]

/-- A day that every month has is not cut down. -/
theorem day_of_addMonths (short : date.day ≤ 28) (added : date.addMonths months = .ok moved) :
    moved.day = date.day := by
  have long := le_daysInMonth moved.year moved.month
  rw [(addMonths_eq_ok.mp added).2]
  omega

/-- Months are added by the count of months, in the calendar and nowhere else; the order of dates
is kept, and so is the order of numbers of months. -/
theorem isMonthArithmetic_addMonths : IsMonthArithmetic addMonths where
  reaches date months isYear := by
    obtain ⟨moved, index, day⟩ := exists_monthIndex isYear date.valid.2.2.1
    have added := addMonths_eq_ok.mpr ⟨index, day⟩
    exact ⟨moved, added, addMonths_eq_ok_iff_isMonthsAfter.mp added⟩
  refuses date months outside := addMonths_eq_error outside
  mono := addMonths_mono
  strictMono := by
    intro date moved further fewer more less added addedMore
    have index := (addMonths_eq_ok.mp added).1
    have indexMore := (addMonths_eq_ok.mp addedMore).1
    exact number_lt_of_monthIndex (by omega)
  zero date := addMonths_eq_ok.mpr ⟨(Int.add_zero _).symm, (Nat.min_eq_left date.valid.2.2.2).symm⟩
  add_add := by
    intro date moved months more short added
    have index := (addMonths_eq_ok.mp added).1
    refine addMonths_congr ?_ (day_of_addMonths short added)
    rw [indexAfter, indexAfter, index, Int.add_assoc]

/-- The last day of August is cut down to that of February, and not put back. -/
example : (Date.mk 2024 8 31 (by decide)).addMonths 18 = .ok ⟨2026, 2, 28, by decide⟩ ∧
    (Date.mk 2026 2 28 (by decide)).addMonths (-18) = .ok ⟨2024, 8, 28, by decide⟩ := by decide

end Date

end Observance
