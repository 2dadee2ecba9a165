import Observance.Proofs.Calendar.Months
import Observance.Resolver

/-! # The two days of a rule with a fixed day

A day from 1 to 31 falls into every month: on the day itself if the month has it, and otherwise into
the following month, as many days as the month is too short. December has 31 days, so there is
always a following month in the same year. Therefore a rule with a fixed day has one entry in the
current year and one in the next, unless there is no next year.
-/

namespace Observance

open Calendar Result

/-- The date that a day of a month falls on. -/
inductive Date.FallsOn (date : Date) (year month day : Nat) : Prop
  /-- The month has the day. -/
  | within (isYear : date.year = year) (isMonth : date.month = month) (isDay : date.day = day)
  /-- The month is too short, and the days go on in the following one. -/
  | after (absent : ¬ IsDate year month day) (isYear : date.year = year)
      (isMonth : date.month = month + 1) (isDay : daysInMonth year month + date.day = day)

namespace Date

variable {date other : Date} {year month day : Nat}

/-- Days are counted on past the end of a month. -/
theorem FallsOn.number (falls : date.FallsOn year month day) (positive : 1 ≤ month) :
    date.number = daysBeforeYear year + daysBeforeMonth year month + day := by
  cases falls with
  | within isYear isMonth isDay => rw [Date.number, isYear, isMonth, isDay]
  | after absent isYear isMonth isDay =>
    rw [Date.number, isYear, isMonth, daysBeforeMonth_succ year positive]
    omega

/-- A day of a month falls on no more than one date. -/
theorem FallsOn.unique (falls : date.FallsOn year month day) (positive : 1 ≤ month)
    (otherFalls : other.FallsOn year month day) : date = other :=
  number_injective ((falls.number positive).trans (otherFalls.number positive).symm)

/-- A day of a month falls on a date of the same year. -/
theorem exists_fallsOn (isYear : firstYear ≤ year ∧ year ≤ lastYear)
    (isMonth : 1 ≤ month ∧ month ≤ 12) (isDay : 1 ≤ day ∧ day ≤ 31) :
    ∃ date : Date, date.FallsOn year month day := by
  by_cases inMonth : day ≤ daysInMonth year month
  · exact ⟨⟨year, month, day, isYear, isMonth, isDay.1, inMonth⟩, .within rfl rfl rfl⟩
  · have notLast : month ≠ 12 := by
      rintro rfl
      exact inMonth isDay.2
    have long := le_daysInMonth year month
    have nextLong := le_daysInMonth year (month + 1)
    have valid : IsDate year (month + 1) (day - daysInMonth year month) :=
      ⟨isYear, by omega, by omega⟩
    refine ⟨⟨_, _, _, valid⟩, .after (fun isDate => inMonth isDate.2.2.2) rfl rfl ?_⟩
    simp only
    omega

/-- The date of a running day is the one that it falls on. -/
theorem ofRunningDay_of_fallsOn (falls : date.FallsOn year month day)
    (isMonth : 1 ≤ month ∧ month ≤ 12) : ofRunningDay year month day = .ok date := by
  have isYear : date.year = year := by cases falls <;> assumption
  have first : IsDate year month 1 :=
    ⟨isYear ▸ date.valid.1, isMonth, Nat.le_refl 1, by have := le_daysInMonth year month; omega⟩
  have sum : (date.number : Int) = (⟨year, month, 1, first⟩ : Date).number + ((day : Int) - 1) := by
    rw [falls.number isMonth.1]
    simp only [number]
    omega
  refine bind_eq_ok.mpr ⟨⟨year, month, 1, first⟩, ofParts_eq_ok.mpr ⟨rfl, rfl, rfl⟩, ?_⟩
  exact addDays_eq_ok.mpr sum

/-- There are no days after the last year. -/
theorem ofRunningDay_nextYear (isMonth : 1 ≤ month ∧ month ≤ 12) :
    ofRunningDay (lastYear + 1 : Nat) month day =
      .error (.yearOutOfRange (lastYear + 1 : Nat)) := by
  rw [ofRunningDay, ofParts_eq (by unfold IsPart; decide)
    (by unfold IsPart; omega) (by unfold IsPart; omega),
    ofCheckedParts, if_pos (.inr (by decide))]
  rfl

end Date

namespace Resolver

variable {month day : Nat}

theorem resolveInYear_of_fallsOn (rule : Rule) {date : Date} {year : Nat}
    (falls : date.FallsOn year month day) (isMonth : 1 ≤ month ∧ month ≤ 12) :
    resolveInYear rule month day year = .ok (resolvedEvent rule date date) :=
  bind_eq_ok.mpr ⟨date, Date.ofRunningDay_of_fallsOn falls isMonth, rfl⟩

/-- A rule with a fixed day has two entries of one day each: the date that the day falls on in the
current year, and the one in the next. In the last year of the calendar it cannot be resolved. -/
theorem resolveFixed_fallsOn (resolver : Resolver) (rule : Rule)
    (isMonth : 1 ≤ month ∧ month ≤ 12) (isDay : 1 ≤ day ∧ day ≤ 31) :
    (resolver.today.year < lastYear → ∃ current next : Date,
      current.FallsOn resolver.today.year month day ∧
        next.FallsOn (resolver.today.year + 1) month day ∧
        resolver.resolveFixed rule month day =
          .ok [resolvedEvent rule current current, resolvedEvent rule next next]) ∧
      (resolver.today.year = lastYear → ∃ error,
        resolver.resolveFixed rule month day = .error error ∧ error.kind = "ValueError") := by
  have isYear := resolver.today.valid.1
  obtain ⟨current, isCurrent⟩ := Date.exists_fallsOn isYear isMonth isDay
  have thisYear := resolveInYear_of_fallsOn rule isCurrent isMonth
  constructor
  · intro notLast
    obtain ⟨next, isNext⟩ := Date.exists_fallsOn
      (show firstYear ≤ resolver.today.year + 1 ∧ _ from ⟨by omega, notLast⟩) isMonth isDay
    have nextYear := resolveInYear_of_fallsOn rule isNext isMonth
    refine ⟨current, next, isCurrent, isNext, ?_⟩
    rw [resolveFixed, thisYear, nextYear]
    rfl
  · intro last
    refine ⟨.yearOutOfRange (lastYear + 1 : Nat), ?_, rfl⟩
    rw [resolveFixed, thisYear, last, resolveInYear, Date.ofRunningDay_nextYear isMonth]
    rfl

section Carnival

/-- A rule for a day that February never has. -/
def carnivalRule : Rule :=
  { id := "carnival", name := "Carnival", importance := "national", themeId := "masks"
    dateRule := .fixed 2 30 }

def yearEnd : Resolver := ⟨⟨2023, 12, 31, by decide⟩, ⟨2025, 6, 30, by decide⟩⟩

/-- The thirtieth of February falls on a different day of March in a leap year. -/
theorem resolveFixed_fallsOn_leapYear : yearEnd.resolveFixed carnivalRule 2 30 =
    .ok [resolvedEvent carnivalRule ⟨2023, 3, 2, by decide⟩ ⟨2023, 3, 2, by decide⟩,
      resolvedEvent carnivalRule ⟨2024, 3, 1, by decide⟩ ⟨2024, 3, 1, by decide⟩] := by
  obtain ⟨current, next, isCurrent, isNext, resolved⟩ :=
    (resolveFixed_fallsOn yearEnd carnivalRule (show 1 ≤ 2 ∧ 2 ≤ 12 by decide)
      (show 1 ≤ 30 ∧ 30 ≤ 31 by decide)).1 (by decide)
  have thisYear := isCurrent.unique (by decide)
    (show (⟨2023, 3, 2, by decide⟩ : Date).FallsOn 2023 2 30 from .after (by decide) rfl rfl rfl)
  have nextYear := isNext.unique (by decide)
    (show (⟨2024, 3, 1, by decide⟩ : Date).FallsOn 2024 2 30 from .after (by decide) rfl rfl rfl)
  rw [resolved, thisYear, nextYear]

end Carnival

end Resolver

end Observance
