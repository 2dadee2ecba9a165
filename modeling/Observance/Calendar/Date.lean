import Observance.Text.Digit

/-! # Dates

The calendar has the years 1 to 9999 with the Gregorian leap years throughout. Every date has a
number: the first day of year 1 has number 1 and the last day of year 9999 has number 3652059.
Dates are ordered by number, and days are added by adding to the number, which may leave the
calendar.
-/

namespace Observance

namespace Calendar

def isLeapYear (year : Nat) : Bool :=
  year % 4 == 0 && (year % 100 != 0 || year % 400 == 0)

def daysInMonth (year month : Nat) : Nat :=
  match month with
  | 2 => if isLeapYear year then 29 else 28
  | 4 | 6 | 9 | 11 => 30
  | _ => 31

def daysBeforeYear (year : Nat) : Nat :=
  let past := year - 1
  365 * past + past / 4 - past / 100 + past / 400

def daysBeforeMonth (year : Nat) : Nat → Nat
  | 0 | 1 => 0
  | month + 2 => daysBeforeMonth year (month + 1) + daysInMonth year (month + 1)

/-- The first year of the calendar. -/
def firstYear : Nat := 1

def lastYear : Nat := 9999

/-- The number of the last date of the calendar. -/
def lastNumber : Nat := 3652059

def IsDate (year month day : Nat) : Prop :=
  (firstYear ≤ year ∧ year ≤ lastYear) ∧ (1 ≤ month ∧ month ≤ 12) ∧
    (1 ≤ day ∧ day ≤ daysInMonth year month)

instance (year month day : Nat) : Decidable (IsDate year month day) := by
  unfold IsDate
  infer_instance

/-- The year of a day: the last year, from `year` on, that does not begin after it. -/
def yearOfNumber (number year : Nat) : Nat :=
  if daysBeforeYear (year + 1) < number ∧ year < lastYear then yearOfNumber number (year + 1)
  else year
termination_by lastYear - year

def monthAndDay (year month day : Nat) : Nat × Nat :=
  if daysInMonth year month < day ∧ month < 12 then
    monthAndDay year (month + 1) (day - daysInMonth year month)
  else (month, day)
termination_by 12 - month

end Calendar

open Calendar in
/-- A date of the calendar. -/
structure Date where
  year : Nat
  month : Nat
  day : Nat
  valid : IsDate year month day
deriving DecidableEq, Repr

namespace Date

open Calendar Text

def ofParts? (year month day : Nat) : Option Date :=
  if valid : IsDate year month day then some ⟨year, month, day, valid⟩ else none

def first : Date := ⟨1, 1, 1, by decide⟩

instance : Inhabited Date := ⟨first⟩

/-- The number of a date. -/
def number (date : Date) : Nat :=
  daysBeforeYear date.year + daysBeforeMonth date.year date.month + date.day

/-- The date with a number, if there is one. Searching for the year may start at the 366th part of
the number, because no year is longer. -/
def ofNumber? (number : Nat) : Option Date :=
  if number = 0 ∨ lastNumber < number then none
  else
    let year := yearOfNumber number ((number - 1) / 366 + 1)
    let (month, day) := monthAndDay year 1 (number - daysBeforeYear year)
    ofParts? year month day

/-- The date a number of days later, or earlier if it is negative, unless that leaves the
calendar. -/
def addDays? (date : Date) (days : Int) : Option Date :=
  ofNumber? ((date.number : Int) + days).toNat

def daysUntil (start stop : Date) : Int := (stop.number : Int) - start.number

instance : LE Date := ⟨fun a b => a.number ≤ b.number⟩

instance : LT Date := ⟨fun a b => a.number < b.number⟩

instance (a b : Date) : Decidable (a ≤ b) := inferInstanceAs (Decidable (a.number ≤ b.number))

instance (a b : Date) : Decidable (a < b) := inferInstanceAs (Decidable (a.number < b.number))

/-- The text of a date: four digits of the year, and two of month and day, with hyphens. -/
def text (date : Date) : Text :=
  paddedDecimal 4 date.year ++ .char '-' :: paddedDecimal 2 date.month ++
    .char '-' :: paddedDecimal 2 date.day

end Date

end Observance
