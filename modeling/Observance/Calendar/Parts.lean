import Observance.Calendar.Date
import Observance.Calendar.Error

/-! # Dates from parts

Parts may be any integers. They are first checked, one after another, against the machine's
integers, and then against the calendar: the year, the month, the day.
-/

namespace Observance

namespace Calendar

/-- A part that fits into 32 bits. -/
def checkPart (part : Int) : Except DateError Unit :=
  if part < -0x8000000000000000 ∨ 0x8000000000000000 ≤ part then .error .beyondPart
  else if 0x80000000 ≤ part then .error .abovePart
  else if part < -0x80000000 then .error .belowPart
  else .ok ()

/-- A number of days that a duration may have. -/
def checkDuration (days : Int) : Except DateError Unit :=
  if days < -0x80000000 ∨ 0x80000000 ≤ days then .error .beyondDays
  else if days.natAbs > 999999999 then .error (.durationOutOfRange days)
  else .ok ()

end Calendar

namespace Date

open Calendar

/-- The date with the given parts, each of which fits into 32 bits. -/
def ofCheckedParts (year month day : Int) : Except DateError Date :=
  if year < firstYear ∨ lastYear < year then .error (.yearOutOfRange year)
  else if month < 1 ∨ 12 < month then .error .monthOutOfRange
  else match ofParts? year.toNat month.toNat day.toNat with
    | some date => .ok date
    | none => .error .dayOutOfRange

def ofParts (year month day : Int) : Except DateError Date := do
  checkPart year
  checkPart month
  checkPart day
  ofCheckedParts year month day

/-- The date a number of days later, unless that leaves the calendar. -/
def moveBy (date : Date) (days : Int) : Except DateError Date :=
  match date.addDays? days with
  | some result => .ok result
  | none => .error .outsideCalendar

/-- The date after a duration of some days. -/
def addDays (date : Date) (days : Int) : Except DateError Date := do
  checkDuration days
  date.moveBy days

/-- The date before a duration of some days. -/
def subDays (date : Date) (days : Int) : Except DateError Date := do
  checkDuration days
  date.moveBy (-days)

/-- The date of a day of a month, where days past the end of the month run on into the next. -/
def ofRunningDay (year month day : Int) : Except DateError Date := do
  let firstOfMonth ← ofParts year month 1
  firstOfMonth.addDays (day - 1)

/-- The date a number of months later: the same day, or the last day of a shorter month. -/
def addMonths (date : Date) (months : Int) : Except DateError Date :=
  let index : Int := (date.month : Int) - 1 + months
  let year : Int := date.year + index.fdiv 12
  let month : Int := index.fmod 12 + 1
  let last := daysInMonth (year.fmod 400).toNat month.toNat
  ofParts year month (min date.day last : Nat)

end Date

end Observance
