import Observance.Text.Quoted

/-! # Errors about dates and times

Two kinds of errors are told apart. A *malformed* part is one that no date or time can have. An
*overflow* is a number too large for the machine's integers, for durations, or for the calendar.
-/

namespace Observance

open Observance.Text

/-- Why a date or a time cannot be made. -/
inductive DateError where
  /-- The year is not one of the calendar. -/
  | yearOutOfRange (year : Int)
  /-- The month is not from 1 to 12. -/
  | monthOutOfRange
  /-- The month has no such day. -/
  | dayOutOfRange
  /-- The hour is not from 0 to 23. -/
  | hourOutOfRange
  /-- The minute is not from 0 to 59. -/
  | minuteOutOfRange
  /-- The second is not from 0 to 59. -/
  | secondOutOfRange
  /-- The microsecond is not from 0 to 999999. -/
  | microsecondOutOfRange
  /-- The offset from universal time is a day or more. -/
  | offsetOutOfRange (microseconds : Int)
  /-- The text does not have the form of a date. -/
  | malformed (text : Text)
  /-- A part is above the integers of 32 bits. -/
  | abovePart
  /-- A part is below the integers of 32 bits. -/
  | belowPart
  /-- A part is outside the integers of 64 bits. -/
  | beyondPart
  /-- A number of days is outside the integers of 32 bits. -/
  | beyondDays
  /-- A duration has too many days. -/
  | durationOutOfRange (days : Int)
  /-- The result is outside the calendar. -/
  | outsideCalendar
deriving Repr, DecidableEq

namespace DateError

def isOverflow : DateError → Bool
  | .abovePart | .belowPart | .beyondPart | .beyondDays | .durationOutOfRange _
  | .outsideCalendar => true
  | _ => false

/-- The parts of a duration that are not zero: days, seconds of the last day, and microseconds of
the last second. -/
def durationParts (microseconds : Int) : List String :=
  let days := microseconds.fdiv 86400000000
  let rest := microseconds.fmod 86400000000
  let part (name : String) (value : Int) := if value = 0 then [] else [s!"{name}={value}"]
  part "days" days ++ part "seconds" (rest.fdiv 1000000) ++
    part "microseconds" (rest.fmod 1000000)

def message : DateError → Text
  | .yearOutOfRange year => s!"year {year} is out of range"
  | .monthOutOfRange => "month must be in 1..12"
  | .dayOutOfRange => "day is out of range for month"
  | .hourOutOfRange => "hour must be in 0..23"
  | .minuteOutOfRange => "minute must be in 0..59"
  | .secondOutOfRange => "second must be in 0..59"
  | .microsecondOutOfRange => "microsecond must be in 0..999999"
  | .offsetOutOfRange microseconds =>
    "offset must be a timedelta strictly between -timedelta(hours=24) and timedelta(hours=24), " ++
      "not datetime.timedelta(" ++ ", ".intercalate (durationParts microseconds) ++ ")."
  | .malformed text => "Invalid isoformat string: " ++ quote text
  | .abovePart => "signed integer is greater than maximum"
  | .belowPart => "signed integer is less than minimum"
  | .beyondPart => "Python int too large to convert to C long"
  | .beyondDays => "Python int too large to convert to C int"
  | .durationOutOfRange days => s!"days={days}; must have magnitude <= 999999999"
  | .outsideCalendar => "date value out of range"

/-- The name of an error's kind in reports. -/
def kind (error : DateError) : String :=
  if error.isOverflow then "OverflowError" else "ValueError"

end DateError

end Observance
