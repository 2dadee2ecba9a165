import Observance.Calendar.Moment
import Observance.Log.Template

/-! # Timestamps

A timestamp gives a second, counted from the start of 1970 in universal time, and a millisecond.
Years are not padded, and may lie before the first or after the last year of the calendar, which
repeats itself every 400 years.
-/

namespace Observance.Log

open Observance.Text

/-- Why a timestamp cannot be written. -/
inductive TimestampError where
  /-- The second is no number. -/
  | notNumber (given : String)
  /-- The second is beyond what can be counted to. -/
  | secondOutOfRange
  /-- The year is beyond what a calendar can hold. -/
  | yearOutOfRange
  /-- The year is beyond what can be written. -/
  | yearTooLarge
deriving Repr, DecidableEq

namespace TimestampError

def message : TimestampError → String
  | .notNumber given => s!"'{given}' object cannot be interpreted as an integer"
  | .secondOutOfRange => "timestamp out of range for platform time_t"
  | .yearOutOfRange => "Value too large for defined data type"
  | .yearTooLarge => "signed integer is greater than maximum"

/-- The name of an error's kind in reports. -/
def kind : TimestampError → String
  | .notNumber _ => "TypeError"
  | .secondOutOfRange | .yearTooLarge => "OverflowError"
  | .yearOutOfRange => "OSError"

end TimestampError

/-- The number of days of the calendar's cycle of 400 years. -/
def cycleDays : Nat := 146097

/-- The greatest second, and one more than the size of the least. -/
def mostSeconds : Int := 0x7FFFFFFFFFFFFFFF

def mostWrittenYear : Int := 0x7FFFFFFF

def calendarYears : Int × Int := (1900 - 0x80000000, 1900 + 0x7FFFFFFF)

def yearText (year : Int) : Text :=
  if year < 0 then '-' :: numeral 10 year.natAbs else numeral 10 year.natAbs

def secondText (second : Int) : Except TimestampError Text := do
  unless -mostSeconds - 1 ≤ second ∧ second ≤ mostSeconds do throw .secondOutOfRange
  let day := second.fdiv 86400 + (Moment.epochNumber - 1 : Nat)
  let date := (Date.ofNumber? ((day.fmod cycleDays).toNat + 1)).getD Date.first
  let year := (date.year : Int) + 400 * day.fdiv cycleDays
  unless calendarYears.1 ≤ year ∧ year ≤ calendarYears.2 do throw .yearOutOfRange
  if year > mostWrittenYear then throw .yearTooLarge
  let ofDay := (second.fmod 86400).toNat
  let padded := paddedDecimal 2
  return yearText year ++ .char '-' :: padded date.month ++ .char '-' ::
    padded date.day ++ .char ' ' ::
    padded (ofDay / 3600) ++ .char ':' :: padded (ofDay / 60 % 60) ++ .char ':' ::
    padded (ofDay % 60)

/-- The second that a value counts as; a fraction is rounded down. -/
def secondOf : Json → Except TimestampError Int
  | .integer value => .ok value
  | .bool value => .ok value.toNat
  | .real (.finite negative significand exponent) =>
    let (numerator, denominator) := Binary64.ratio significand exponent
    .ok ((if negative then -(numerator : Int) else numerator).fdiv denominator)
  | .real _ => .error .secondOutOfRange
  | value => .error (.notNumber value.typeName)

/-- The timestamp of a clock that counts milliseconds from the start of 1970. -/
def timestampOf (milliseconds : Nat) : Except TimestampError Text := do
  let second ← secondText (milliseconds / 1000 : Nat)
  return second ++ .char ',' :: paddedDecimal 3 (milliseconds % 1000)

def millisecondStyle : Style := { zeroPadded := true, width := 3 }

/-- The milliseconds that a value counts as, in three digits; a fraction is dropped. -/
def millisecondText (value : Json) : Except TemplateError Text :=
  writeAs millisecondStyle 'd' 0 value

end Observance.Log
