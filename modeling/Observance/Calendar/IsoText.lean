import Observance.Calendar.Parts
import Observance.Text.Utf8

/-! # Texts of dates

A date is written as year, month and day, or as year, week and day of the week, with hyphens
between all parts or between none; without a day, a week stands for its first day. The lengths of
these forms are 7, 8 and 10 bytes, and a text of another length is refused before anything else.
A form that is shorter than its text is read from the front, and what follows it is ignored.
-/

namespace Observance

namespace Date

open Calendar Text

/-- Reads a number of exactly `count` ASCII digits from the front. -/
def readDigits? (count : Nat) (input : Text) : Option (Nat × Text) :=
  let digits := input.take count
  if digits.length = count ∧ digits.all isAsciiDigit then
    some (digitsValue digits, input.drop count)
  else none

/-- Reads a hyphen from the front, or nothing where parts are not separated. -/
def readHyphen? (separated : Bool) (input : Text) : Option Text :=
  match separated, input with
  | false, _ => some input
  | true, '-' :: rest => some rest
  | true, _ => none

/-- Whether a year has 53 weeks: it begins on a Thursday, or on a Wednesday if it is a leap year. -/
def hasLongWeekYear (year : Nat) : Bool :=
  let weekday := daysBeforeYear year % 7
  weekday == 3 || (weekday == 2 && isLeapYear year)

/-- The day number of the Monday of a year's first week, the week of its first Thursday. -/
def firstMonday (year : Nat) : Int :=
  let firstDay : Int := daysBeforeYear year + 1
  let weekday : Int := (daysBeforeYear year % 7 : Nat)
  if weekday > 3 then firstDay - weekday + 7 else firstDay - weekday

/-- The date of a day of a week. There is no year 0 that a week could lie in, so its weeks have no
month. -/
def ofWeek (text : Text) (year week day : Nat) : Except DateError Date :=
  let isWeek := 1 ≤ week && (week ≤ 52 || (week == 53 && year != 0 && hasLongWeekYear year))
  if !isWeek || day < 1 || 7 < day then .error (.malformed text)
  else if year = 0 then .error .monthOutOfRange
  else
    let number := firstMonday year + 7 * ((week : Int) - 1) + day - 1
    match ofNumber? number.toNat with
    | some date => .ok date
    | none => .error (.yearOutOfRange (lastYear + 1))

/-- Year, week and day of the week, after the mark of the week. -/
def readWeek (text : Text) (separated : Bool) (year : Nat) (input : Text) :
    Except DateError Date :=
  match readDigits? 2 input with
  | none => .error (.malformed text)
  | some (week, []) => ofWeek text year week 1
  | some (week, rest) =>
    match (readHyphen? separated rest).bind (readDigits? 1) with
    | some (day, _) => ofWeek text year week day
    | none => .error (.malformed text)

def readMonthAndDay? (separated : Bool) (input : Text) : Option (Nat × Nat) := do
  let (month, rest) ← readDigits? 2 input
  let (day, _) ← readDigits? 2 (← readHyphen? separated rest)
  return (month, day)

def hasDateSize (text : Text) : Bool :=
  let size := (Utf8.encode text).length
  text.isWhole && (size = 7 ∨ size = 8 ∨ size = 10)

def ofText (text : Text) : Except DateError Date :=
  if !hasDateSize text then .error (.malformed text)
  else match readDigits? 4 text with
    | none => .error (.malformed text)
    | some (year, rest) =>
      let separated := rest.head? == some (.char '-')
      match (if separated then rest.tail else rest) with
      | 'W' :: input => readWeek text separated year input
      | input =>
        match readMonthAndDay? separated input with
        | some (month, day) => ofCheckedParts year month day
        | none => .error (.malformed text)

def ofText? (text : Text) : Option Date := (ofText text).toOption

end Date

end Observance
