import Observance.Calendar.Date

/-! # Date values of a feed

The date of a value is read from the first eight digits in a row that it holds: four of the year,
two of the month and two of the day. A time of day after them does not matter. If those digits are
no date, later ones are not tried.
-/

namespace Observance.Feed

open Observance.Text

def eightDigits? : Text → Option Text
  | [] => none
  | c :: rest =>
    let digits := (c :: rest).take 8
    if digits.length = 8 ∧ digits.all isDigit then some digits else eightDigits? rest

def dateOfDigits? (digits : Text) : Option Date :=
  Date.ofParts? (digitsValue (digits.take 4)) (digitsValue ((digits.drop 4).take 2))
    (digitsValue (digits.drop 6))

/-- The date of a value. -/
def dateOfValue? (value : Text) : Option Date := (eightDigits? value).bind dateOfDigits?

/-- Whether a value holds eight digits that are no date. -/
def isImpossibleDate (value : Text) : Bool :=
  match eightDigits? value with
  | some digits => (dateOfDigits? digits).isNone
  | none => false

end Observance.Feed
