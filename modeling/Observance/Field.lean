import Observance.Calendar.IsoText
import Observance.Json.Order

/-! # Fields

The fields of schedules and events have types that are checked when a document is read. They may
also be handed in unchecked, and then they are JSON values of any type. What both have in common is
that a field can be published as a JSON value. A field is asked for more only when it is used: for
a date, for a number of days, or for something to look up, and each of these may fail.
-/

namespace Observance

/-- The types that a field may have. -/
class Publishable (α : Type) where
  /-- A field as a document has it. -/
  toJson : α → Json

instance : Publishable Json := ⟨id⟩

instance : Publishable Text := ⟨.text⟩

instance : Publishable Int := ⟨.integer⟩

/-- Why a field cannot be used. -/
inductive FieldError where
  /-- A date is none. -/
  | date (error : DateError)
  /-- A date is no text. -/
  | dateNotText
  /-- A number of days is no number. -/
  | daysNotNumber (typeName : String)
  /-- A number of days is the value that is no number. -/
  | daysNotFinite
  /-- A value that can change cannot be looked up. -/
  | notLookedUp (typeName : String)
  /-- Two values have no order. -/
  | unordered (error : Json.Unordered)
deriving Repr, DecidableEq

namespace FieldError

def message : FieldError → Text
  | .date error => error.message
  | .dateNotText => "fromisoformat: argument must be str"
  | .daysNotNumber typeName => s!"unsupported type for timedelta days component: {typeName}"
  | .daysNotFinite => "cannot convert float NaN to integer"
  | .notLookedUp typeName => s!"unhashable type: '{typeName}'"
  | .unordered error => error.message

/-- The name of an error's kind in reports. -/
def kind : FieldError → String
  | .date error => error.kind
  | .daysNotFinite => "ValueError"
  | _ => "TypeError"

end FieldError

namespace Binary64

def microsecondsPerDay : Nat := 86400000000

/-- The microseconds of the part of a day that a fraction is, rounded to the nearest number and, on
a tie, to an even one. -/
def dayFraction (numerator denominator : Nat) : Nat :=
  match ofRatio false (numerator * microsecondsPerDay) denominator with
  | .finite _ significand exponent =>
    let (numerator, denominator) := ratio significand exponent
    divideToEven numerator denominator
  | _ => 0

/-- The number of days that are over after a number of days with a fraction, which counts in whole
microseconds. -/
def wholeDays (negative : Bool) (significand : Nat) (exponent : Int) : Int :=
  let (numerator, denominator) := ratio significand exponent
  let microseconds : Nat := numerator / denominator * microsecondsPerDay +
    dayFraction (numerator % denominator) denominator
  (if negative then -(microseconds : Int) else microseconds).fdiv microsecondsPerDay

end Binary64

namespace Json

/-- The date that a value is. -/
def asDate : Json → Except FieldError Date
  | .text value => (Date.ofText value).mapError .date
  | _ => .error .dateNotText

/-- The number of days that a value is; none if they cannot be counted at all. -/
def asDays : Json → Except FieldError (Option Int)
  | .integer value => .ok (some value)
  | .bool value => .ok (some value.toNat)
  | .real (.finite negative significand exponent) =>
    .ok (some (Binary64.wholeDays negative significand exponent))
  | .real (.infinite _) => .ok none
  | .real .nan => .error .daysNotFinite
  | value => .error (.daysNotNumber value.typeName)

/-- A value that can be looked up: arrays and objects can change, and are none. -/
def asKey : Json → Except FieldError Json
  | .array elements => .error (.notLookedUp (Json.array elements).typeName)
  | .object fields => .error (.notLookedUp (Json.object fields).typeName)
  | value => .ok value

end Json

end Observance
