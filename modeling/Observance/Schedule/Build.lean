import Observance.Calendar.Moment
import Observance.Calendar.Shape
import Observance.Schedule.Basic

/-! # Building a schedule

Only events with an id, a name, an importance and a theme and with dates of the right shape are
published. They are put in order first, so the first unusable event in that order is the one that
is reported.
-/

namespace Observance

/-- Why a schedule cannot be built. -/
inductive ScheduleError where
  /-- The events have no order. -/
  | unordered (error : Json.Unordered)
  /-- The events are not an array. -/
  | notArray
  /-- An event lacks a field. -/
  | missingFields (event : Json)
  /-- A date of an event does not have the shape of one. -/
  | invalidDates (id : Json)
  /-- The moment of building has no timestamp. -/
  | moment (error : DateError)
deriving Repr

namespace ScheduleError

def message : ScheduleError → Text
  | .unordered error => error.message
  | .notArray => "Resolved events must be an array."
  | .missingFields event => "Resolved event missing fields: " ++ event.write .line
  | .invalidDates id => "Resolved event has invalid dates: " ++ id.display
  | .moment error => error.message

/-- The name of an error's kind in reports. -/
def kind : ScheduleError → String
  | .unordered _ => "TypeError"
  | .moment error => error.kind
  | _ => "ScheduleValidationError"

end ScheduleError

namespace Schedule

variable {Data Days : Type} [EventData Data]

def isDateField (value : Json) : Bool := value.text?.any Calendar.hasDateShape

/-- Checks that an event can be published. -/
def validateEvent (event : Event Data) : Except ScheduleError Unit :=
  let isPresent (field : Data) : Bool := (Publishable.toJson field).isPresent
  if !(isPresent event.id && isPresent event.name && isPresent event.importance &&
      isPresent event.themeId) then
    .error (.missingFields event.toJson)
  else if !(isDateField (Publishable.toJson event.startDate) &&
      isDateField (Publishable.toJson event.endDate)) then
    .error (.invalidDates (Publishable.toJson event.id))
  else .ok ()

def validate (events : List (Event Data)) : Except ScheduleError Unit :=
  events.forM validateEvent

/-- Checks that the events of a value can be published. -/
def validateValue (value : Json) : Except ScheduleError Unit :=
  match value with
  | .array elements => validate (elements.map fun element => .ofFields (element.fields?.getD []))
  | _ => .error .notArray

/-- The schedule of events, built at the moment that a clock gives. The clock is not read before the
events are known to be valid. -/
def buildBy (clock : Except DateError Moment) (window : Window Days) (priorityOrder : List Data)
    (events : List (Event Data)) : Except ScheduleError (Schedule Data Days) := do
  let ordered ← (EventData.sort events).mapError .unordered
  validate ordered
  let moment ← clock.mapError .moment
  let generatedAt ← moment.timestamp.mapError .moment
  return { generatedAt := EventData.ofText generatedAt, window, priorityOrder, events := ordered }

def build (window : Window Days) (priorityOrder : List Data) (events : List (Event Data))
    (moment : Moment) : Except ScheduleError (Schedule Data Days) :=
  buildBy (.ok moment) window priorityOrder events

end Schedule

end Observance
