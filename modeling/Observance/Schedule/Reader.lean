import Observance.Calendar.Shape
import Observance.Schedule.Basic
import Observance.Theme.Activity

/-! # Reading a schedule

A published schedule comes from elsewhere and is not trusted. Each event is judged on its own and
left out if a field is missing or empty, if a date is none, or if its active range leaves the
calendar. A window that is not allowed is replaced as a whole. Only a document that is no object
gives no schedule.
-/

namespace Observance.Schedule

def readDays? (fields : Fields) (name : Text) : Option Int :=
  ((fields.get? name).bind Json.integer?).filter Window.isAllowed

/-- The window of a document, or the usual one if it has no window that is allowed. -/
def readWindow (fields : Fields) : Window Int :=
  match (fields.get? "window").bind Json.fields? with
  | none => .usual
  | some sides =>
    match readDays? sides "daysBefore", readDays? sides "daysAfter" with
    | some before, some after => { daysBefore := before, daysAfter := after }
    | _, _ => .usual

def elementsOf (fields : Fields) (name : Text) : List Json :=
  ((fields.get? name).bind Json.elements?).getD []

def readDate? (text : Text) : Option Date :=
  if Calendar.hasDateShape text then Date.ofText? text else none

def readField? (fields : Fields) (name : Text) : Option Text :=
  (fields.get? name).bind Json.nonEmptyText?

/-- The event of an element, if it can be used under a window. -/
def readEvent? (window : Window Int) (element : Json) : Option (Event Text) := do
  let fields ← element.fields?
  let id ← readField? fields "id"
  let name ← readField? fields "name"
  let importance ← readField? fields "importance"
  let themeId ← readField? fields "themeId"
  let startDate ← readField? fields "startDate"
  let endDate ← readField? fields "endDate"
  let start ← readDate? startDate
  let stop ← readDate? endDate
  let _ ← Theme.activeRange? window start stop
  return { id, name, importance, themeId, startDate, endDate }

/-- The schedule of an object. -/
def ofFields (fields : Fields) : CheckedSchedule :=
  let window := readWindow fields
  { generatedAt := ((fields.get? "generatedAt").bind Json.text?).getD ""
    window
    priorityOrder := (elementsOf fields "priorityOrder").filterMap Json.text?
    events := (elementsOf fields "resolvedEvents").filterMap (readEvent? window) }

/-- The schedule of a document. -/
def ofJson? (document : Json) : Option (CheckedSchedule) := document.fields?.map ofFields

end Observance.Schedule
