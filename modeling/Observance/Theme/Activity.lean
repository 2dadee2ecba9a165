import Observance.Schedule.Event
import Observance.Window

/-! # Active days

An event is active from some days before its start until some days after its end, as the window
says. If that range leaves the calendar on either side, or counts more days than a duration can
have, the event is never active. Dates and windows that are not checked may be none; then asking for
the active days fails, but it does not ask for the days after an event whose range has left the
calendar before it.
-/

namespace Observance.Theme

/-- The first and the last active day of an event on the given days. -/
def activeRange? (window : Window Int) (start stop : Date) : Option (Date × Date) := do
  let first ← (start.subDays window.daysBefore).toOption
  let last ← (stop.addDays window.daysAfter).toOption
  return (first, last)

section Unchecked

variable {Data Days : Type} [Publishable Data] [Publishable Days]

/-- The first and the last active day, under a window that may be none. -/
def activeRange (window : Window Days) (start stop : Date) :
    Except FieldError (Option (Date × Date)) := do
  let before ← (Publishable.toJson window.daysBefore).asDays
  match before.bind fun days => (start.subDays days).toOption with
  | none => return none
  | some first =>
    let after ← (Publishable.toJson window.daysAfter).asDays
    return (after.bind fun days => (stop.addDays days).toOption).map (first, ·)

/-- A checked window always gives an answer. -/
theorem activeRange_eq (window : Window Int) (start stop : Date) :
    activeRange window start stop = .ok (activeRange? window start stop) := by
  cases before : (start.subDays window.daysBefore).toOption <;>
    cases after : (stop.addDays window.daysAfter).toOption <;>
      simp [activeRange, activeRange?, Publishable.toJson, Json.asDays, bind, Except.bind, pure,
        Except.pure, before, after]

def isWithin (range : Option (Date × Date)) (today : Date) : Bool :=
  match range with
  | some (first, last) => first ≤ today ∧ today ≤ last
  | none => false

def readDays (event : Event Data) : Except FieldError (Date × Date) := do
  let start ← (Publishable.toJson event.startDate).asDate
  let stop ← (Publishable.toJson event.endDate).asDate
  return (start, stop)

/-- Whether a day is active for an event. -/
def isActive (window : Window Days) (event : Event Data) (today : Date) :
    Except FieldError Bool := do
  let (start, stop) ← readDays event
  return isWithin (← activeRange window start stop) today

end Unchecked

end Observance.Theme
