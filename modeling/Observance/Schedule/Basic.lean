import Observance.Schedule.Order
import Observance.Window

/-! # Schedules

A schedule is what is published: when it was made, the window around its events, the importances
in order of priority, and the events.
-/

namespace Observance

/-- A schedule with fields of some types. -/
structure Schedule (Data Days : Type) where
  generatedAt : Data
  window : Window Days
  priorityOrder : List Data
  events : List (Event Data)
deriving Repr, DecidableEq, Inhabited

/-- A schedule that is made by this library, or that has been checked. -/
abbrev CheckedSchedule := Schedule Text Int

abbrev UncheckedSchedule := Schedule Json Json

namespace Schedule

variable {Data Days : Type} [EventData Data] [Publishable Days]

def toJson (schedule : Schedule Data Days) : Json :=
  .object [
    ("generatedAt", Publishable.toJson schedule.generatedAt),
    ("window", schedule.window.toJson),
    ("priorityOrder", .array (schedule.priorityOrder.map Publishable.toJson)),
    ("resolvedEvents", .array (schedule.events.map Event.toJson))]

/-- A schedule without what is known about its fields. -/
def unchecked (schedule : Schedule Data Days) : UncheckedSchedule :=
  { generatedAt := Publishable.toJson schedule.generatedAt
    window := schedule.window.unchecked
    priorityOrder := schedule.priorityOrder.map Publishable.toJson
    events := schedule.events.map (Event.map Publishable.toJson) }

/-- Schedules are published with two spaces for each level and without escaping characters that
need no escape. -/
def layout : Json.Layout := ⟨some 2, false⟩

/-- The published text of a schedule, which ends in a line feed. -/
def serialize (schedule : Schedule Data Days) : Text :=
  schedule.toJson.write layout ++ "\n"

end Schedule

end Observance
