import Observance.Schedule.Event
import Observance.Sorting

/-! # The order of events

Published events are in the order of their starts, and those that start on the same day in the
order of their ids. Texts always have an order. Fields of other types may not, and then putting
the events in order fails at the first comparison that does.
-/

namespace Observance

namespace Event

def startsBefore (a b : Event Text) : Bool :=
  a.startDate < b.startDate || (a.startDate == b.startDate && !(b.id < a.id))

def sortByStart (events : List (Event Text)) : List (Event Text) :=
  events.mergeSort startsBefore

def startsEarlier? (a b : Event Json) : Except Json.Unordered Bool :=
  if !a.startDate.equal b.startDate then a.startDate.less? b.startDate
  else if !a.id.equal b.id then a.id.less? b.id
  else .ok false

/-- Events with fields of any type in the order of their starts and ids. -/
def sortByStart? (events : List (Event Json)) : Except Json.Unordered (List (Event Json)) :=
  Sorting.sort? startsEarlier? events

end Event

/-- The types that the fields of an event may have. -/
class EventData (Data : Type) extends Publishable Data where
  /-- The field that a text is. -/
  ofText : Text → Data
  /-- Events in the order of their starts and ids. -/
  sort : List (Event Data) → Except Json.Unordered (List (Event Data))

instance : EventData Text where
  ofText := id
  sort events := .ok (Event.sortByStart events)

instance : EventData Json where
  ofText := .text
  sort := Event.sortByStart?

end Observance
