import Observance.Feed.DateValue
import Observance.Feed.Line
import Observance.Feed.Property

/-! # Events of a feed

The events stand between lines `BEGIN:VEVENT` and `END:VEVENT`. Of each property the last usable
occurrence counts. An event needs a summary and a start. It lasts one day if it has no end, and the
end of an event that ends with a whole day is the day before the one it gives.
-/

namespace Observance

/-- An event of a feed, from its first to its last day. -/
structure FeedEvent where
  summary : Option Text
  start : Date
  stop : Option Date
  startsWholeDay : Bool := false
  endsWholeDay : Bool := false
deriving Repr, DecidableEq

namespace Feed

/-- A day of an event, and whether it is given without a time of day. -/
structure Day where
  date : Date
  isWhole : Bool
deriving Repr, DecidableEq

/-- What the lines of an event have said so far. -/
structure Draft where
  summary : Text := []
  start : Option Day := none
  stop : Option Day := none
deriving Repr, DecidableEq

def Property.day? (property : Property) : Option Day :=
  (dateOfValue? property.value).map fun date => ⟨date, declaresDate property.parameters⟩

/-- A draft after one more property. A start or an end that gives no date changes nothing. -/
def Draft.add (draft : Draft) (property : Property) : Draft :=
  if property.name = "SUMMARY" then { draft with summary := property.value }
  else if property.name = "DTSTART" then
    { draft with start := property.day?.or draft.start }
  else if property.name = "DTEND" then
    { draft with stop := property.day?.or draft.stop }
  else draft

/-- A draft after one more line; only a line with a colon gives a property. -/
def Draft.addLine (draft : Draft) (line : Text) : Draft :=
  if line.contains ':' then draft.add (.ofLine line) else draft

/-- The draft of an event that has both a summary and a start. -/
structure Complete where
  summary : Text
  start : Day
  stop : Option Day
deriving Repr, DecidableEq

def Draft.complete? (draft : Draft) : Option Complete :=
  match draft.start with
  | none => none
  | some start =>
    if draft.summary.isEmpty then none
    else some { summary := draft.summary, start, stop := draft.stop }

def opening : Text := "BEGIN:VEVENT"

def closing : Text := "END:VEVENT"

/-- The complete events of some lines, given the draft that is open before them. -/
def scan : Option Draft → List Text → List Complete
  | _, [] => []
  | current, line :: lines =>
    if line = opening then scan (some {}) lines
    else if line = closing then
      match current.bind Draft.complete? with
      | some complete => complete :: scan none lines
      | none => scan none lines
    else scan (current.map (·.addLine line)) lines

/-- The event of a complete draft; none if its last day would come before the calendar. -/
def Complete.event? (complete : Complete) : Option FeedEvent :=
  let summary := some complete.summary
  let start := complete.start.date
  let startsWholeDay := complete.start.isWhole
  match complete.stop with
  | none => some { summary, start, stop := some start, startsWholeDay }
  | some stop =>
    if stop.isWhole then
      (stop.date.addDays? (-1)).map fun last =>
        { summary, start, stop := some last, startsWholeDay, endsWholeDay := true }
    else some { summary, start, stop := some stop.date, startsWholeDay }

def completes (text : Text) : List Complete := scan none (unfoldLines text)

/-- The events of a text. -/
def events (text : Text) : List FeedEvent := (completes text).filterMap Complete.event?

/-- The lines between an opening and a closing line, given whether an event is open before. -/
def linesInside : Bool → List Text → List Text
  | _, [] => []
  | isOpen, line :: lines =>
    if line = opening then linesInside true lines
    else if line = closing then linesInside false lines
    else if isOpen then line :: linesInside isOpen lines
    else linesInside isOpen lines

/-- Something in a text that was left out. -/
inductive Omission where
  /-- A start or an end whose digits are no date. -/
  | impossibleDate (value : Text)
  /-- An event whose last day would come before the calendar. -/
  | endOutOfRange (summary : Text)
deriving Repr, DecidableEq

def Omission.message : Omission → Text
  | .impossibleDate value => "Ignoring impossible ICS date: " ++ value
  | .endOutOfRange summary => "Ignoring event with out-of-range end date: " ++ summary

def omissionOfLine? (line : Text) : Option Omission :=
  if line.contains ':' then
    let property := Property.ofLine line
    if (property.name = "DTSTART" ∨ property.name = "DTEND") ∧
        isImpossibleDate property.value then
      some (.impossibleDate property.value)
    else none
  else none

def Complete.omission? (complete : Complete) : Option Omission :=
  match complete.event? with
  | none => some (.endOutOfRange complete.summary)
  | some _ => none

/-- What was left out of a text: impossible dates first, in the order of their lines. -/
def omissions (text : Text) : List Omission :=
  (linesInside false (unfoldLines text)).filterMap omissionOfLine? ++
    (completes text).filterMap Complete.omission?

end Feed

end Observance
