import Observance.Schedule.Basic
import Observance.Theme.Activity

/-! # The winner of a day

Of the events that are active on a day, the one with the most important importance wins; of those,
the one whose start is nearest to the day; of those, the one with the least id. Importances that
the schedule does not list come last. The winner's theme is shown, fully if the event is of one of
two importances, and subtly otherwise.

All this is said of events with fields of any type. The fields of a checked schedule are texts, and
then only a text that is no date leaves a day without an answer.
-/

namespace Observance

/-- How prominently a theme is shown. -/
inductive Level where
  | full
  | subtle
deriving Repr, DecidableEq, Inhabited

def Level.text : Level → Text
  | .full => "full"
  | .subtle => "subtle"

/-- The theme to show, and the event that it is shown for. -/
structure Selection (Data : Type) where
  themeId : Data
  level : Level
  event : Option (Event Data)
deriving Repr, DecidableEq

variable {Data Days : Type} [EventData Data] [Publishable Days]

namespace Theme

def noTheme : Text := "none"

def isNone (themeId : Data) : Bool := (Publishable.toJson themeId).equal (.text noTheme)

/-- The importances whose themes are shown fully. -/
def fullImportances : List Text := ["religious_major", "school"]

def levelFor (event : Event Data) : Except FieldError Level := do
  if isNone event.themeId then return .subtle
  let importance ← (Publishable.toJson event.importance).asKey
  return if fullImportances.any (importance.equal <| .text ·) then .full else .subtle

end Theme

namespace Selection

def nothing : Selection Data := ⟨EventData.ofText Theme.noTheme, .subtle, none⟩

def ofEvent (event : Event Data) : Except FieldError (Selection Data) := do
  return ⟨event.themeId, ← Theme.levelFor event, some event⟩

instance : Inhabited (Selection Data) := ⟨nothing⟩

end Selection

namespace Theme

/-- An event that may win, with its start. -/
structure Candidate (Data : Type) where
  event : Event Data
  start : Date
deriving Repr

/-- The event as a candidate, if the day is active for it. -/
def candidate? (window : Window Days) (today : Date) (event : Event Data) :
    Except FieldError (Option (Candidate Data)) := do
  let (start, stop) ← readDays event
  return if isWithin (← activeRange window start stop) today then some ⟨event, start⟩ else none

def candidates (window : Window Days) (today : Date) :
    List (Event Data) → Except FieldError (List (Candidate Data))
  | [] => .ok []
  | event :: events => do
    let candidate ← candidate? window today event
    return candidate.toList ++ (← candidates window today events)

/-- The active events of a day. -/
def activeEvents (schedule : Schedule Data Days) (today : Date) :
    Except FieldError (List (Event Data)) := do
  return (← candidates schedule.window today schedule.events).map (·.event)

/-- What decides between candidates: the place of the importance, the distance of the start, and
the id. -/
structure Rank where
  place : Nat
  distance : Nat
  id : Json
deriving Repr

def Rank.beats (a b : Rank) : Except FieldError Bool :=
  if a.place ≠ b.place then .ok (a.place < b.place)
  else if a.distance ≠ b.distance then .ok (a.distance < b.distance)
  else if a.id.equal b.id then .ok false
  else (a.id.less? b.id).mapError .unordered

/-- The rank of a candidate; an importance that is not listed has the place after the last. -/
def rank (priorityOrder : List Json) (today : Date) (candidate : Candidate Data) :
    Except FieldError Rank := do
  let importance ← (Publishable.toJson candidate.event.importance).asKey
  return {
    place := priorityOrder.findIdx (·.equal importance)
    distance := (today.daysUntil candidate.start).natAbs
    id := Publishable.toJson candidate.event.id }

/-- The candidate that no other beats, of one candidate with its rank and of those after it; the
first of several. -/
def bestOf (rank : Candidate Data → Except FieldError Rank) (best : Candidate Data)
    (bestRank : Rank) : List (Candidate Data) → Except FieldError (Candidate Data)
  | [] => .ok best
  | candidate :: candidates => do
    let candidateRank ← rank candidate
    if ← candidateRank.beats bestRank then bestOf rank candidate candidateRank candidates
    else bestOf rank best bestRank candidates

/-- The theme of a day. -/
def winnerOf (schedule : Schedule Data Days) (today : Date) :
    Except FieldError (Selection Data) := do
  match ← candidates schedule.window today schedule.events with
  | [] => return .nothing
  | candidate :: candidates =>
    let priorityOrder ← schedule.priorityOrder.mapM fun importance =>
      (Publishable.toJson importance).asKey
    let rank := rank priorityOrder today
    let winner ← bestOf rank candidate (← rank candidate) candidates
    Selection.ofEvent winner.event

/-- The theme of a day; without a schedule there is none. -/
def selectWinner (schedule : Option (Schedule Data Days)) (today : Date) :
    Except FieldError (Selection Data) :=
  match schedule with
  | some schedule => winnerOf schedule today
  | none => .ok .nothing

end Theme

end Observance
