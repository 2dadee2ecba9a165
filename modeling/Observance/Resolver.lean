import Observance.Calendar.Parts
import Observance.Feed.Event
import Observance.Rule.Basic
import Observance.Schedule.Order

/-! # Resolving rules

Rules are resolved on a reference day against the events of a feed. A calendar rule takes the
soonest event that fits it and starts within the lookahead; of events that start on the same day,
the first of the feed. A fixed rule gives its day in the current and in the next year, and a day
past the end of its month runs on into the next month.
-/

namespace Observance

/-- Why rules cannot be resolved. -/
inductive ResolutionError where
  | date (error : DateError)
  | search (fault : Pattern.SearchFault)
deriving Repr

namespace ResolutionError

def message : ResolutionError → Text
  | .date error => error.message
  | .search fault => fault.message

/-- The name of an error's kind in reports. -/
def kind : ResolutionError → String
  | .date error => error.kind
  | .search _ => "SystemError"

/-- Whether an error is foreseen: it concerns a date, and not one beyond what can be counted to. -/
def isForeseen : ResolutionError → Bool
  | .date error => !error.isOverflow
  | .search _ => false

end ResolutionError

/-- The days on which events may start. -/
structure Resolver where
  today : Date
  windowEnd : Date
deriving Repr

namespace Resolver

/-- How many months ahead events may start, unless a caller says otherwise. -/
def defaultLookahead : Int := 18

/-- A resolver for a reference day that looks some months ahead. -/
def make (today : Date) (lookahead : Int := defaultLookahead) : Except DateError Resolver := do
  return { today, windowEnd := ← today.addMonths lookahead }

/-- The event that starts soonest, the first of several. -/
def soonest? : List FeedEvent → Option FeedEvent
  | [] => none
  | event :: events =>
    match soonest? events with
    | some other => if other.start < event.start then some other else some event
    | none => some event

def isWithin (resolver : Resolver) (event : FeedEvent) : Bool :=
  resolver.today ≤ event.start ∧ event.start ≤ resolver.windowEnd

/-- The events of a feed whose summaries fit. Every event of the feed is looked at. -/
def fitting (fits : Text → Except Pattern.SearchFault Bool) :
    List FeedEvent → Except Pattern.SearchFault (List FeedEvent)
  | [] => .ok []
  | event :: events => do
    let isFitting ← fits (event.summary.getD "")
    let others ← fitting fits events
    return if isFitting then event :: others else others

/-- The event of a feed that a calendar rule takes, given which summaries fit. -/
def choose? (resolver : Resolver) (fits : Text → Except Pattern.SearchFault Bool)
    (feed : List FeedEvent) : Except Pattern.SearchFault (Option FeedEvent) := do
  return soonest? ((← fitting fits feed).filter resolver.isWithin)

def resolvedEvent (rule : Rule) (start stop : Date) : Event Text :=
  { id := rule.id, name := rule.name, importance := rule.importance, themeId := rule.themeId,
    startDate := start.text, endDate := stop.text }

def resolveCalendar? (resolver : Resolver) (rule : Rule) (pattern : Pattern)
    (feed : List FeedEvent) : Except Pattern.SearchFault (Option (Event Text)) := do
  return (← resolver.choose? pattern.search feed).map fun event =>
    resolvedEvent rule event.start (event.stop.getD event.start)

def resolveInYear (rule : Rule) (month day year : Nat) : Except DateError (Event Text) := do
  let date ← Date.ofRunningDay year month day
  return resolvedEvent rule date date

/-- The events of a rule with a fixed day, in this year and in the next. -/
def resolveFixed (resolver : Resolver) (rule : Rule) (month day : Nat) :
    Except DateError (List (Event Text)) := do
  let current ← resolveInYear rule month day resolver.today.year
  let next ← resolveInYear rule month day (resolver.today.year + 1)
  return [current, next]

/-- The events of a rule. -/
def resolveRule (resolver : Resolver) (feed : List FeedEvent) (rule : Rule) :
    Except ResolutionError (List (Event Text)) :=
  match rule.dateRule with
  | .calendar pattern =>
    ((resolver.resolveCalendar? rule pattern feed).map Option.toList).mapError .search
  | .fixed month day => (resolver.resolveFixed rule month day).mapError .date

/-- The events of several rules, in the order of the rules. -/
def resolveAll (resolver : Resolver) (feed : List FeedEvent) :
    List Rule → Except ResolutionError (List (Event Text))
  | [] => .ok []
  | rule :: rules => do
    let events ← resolver.resolveRule feed rule
    return events ++ (← resolver.resolveAll feed rules)

/-- The events of several rules, in the order of their starts. -/
def resolve (resolver : Resolver) (rules : List Rule) (feed : List FeedEvent) :
    Except ResolutionError (List (Event Text)) := do
  return Event.sortByStart (← resolver.resolveAll feed rules)

/-- The calendar rules without an event, of the rules before the first that cannot be resolved. -/
def unmatched (resolver : Resolver) (feed : List FeedEvent) : List Rule → List Rule
  | [] => []
  | rule :: rules =>
    match resolver.resolveRule feed rule with
    | .error _ => []
    | .ok [] => rule :: resolver.unmatched feed rules
    | .ok (_ :: _) => resolver.unmatched feed rules

end Resolver

end Observance
