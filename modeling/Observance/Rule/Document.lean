import Observance.Rule.Basic
import Observance.Rule.Error

/-! # Rule documents

A rule document is an object with the window, the importances and the events. Reading it goes in two
steps: first the whole document is checked for its shape, then the date rule of each event is read.
Events with a date rule of an unknown type are skipped. The first violation counts. `room` is how
deeply the groups of a pattern may lie in one another.
-/

namespace Observance

/-- An event of a document whose shape is right. -/
structure RuleEntry where
  id : Text
  name : Text
  importance : Text
  themeId : Text
  type : Text
  dateRule : Fields
deriving Repr, Inhabited

/-- A rule document whose shape is right. -/
structure RuleDocument where
  window : Window Int
  priorityOrder : List Text
  entries : List RuleEntry
deriving Repr, Inhabited

namespace RuleDocument

/-- The result of an optional step, or the error that its absence is. -/
def require (error : RuleError) : Option α → Except RuleError α
  | some value => .ok value
  | none => .error error

def textField? (fields : Fields) (name : Text) : Option Text :=
  (fields.get? name).bind Json.nonEmptyText?

def readWindow (fields : Fields) : Except RuleError (Window Int) := do
  let sides ← require .windowMissing ((fields.get? "window").bind Json.fields?)
  let before ← require .windowNotIntegers ((sides.get? "daysBefore").bind Json.integer?)
  let after ← require .windowNotIntegers ((sides.get? "daysAfter").bind Json.integer?)
  if Window.isAllowed before && Window.isAllowed after then
    return { daysBefore := before, daysAfter := after }
  else throw .windowOutOfRange

def readPriorityOrder (fields : Fields) : Except RuleError (List Text) := do
  let items ← require .priorityOrderMissing ((fields.get? "priorityOrder").bind Json.elements?)
  require .priorityOrderEntry (items.mapM Json.nonEmptyText?)

def readEntry (index : Nat) (value : Json) : Except RuleError RuleEntry := do
  let fields ← require (.eventNotObject index) value.fields?
  let id ← require (.eventUnnamed index) (textField? fields "id")
  let name ← require (.eventUnnamed index) (textField? fields "name")
  let importance ← require (.fieldMissing id "importance") (textField? fields "importance")
  let themeId ← require (.fieldMissing id "themeId") (textField? fields "themeId")
  let dateRule ← require (.dateRuleMissing id) ((fields.get? "dateRule").bind Json.fields?)
  let type ← require (.dateRuleMissing id) (textField? dateRule "type")
  return { id, name, importance, themeId, type, dateRule }

def readEntries (index : Nat) : List Json → Except RuleError (List RuleEntry)
  | [] => .ok []
  | value :: values => do
    let entry ← readEntry index value
    let entries ← readEntries (index + 1) values
    return entry :: entries

/-- The document that a value is. -/
def ofJson (value : Json) : Except RuleError RuleDocument := do
  let fields ← require .rootMissing value.fields?
  let window ← readWindow fields
  let priorityOrder ← readPriorityOrder fields
  let events ← require .eventsMissing ((fields.get? "events").bind Json.elements?)
  let entries ← readEntries 0 events
  return { window, priorityOrder, entries }

end RuleDocument

namespace RuleEntry

/-- A field of the date rule that is an integer from 1 to `most`. -/
def countField? (entry : RuleEntry) (name : Text) (most : Int) : Option Nat :=
  match (entry.dateRule.get? name).bind Json.integer? with
  | some value => if 1 ≤ value ∧ value ≤ most then some value.toNat else none
  | none => none

/-- The date rule of an entry; none if its type is unknown. -/
def readDateRule (entry : RuleEntry) (room : Room := none) :
    Except RuleError (Option DateRule) := do
  if entry.type = "calendar" then
    let source ← RuleDocument.require (.patternMissing entry.id)
      (RuleDocument.textField? entry.dateRule "calendarMatch")
    match Pattern.compile source room with
    | .ok pattern => return some (.calendar pattern)
    | .error fault => throw (.patternFault entry.id source fault)
  else if entry.type = "fixed" then
    let month ← RuleDocument.require (.monthInvalid entry.id) (entry.countField? "month" 12)
    let day ← RuleDocument.require (.dayInvalid entry.id) (entry.countField? "day" 31)
    return some (.fixed month day)
  else return none

def toRule (entry : RuleEntry) (dateRule : DateRule) : Rule :=
  { id := entry.id, name := entry.name, importance := entry.importance,
    themeId := entry.themeId, dateRule }

/-- The rule of an entry that comes after entries with the given ids; none if its type is
unknown. -/
def readRule (earlier : List Text) (entry : RuleEntry) (room : Room := none) :
    Except RuleError (Option Rule) := do
  if earlier.contains entry.id then throw (.duplicateId entry.id)
  return (← entry.readDateRule room).map entry.toRule

end RuleEntry

namespace RuleSet

/-- The rules of entries that come after entries with the given ids. -/
def readRules (earlier : List Text) (entries : List RuleEntry) (room : Room := none) :
    Except RuleError (List Rule) :=
  match entries with
  | [] => .ok []
  | entry :: entries => do
    let rule ← entry.readRule earlier room
    let rules ← readRules (entry.id :: earlier) entries room
    return rule.toList ++ rules

/-- The entries of unknown type that are met before the first error. -/
def skippedEntries (earlier : List Text) (entries : List RuleEntry) (room : Room := none) :
    List RuleEntry :=
  match entries with
  | [] => []
  | entry :: entries =>
    match entry.readRule earlier room with
    | .error _ => []
    | .ok (some _) => skippedEntries (entry.id :: earlier) entries room
    | .ok none => entry :: skippedEntries (entry.id :: earlier) entries room

def ofDocument (document : RuleDocument) (room : Room := none) : Except RuleError RuleSet := do
  let rules ← readRules [] document.entries room
  return { window := document.window, priorityOrder := document.priorityOrder, rules }

/-- The rules of a value. -/
def ofJson (value : Json) (room : Room := none) : Except RuleError RuleSet := do
  ofDocument (← RuleDocument.ofJson value) room

/-- The value that the text of a rule document holds, with room for the nesting of its values. -/
def readText (text : Text) (room : Room := none) : Except RuleError Json :=
  (Json.read text room).mapError (.unreadable text)

/-- The rules of a text, with room for the nesting of its values and of its patterns. -/
def ofText (text : Text) (documents patterns : Room := none) : Except RuleError RuleSet := do
  ofJson (← readText text documents) patterns

end RuleSet

end Observance
