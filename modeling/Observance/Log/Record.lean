import Observance.Json.Order
import Observance.Log.Entry
import Observance.Log.Timestamp

/-! # Log records

A record is a log entry before it is put into words: its message is a template with values, and its
second and millisecond are numbers. Its further fields also change what the record itself says:
a further field of the name of one of the record's own takes that one's place, and one of the name
under which the record puts its message into words leaves it without a message.
-/

namespace Observance.Log

/-- A record. -/
structure Record where
  name : Json
  level : Json
  message : Json
  values : Option Values
  second : Json
  millisecond : Json
  extra : Fields := []
deriving Repr

/-- Why a record cannot be put into words. -/
inductive RecordError where
  | timestamp (error : TimestampError)
  | template (error : TemplateError)
  /-- A value stands where the record puts its message into words. -/
  | notCallable (given : String)
  /-- The failure that a record reports is none. -/
  | notFailure (given : String)
  /-- The failure that a record reports is too short a sequence. -/
  | shortFailure (what : String)
  /-- The failure that a record reports is a mapping. -/
  | mappingFailure
deriving Repr

namespace RecordError

def message : RecordError → Text
  | .timestamp error => error.message
  | .template error => error.message
  | .notCallable given => s!"'{given}' object is not callable"
  | .notFailure given => s!"'{given}' object is not subscriptable"
  | .shortFailure what => s!"{what} index out of range"
  | .mappingFailure => "2"

/-- The name of an error's kind in reports. -/
def kind : RecordError → String
  | .timestamp error => error.kind
  | .template error => error.kind
  | .notCallable _ | .notFailure _ => "TypeError"
  | .shortFailure _ => "IndexError"
  | .mappingFailure => "KeyError"

end RecordError

/-- The name of a level: its own, the level of that name, or a name made from its number. -/
def levelName (level : Json) : Json :=
  match severities.find? fun (_, severity) => Json.equal level (.integer severity) with
  | some (name, _) => .text name
  | none => match level.text?.bind (List.lookup · severities) with
    | some severity => .integer severity
    | none => .text ("Level " ++ level.display)

namespace Record

/-- The values that further fields give to a template. -/
def givenValues (value : Json) : Option Values :=
  if value.isPresent then some (.ofValue value) else none

def failure? (value : Json) : Except RecordError (Option Text) :=
  if !value.isPresent then .ok none
  else match value with
    | .array elements =>
      if elements.length < 3 then .error (.shortFailure "list") else .ok (some "")
    | .text text => if text.length < 3 then .error (.shortFailure "string") else .ok (some "")
    | .object _ => .error .mappingFailure
    | value => .error (.notFailure value.typeName)

/-- What a record says under a name, which a further field may replace. -/
def field (record : Record) (name : Text) (own : Json) : Json :=
  (Fields.get? record.extra name).getD own

/-- The timestamp of a record. -/
def timestamp (record : Record) : Except RecordError Text := do
  let second ← ((secondOf (record.field "created" record.second)).bind
    secondText).mapError .timestamp
  let millisecond ← (millisecondText (record.field "msecs" record.millisecond)).mapError
    .template
  return second ++ .char ',' :: millisecond

/-- The name under which a record puts its message into words. -/
def wordingName : Text := "getMessage"

/-- The template of a record, filled with its values. Without values a template is the message
itself. -/
def filledTemplate (record : Record) : Except RecordError Text :=
  let template := (record.field "msg" record.message).display
  let values := match Fields.get? record.extra "args" with
    | some value => givenValues value
    | none => record.values
  match values with
  | some values => (fill template values).mapError .template
  | none => .ok template

def messageText (record : Record) : Except RecordError Text :=
  match Fields.get? record.extra wordingName with
  | some value => .error (.notCallable value.typeName)
  | none => record.filledTemplate

/-- The line of a record. -/
def line (record : Record) : Except RecordError Line := do
  let timestamp ← record.timestamp
  let message ← record.messageText
  let failure ← failure? (record.field "exc_info" .null)
  return {
    timestamp
    level := record.field "levelname" (levelName record.level)
    message
    logger := record.field "name" record.name
    extra := record.extra
    failure }

end Record

end Observance.Log
