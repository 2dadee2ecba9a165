import Observance.Json.Writer
import Observance.Log.Severity

/-! # Log entries

An entry is written as one line of JSON in ASCII: when it was made, its severity, its message, who
wrote it, and whatever further fields it carries. Fields with names that an entry keeps for itself
are left out, as are those that begin with a low line.
-/

namespace Observance.Log

open Observance.Text

/-- A log entry. -/
structure Entry where
  logger : Text
  severity : Nat
  message : Text
  extra : Fields := []
  /-- The error that the entry reports, if it reports one. -/
  failure : Option Text := none
deriving Repr, Inhabited

def reservedNames : List Text :=
  ["name", "msg", "args", "levelname", "levelno", "pathname", "filename", "module", "exc_info",
    "exc_text", "stack_info", "lineno", "funcName", "created", "msecs", "relativeCreated",
    "thread", "threadName", "processName", "process", "message", "asctime"]

/-- Whether a further field is written. -/
def isWritten (name : Text) : Bool :=
  !reservedNames.contains name && name.head? != some (.char '_')

/-- What the line of an entry says. -/
structure Line where
  timestamp : Text
  level : Json
  message : Text
  logger : Json
  extra : Fields
  failure : Option Text
deriving Repr, Inhabited

namespace Line

def ownFields (line : Line) : Fields :=
  [("timestamp", .text line.timestamp), ("level", line.level), ("message", .text line.message),
    ("logger", line.logger)]

/-- The fields of a line. A further field replaces a field of the same name. -/
def fields (line : Line) : Fields :=
  let written := (line.extra.filter fun field => isWritten field.1).foldl
    (fun fields field => fields.put field.1 field.2) line.ownFields
  match line.failure with
  | some failure => written.put "exception" (.text failure)
  | none => written

def text (line : Line) : Text := (Json.object line.fields).write .line

end Line

def Entry.line (entry : Entry) (timestamp : Text) : Line :=
  { timestamp, level := .text (severityName entry.severity), message := entry.message
    logger := .text entry.logger, extra := entry.extra, failure := entry.failure }

end Observance.Log
