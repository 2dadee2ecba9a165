import Observance.Json.Reader
import Observance.Pattern.Error
import Observance.Window

/-! # Errors of rule documents

Nearly every error says what is wrong with the document. The exceptions are numbers with too many
digits, patterns that fail on account of their size or of conflicting flags, and nesting too deep to
be read; their errors are of kinds of their own.
-/

namespace Observance

/-- Why a rule document cannot be used. -/
inductive RuleError where
  /-- The text cannot be read as JSON. -/
  | unreadable (text : Text) (error : Json.ReadError)
  /-- The document is not an object. -/
  | rootMissing
  /-- There is no window. -/
  | windowMissing
  /-- A side of the window is not an integer. -/
  | windowNotIntegers
  /-- A side of the window is out of bounds. -/
  | windowOutOfRange
  /-- The importances are not an array. -/
  | priorityOrderMissing
  /-- An importance is not a text, or is empty. -/
  | priorityOrderEntry
  /-- The events are not an array. -/
  | eventsMissing
  /-- An event is not an object. -/
  | eventNotObject (index : Nat)
  /-- An event has no id or no name. -/
  | eventUnnamed (index : Nat)
  /-- An event lacks a field. -/
  | fieldMissing (id field : Text)
  /-- An event has no date rule, or one without a type. -/
  | dateRuleMissing (id : Text)
  /-- Two events have the same id. -/
  | duplicateId (id : Text)
  /-- A calendar rule has no pattern. -/
  | patternMissing (id : Text)
  /-- The pattern of a calendar rule cannot be used. -/
  | patternFault (id : Text) (pattern : Text) (fault : Pattern.Fault)
  /-- The month of a fixed rule is not from 1 to 12. -/
  | monthInvalid (id : Text)
  /-- The day of a fixed rule is not from 1 to 31. -/
  | dayInvalid (id : Text)
deriving Repr, DecidableEq

namespace RuleError

/-- The wording of an error about the document itself. -/
def complaint (text : Text) : Text := "Invalid festivals.json: " ++ text

/-- The wording of an error. -/
def message : RuleError → Text
  | .unreadable text error@(.malformed ..) => complaint (error.message text)
  | .unreadable text error => error.message text
  | .rootMissing => complaint "root object is missing."
  | .windowMissing => complaint "`window` is missing."
  | .windowNotIntegers =>
    complaint "`window.daysBefore` and `window.daysAfter` must be integers."
  | .windowOutOfRange =>
    complaint s!"`window` values must be between 0 and {Window.mostDays} days."
  | .priorityOrderMissing => complaint "`priorityOrder` must be an array."
  | .priorityOrderEntry => complaint "`priorityOrder` entries must be non-empty strings."
  | .eventsMissing => complaint "`events` must be an array."
  | .eventNotObject index => complaint s!"event at index {index} must be an object."
  | .eventUnnamed index =>
    complaint s!"event at index {index} must include id and name as non-empty strings."
  | .fieldMissing id field =>
    complaint ("event " ++ id ++ " missing " ++ field ++ " (non-empty string required).")
  | .dateRuleMissing id => complaint ("event " ++ id ++ " missing dateRule.")
  | .duplicateId id => complaint ("duplicate event id " ++ id ++ ".")
  | .patternMissing id => complaint ("event " ++ id ++ " missing calendarMatch.")
  | .patternFault id pattern fault =>
    match fault with
    | .invalid .. => "Invalid calendarMatch regex for " ++ id ++ ": " ++ fault.message pattern
    | _ => fault.message pattern
  | .monthInvalid id =>
    complaint ("event " ++ id ++ " fixed month must be an integer from 1 to 12.")
  | .dayInvalid id => complaint ("event " ++ id ++ " fixed day must be an integer from 1 to 31.")

/-- The name of an error's kind in reports. -/
def kind : RuleError → String
  | .unreadable _ (.number _) => "ValueError"
  | .unreadable _ (.tooDeep _) => "RecursionError"
  | .patternFault _ _ (.number _) => "ValueError"
  | .patternFault _ _ .alphabetConflict => "ValueError"
  | .patternFault _ _ .repetitionTooLarge => "OverflowError"
  | .patternFault _ _ .unusable => "RuntimeError"
  | .patternFault _ _ .tooDeep => "RecursionError"
  | _ => "RuleValidationError"

/-- Whether an error is foreseen: all are but those of patterns that are right and yet ask for more
than a search can do, and those of nesting too deep to be read. -/
def isForeseen : RuleError → Bool
  | .unreadable _ (.tooDeep _) => false
  | .patternFault _ _ .repetitionTooLarge | .patternFault _ _ .unusable => false
  | .patternFault _ _ .tooDeep => false
  | _ => true

end RuleError

end Observance
