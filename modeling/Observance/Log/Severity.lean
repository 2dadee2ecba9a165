import Observance.Text.Case
import Observance.Text.Quoted

/-! # Severities

A log entry has a severity, a number that usually has a name. Entries below a threshold are not
written. A threshold is given by its name in letters of any case, and an unknown name means the
usual one.
-/

namespace Observance.Log

open Observance.Text

/-- The severities that have a name; some have two, of which the first is written. -/
def severities : List (Text × Nat) :=
  [("CRITICAL", 50), ("FATAL", 50), ("ERROR", 40), ("WARNING", 30), ("WARN", 30), ("INFO", 20),
    ("DEBUG", 10), ("NOTSET", 0)]

def debug : Nat := 10

def info : Nat := 20

def warning : Nat := 30

def error : Nat := 40

def severityName (severity : Nat) : Text :=
  match severities.find? (·.2 == severity) with
  | some (name, _) => name
  | none => s!"Level {severity}"

def plainLayout : Text := "%(levelname)s:%(name)s:%(message)s"

/-- The layouts of an entry by the sign that marks a place in them, in words. -/
def layoutTable : String :=
  "\x7b'%': (<class 'logging.PercentStyle'>, '%(levelname)s:%(name)s:%(message)s'), " ++
    "'\x7b': (<class 'logging.StrFormatStyle'>, " ++
    "'\x7blevelname\x7d:\x7bname\x7d:\x7bmessage\x7d'), " ++
    "'$': (<class 'logging.StringTemplateStyle'>, " ++
    "'$\x7blevelname\x7d:$\x7bname\x7d:$\x7bmessage\x7d')\x7d"

/-- A threshold that cannot be set, because its name is that of something else. -/
inductive ThresholdError where
  /-- The name is that of a layout. -/
  | layout
  /-- The name is that of the table of layouts. -/
  | layouts
deriving Repr, DecidableEq

namespace ThresholdError

def message : ThresholdError → Text
  | .layout => "Unknown level: " ++ quote plainLayout
  | .layouts => s!"Level not an integer or a valid string: {layoutTable}"

/-- The name of an error's kind in reports. -/
def kind : ThresholdError → String
  | .layout => "ValueError"
  | .layouts => "TypeError"

end ThresholdError

def layoutNames : List (Text × ThresholdError) :=
  [("BASIC_FORMAT", .layout), ("_STYLES", .layouts)]

def thresholdOf (name : Text) : Except ThresholdError Nat :=
  let isNamed (known : Text) : Bool := capitalizesTo name known
  match layoutNames.find? (isNamed ·.1), severities.find? (isNamed ·.1) with
  | some (_, error), _ => .error error
  | none, some (_, severity) => .ok severity
  | none, none => .ok info

end Observance.Log
