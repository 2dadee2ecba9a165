import Observance.Resolver
import Observance.Rule.Error
import Observance.Schedule.Build
import Observance.Storage.Artifact
import Observance.Storage.Document
import Observance.Text.IntegerText
import Observance.Web.Request

/-! # Errors of a build

A build goes through stages, and an error belongs to one. Most errors are reported: the build ends
with a report of what went wrong in which stage. Overflows and a request of the wrong type are not
foreseen, and end the build without a report.
-/

namespace Observance

open Observance.Text

/-- A failed upload. -/
structure UploadError where
  code : Text
  reason : Text
deriving Repr, DecidableEq

def UploadError.message (error : UploadError) : Text :=
  "An error occurred (" ++ error.code ++ ") when calling the PutObject operation: " ++ error.reason

/-- A failure of an upload that is no answer to it: the place for it cannot be reached, either
before the upload is begun or during it. -/
structure Outage where
  isBegun : Bool
  kind : String
  message : Text
deriving Repr, DecidableEq

namespace Build

/-- Why a build fails. -/
inductive Error where
  /-- No address of a feed is given. -/
  | addressMissing
  /-- A setting is not an integer. -/
  | setting (error : IntegerError)
  /-- The reference day is not a date. -/
  | today (error : DateError)
  /-- The reference day is not a text. -/
  | todayNotText
  /-- The request is not an object. -/
  | requestNotObject (typeName : String)
  /-- The rule file has no text. -/
  | ruleFile (error : TextFileError)
  /-- The rule document cannot be used. -/
  | rules (error : RuleError)
  /-- The feed cannot be had. -/
  | feed (error : Web.Raised)
  /-- The rules cannot be resolved. -/
  | resolution (error : ResolutionError)
  /-- The schedule cannot be built. -/
  | schedule (error : ScheduleError)
  /-- The schedule cannot be written. -/
  | writing (error : Artifact.WritingError)
  /-- The schedule cannot be uploaded. -/
  | upload (error : UploadError)
  /-- The schedule cannot be uploaded, and there is no answer that says why. -/
  | outage (outage : Outage)
deriving Repr

namespace Error

def message : Error → Text
  | .addressMissing => "CAL_ICS_URL env var is required."
  | .setting error => error.message
  | .today error => error.message
  | .todayNotText => "fromisoformat: argument must be str"
  | .requestNotObject typeName => s!"'{typeName}' object has no attribute 'get'"
  | .ruleFile error => error.message
  | .rules error => error.message
  | .feed error => error.message
  | .resolution error => error.message
  | .schedule error => error.message
  | .writing error => error.message
  | .upload error => error.message
  | .outage cause => cause.message

/-- The name of an error's kind in reports. -/
def kind : Error → String
  | .addressMissing | .setting _ => "ValueError"
  | .today error => error.kind
  | .todayNotText => "TypeError"
  | .requestNotObject _ => "AttributeError"
  | .ruleFile error => error.kind
  | .rules error => error.kind
  | .feed error => error.kind
  | .resolution error => error.kind
  | .schedule error => error.kind
  | .writing error => error.kind
  | .upload _ => "ClientError"
  | .outage cause => cause.kind

/-- What a report says about the stage of an error. -/
def headline : Error → String
  | .addressMissing | .setting _ | .today _ | .todayNotText | .requestNotObject _ =>
    "Invalid configuration"
  | .ruleFile _ | .rules _ => "Failed to load festival rules"
  | .feed _ => "Failed to fetch calendar feed"
  | .resolution _ | .schedule _ => "Resolved schedule is invalid"
  | .writing _ | .upload _ | .outage _ => "Failed to write festival artifact"

/-- Whether an error is reported. -/
def isReported : Error → Bool
  | .todayNotText | .requestNotObject _ => false
  | .today error => !error.isOverflow
  | .rules error => error.isForeseen
  | .resolution error => error.isForeseen
  | .schedule (.unordered _) => false
  | .schedule (.moment error) => !error.isOverflow
  | _ => true

/-- Whether an error is one of the settings, which are reported before anything is begun. -/
def isOfSettings : Error → Bool
  | .addressMissing | .setting _ | .today _ | .todayNotText | .requestNotObject _ => true
  | _ => false

end Error

end Build

end Observance
