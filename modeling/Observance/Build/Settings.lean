import Observance.Build.Error
import Observance.Calendar.IsoText
import Observance.Json.Display
import Observance.Resolver

/-! # Settings of a build

A build takes its settings from the environment, and may be asked for another reference day than
the current one. The address of the feed is looked at first, then the integers, then the day.
-/

namespace Observance.Build

open Observance.Text

abbrev Environment := List (String × String)

/-- Where the rule document is, unless a setting says otherwise. -/
def defaultRulesPath : String := "assets/themes/festivals.json"

/-- Where the schedule goes, unless a setting says otherwise. -/
def defaultOutputPath : String := "assets/themes/festivals.generated.json"

/-- The key that the schedule is uploaded under, unless a setting says otherwise. -/
def defaultKey : String := "themes/festivals.generated.json"

/-- The paths, and where to upload the schedule. An empty bucket means that it is not uploaded. -/
structure Places where
  rulesPath : String
  outputPath : String
  bucket : String
  key : String
deriving Repr, DecidableEq

def Places.ofEnvironment (environment : Environment) : Places :=
  { rulesPath := (environment.lookup "RULES_PATH").getD defaultRulesPath
    outputPath := (environment.lookup "OUTPUT_PATH").getD defaultOutputPath
    bucket := (environment.lookup "ARTIFACT_BUCKET").getD ""
    key := (environment.lookup "ARTIFACT_KEY").getD defaultKey }

def Places.isUploaded (places : Places) : Bool := !places.bucket.isEmpty

/-- The settings that can be wrong. -/
structure Settings where
  address : String
  lookahead : Int
  timeout : Int
  today : Option Date
deriving Repr

def readSetting (environment : Environment) (name : String) (usual : Int) : Except Error Int :=
  match environment.lookup name with
  | none => .ok usual
  | some text => (readInteger text).mapError .setting

/-- The reference day that is asked for. A day that does not count as present is as good as
none. -/
def readToday (request : Json) : Except Error (Option Date) :=
  if !request.isPresent then .ok none
  else match request with
    | .object fields =>
      match Fields.get? fields "today" with
      | none => .ok none
      | some (.text text) =>
        if text.isEmpty then .ok none
        else match Date.ofText text with
          | .ok date => .ok (some date)
          | .error error => .error (.today error)
      | some value => if value.isPresent then .error .todayNotText else .ok none
    | value => .error (.requestNotObject value.typeName)

/-- The settings in an environment and a request. -/
def Settings.read (environment : Environment) (request : Json) : Except Error Settings := do
  let address := (environment.lookup "CAL_ICS_URL").getD ""
  if address.isEmpty then throw .addressMissing
  let lookahead ← readSetting environment "LOOKAHEAD_MONTHS" Resolver.defaultLookahead
  let timeout ← readSetting environment "TIMEOUT_SECONDS" 30
  let today ← readToday request
  return { address, lookahead, timeout, today }

end Observance.Build
