import Observance.Feed.Event
import Observance.Json.Reader
import Observance.Schedule.Reader
import Observance.Text.Case
import Observance.Text.Split
import Observance.Web.Request

/-! # Clients

The feed is text in UTF-8 unless its content type speaks of a character set. A published schedule
is JSON; whatever goes wrong with it, there is just no schedule.
-/

namespace Observance.Web

open Observance.Text

/-- Whether a content type speaks of a character set. -/
def mentionsCharset (contentType : String) : Bool :=
  occursIn "charset" ((contentType : Text).map asciiLower)

def feedRequest (address : String) (timeout : Int) : Request := { address, timeout := some timeout }

def Response.feedText (response : Response) : Except Raised Text :=
  if mentionsCharset (response.contentType.getD "") then response.text
  else .ok ((Utf8.decodeReplacing response.body))

def Exchange.feedText (exchange : Exchange) : Except Raised Text := do
  (← exchange.received).feedText

/-- The names and values of the header lines that ask for a schedule that is not stored on the
way. -/
def scheduleHeaders : List (String × String) :=
  [("Cache-Control", "no-cache"), ("Pragma", "no-cache")]

def scheduleRequest (address : String) (timeout : Option Int := none) : Request :=
  { address, headers := scheduleHeaders, timeout }

def Raised.isHandled (error : Raised) : Bool := error.isOfRequest || error.isOfValue

/-- The document that was asked for; a body that is not JSON holds none. -/
def Exchange.document? (exchange : Exchange) : Except Raised (Option Json) :=
  match exchange.received.bind (·.jsonText) with
  | .ok text => .ok (Json.read text).toOption
  | .error error => if error.isHandled then .ok none else .error error

/-- The schedule that was asked for, if it can be had. -/
def Exchange.schedule? (exchange : Exchange) : Except Raised (Option CheckedSchedule) := do
  return (← exchange.document?).bind Schedule.ofJson?

end Observance.Web
