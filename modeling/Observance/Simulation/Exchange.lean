import Observance.Simulation.Address.Prepared
import Observance.Simulation.Charset.Name
import Observance.Simulation.ContentType
import Observance.Simulation.Endpoint
import Observance.Simulation.Status
import Observance.Web.Request

/-! # Simulated requests

Without a network, an endpoint stands for the server of an address: it is set up with one answer,
and says what would come of a request. An address may be unusable or may not match the endpoint. A
response that has a body although its status allows none counts as a failure.
-/

namespace Observance.Simulation

open Observance.Text Observance.Web

/-- The answer that an endpoint is set up with. -/
inductive Answer where
  | response (status : Nat) (body : Bytes) (contentType : Option String)
  /-- The request fails on the way, with an error of some kind. -/
  | failure (kind : String) (message : Text)
deriving Repr, DecidableEq

/-- Kinds of failures that warn of a misuse and do not concern a request. -/
def warningKinds : List String :=
  ["RequestsWarning", "FileModeWarning", "RequestsDependencyWarning"]

/-- Kinds of failures that are errors of a value, too. -/
def valueKinds : List String :=
  ["MissingSchema", "InvalidSchema", "InvalidURL", "InvalidHeader", "InvalidProxyURL",
    "JSONDecodeError"]

def requestError (kind : String) (message : Text) : Raised :=
  { kind, message, isOfRequest := !warningKinds.contains kind,
    isOfValue := valueKinds.contains kind }

/-- The error of an address that cannot be compared with that of the endpoint. -/
def incomparable (error : AddressError) : Raised :=
  { kind := "LocationParseError", message := error.message, isOfRequest := false,
    isOfValue := true }

/-- The error of a request that does not match the endpoint. -/
def mismatched (requested registered : Text) (mismatch : Mismatch) : Raised :=
  requestError "ConnectionError" <|
    "Connection refused by Responses - the call doesn't match any registered mock.\n\n" ++
      "Request: \n- GET " ++ requested ++ "\n\nAvailable matches:\n- GET " ++ registered ++ " " ++
      mismatch.message ++ "\n"

/-- The error of a body of some bytes where there must be none. -/
def unexpectedBody (size : Nat) : Raised :=
  requestError "ChunkedEncodingError" <|
    s!"('Response may not contain content.', IncompleteRead({size} bytes read, " ++
      s!"-{size} more expected))"

/-- The error of a body that cannot be read as text. -/
def unreadable (error : EncodingError) : Raised :=
  { kind := error.kind, message := error.message, isOfRequest := false, isOfValue := true }

/-- The wording of the error that a status stands for. -/
def refusal (status : Nat) (address : Text) : Text :=
  let blame := (statusBlame? status).getD ""
  let phrase := (statusPhrase? status).getD "None"
  s!"{status} {blame} Error: {phrase} for url: " ++ address

/-- The text of a body in the character set that its content type declares. -/
def textOf (charset : Option Text) (body : Bytes) : Except Raised Text :=
  (Encoding.textOf charset body).mapError unreadable

/-- The text of a JSON body. Without a declared character set, the first bytes say which, unless
there are too few of them. -/
def jsonTextOf (charset : Option Text) (body : Bytes) : Except Raised Text :=
  let shown :=
    if charset.all List.isEmpty && body.length > 3 then
      (Charset.ofJsonBytes? body).bind (·.decode? body)
    else none
  match shown with
  | some text => .ok text
  | none => textOf charset body

def responseOf (address : Text) (status : Nat) (body : Bytes) (contentType : Option String) :
    Response :=
  let charset := declaredCharset? (contentType.getD "")
  { status, contentType, body, refusal := refusal status address
    text := textOf charset body, jsonText := jsonTextOf charset body }

/-- What comes of requesting an address from the endpoint that is registered at it. -/
def exchange (answer : Answer) (address : Text) : Exchange :=
  match Address.prepare address with
  | .error error => .failure false (requestError error.kind error.message)
  | .ok requested =>
    let registered := Endpoint.registered address
    match Endpoint.mismatch? registered requested with
    | .error error => .failure false (incomparable error)
    | .ok (some mismatch) => .failure true (mismatched requested registered mismatch)
    | .ok none =>
      match answer with
      | .failure kind message => .failure true (requestError kind message)
      | .response status body contentType =>
        if isBodiless status && !body.isEmpty then .failure true (unexpectedBody body.length)
        else .answer (responseOf requested status body contentType)

end Observance.Simulation
