import Observance.Text.Utf8

/-! # Requests

The program asks for a document at an address and is told what came of it. How a request is made,
and how a body becomes text, is not its business: it only sees a response, or an error that is
raised instead of one. Whether an error counts as one of a request, or as one of a value, decides
who handles it.
-/

namespace Observance.Web

open Observance.Text

/-- A request for the document at an address, with the header lines that are sent. -/
structure Request where
  address : String
  headers : List (String × String) := []
  /-- The seconds after which the request is given up, if it ever is. -/
  timeout : Option Int
deriving Repr, DecidableEq

/-- An error that is raised outside the program. -/
structure Raised where
  kind : String
  message : Text
  isOfRequest : Bool
  isOfValue : Bool
deriving Repr, DecidableEq

/-- A response, with what its body is taken for. -/
structure Response where
  status : Nat
  contentType : Option String
  body : Bytes
  /-- The wording of the error that the status stands for, if it stands for one. -/
  refusal : Text
  /-- The body as a text in the character set that goes with the header lines. -/
  text : Except Raised Text
  /-- The body as the text of a JSON document. -/
  jsonText : Except Raised Text

/-- What comes of a request. -/
inductive Exchange where
  | answer (response : Response)
  /-- An error is raised. The request may not even have been sent. -/
  | failure (isSent : Bool) (error : Raised)

abbrev Fetch := Request → Exchange

/-- A response that declares no character set, with its body read as UTF-8. -/
def Response.plain (status : Nat) (body : Bytes) : Response :=
  let text := .ok ((Utf8.decodeReplacing body))
  { status, contentType := none, body, refusal := "", text, jsonText := text }

def Response.refused (response : Response) : Raised :=
  { kind := "HTTPError", message := response.refusal, isOfRequest := true, isOfValue := false }

def Response.isRefused (response : Response) : Bool :=
  400 ≤ response.status && response.status < 600

namespace Exchange

/-- The response, unless an error is raised or its status stands for one. -/
def received : Exchange → Except Raised Response
  | .answer response => if response.isRefused then .error response.refused else .ok response
  | .failure _ error => .error error

/-- The number of requests that are sent. -/
def requestCount : Exchange → Nat
  | .answer _ => 1
  | .failure isSent _ => isSent.toNat

end Exchange

end Observance.Web
