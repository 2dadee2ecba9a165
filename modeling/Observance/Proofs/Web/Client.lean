import Observance.Proofs.Result
import Observance.Web.Client

/-! # Requests that give no schedule

Whatever goes wrong with the request for a schedule is taken for the lack of one, as long as only
errors are raised that a client handles: a failure on the way, a status that stands for an error, a
body that cannot be read, is not JSON, or holds no object.
-/

namespace Observance.Web

open Result

/-- What is documented of requests: no response is an error of a request, and a body that cannot be
read as the text of a JSON document is an error of a request or of a value. -/
structure Exchange.IsDocumented (exchange : Exchange) : Prop where
  raised : ∀ isSent error, exchange = .failure isSent error → error.isOfRequest = true
  unread : ∀ response error, exchange = .answer response → response.jsonText = .error error →
    error.isHandled = true

/-- The ways in which a request does not give a schedule. -/
inductive Exchange.Fails : Exchange → Prop
  | raised {isSent : Bool} {error : Raised} : Fails (.failure isSent error)
  | refused {response : Response} (isError : 400 ≤ response.status ∧ response.status < 600) :
      Fails (.answer response)
  | unread {response : Response} {error : Raised} (noText : response.jsonText = .error error) :
      Fails (.answer response)
  | notJson {response : Response} {text : Text} {error : Json.ReadError}
      (hasText : response.jsonText = .ok text) (invalid : Json.read text = .error error) :
      Fails (.answer response)
  | notObject {response : Response} {text : Text} {document : Json}
      (hasText : response.jsonText = .ok text) (valid : Json.read text = .ok document)
      (isOther : document.fields? = none) : Fails (.answer response)

variable {exchange : Exchange} {response : Response} {error : Raised}

theorem Response.isRefused_iff :
    response.isRefused = true ↔ 400 ≤ response.status ∧ response.status < 600 := by
  simp [isRefused]

theorem Raised.isHandled_of_isOfRequest (isOfRequest : error.isOfRequest = true) :
    error.isHandled = true := by
  rw [isHandled, isOfRequest, Bool.true_or]

namespace Exchange

theorem received_refused (refused : response.isRefused = true) :
    (answer response).received = .error response.refused := if_pos refused

theorem received_taken (taken : response.isRefused = false) :
    (answer response).received = .ok response := if_neg (by simp [taken])

/-- Documented errors are handled. -/
theorem IsDocumented.isHandled (documented : exchange.IsDocumented)
    (failure : exchange.received.bind (·.jsonText) = .error error) : error.isHandled = true := by
  cases exchange with
  | failure isSent cause =>
    cases failure
    exact Raised.isHandled_of_isOfRequest (documented.raised isSent error rfl)
  | answer response =>
    cases refused : response.isRefused with
    | true =>
      rw [received_refused refused] at failure
      cases failure
      rfl
    | false =>
      rw [received_taken refused] at failure
      exact documented.unread response error rfl failure

theorem document?_of_text {text : Text}
    (success : exchange.received.bind (·.jsonText) = .ok text) :
    exchange.document? = .ok (Json.read text).toOption := by
  rw [document?, success]

theorem IsDocumented.document?_of_error (documented : exchange.IsDocumented)
    (failure : exchange.received.bind (·.jsonText) = .error error) :
    exchange.document? = .ok none := by
  rw [document?, failure]
  exact if_pos (documented.isHandled failure)

/-- What is documented of requests lets none of them escape from the client. -/
theorem IsDocumented.exists_document? (documented : exchange.IsDocumented) :
    ∃ found, exchange.document? = .ok found := by
  cases outcome : exchange.received.bind (·.jsonText) with
  | ok text => exact ⟨_, document?_of_text outcome⟩
  | error error => exact ⟨none, documented.document?_of_error outcome⟩

theorem schedule?_of_document? {found : Option Json} (success : exchange.document? = .ok found) :
    exchange.schedule? = .ok (found.bind Schedule.ofJson?) := by
  rw [schedule?, success]
  rfl

/-- A text that is received as JSON is the one of a response that is not refused. -/
theorem exists_of_received {text : Text}
    (success : exchange.received.bind (·.jsonText) = .ok text) : ∃ response,
      exchange = .answer response ∧ response.isRefused = false ∧ response.jsonText = .ok text := by
  cases exchange with
  | failure isSent error => cases success
  | answer response =>
    cases refused : response.isRefused with
    | true =>
      rw [received_refused refused] at success
      cases success
    | false =>
      rw [received_taken refused] at success
      exact ⟨response, rfl, refused, success⟩

/-- A request that fails gives no schedule, as long as the errors are handled. -/
theorem schedule?_of_fails (fails : exchange.Fails) (documented : exchange.IsDocumented) :
    exchange.schedule? = .ok none := by
  cases outcome : exchange.received.bind (·.jsonText) with
  | error error => exact schedule?_of_document? (documented.document?_of_error outcome)
  | ok text =>
    have found := schedule?_of_document? (document?_of_text outcome)
    obtain ⟨response, rfl, taken, hasText⟩ := exists_of_received outcome
    cases fails with
    | refused isError =>
      rw [Response.isRefused_iff.mpr isError] at taken
      cases taken
    | unread noText =>
      rw [noText] at hasText
      cases hasText
    | notJson hasText' invalid =>
      cases hasText'.symm.trans hasText
      rw [found, invalid]
      rfl
    | notObject hasText' valid isOther =>
      cases hasText'.symm.trans hasText
      rw [found, valid, Except.toOption, Option.bind_some, Schedule.ofJson?, isOther]
      rfl

/-- A schedule that is had was read from a document. -/
theorem exists_document_of_schedule? {schedule : CheckedSchedule}
    (success : exchange.schedule? = .ok (some schedule)) :
    ∃ document, Schedule.ofJson? document = some schedule := by
  obtain ⟨found, -, success⟩ := bind_eq_ok.mp success
  obtain ⟨document, -, read⟩ := Option.bind_eq_some_iff.mp (pure_eq_ok.mp success)
  exact ⟨document, read⟩

end Exchange

end Observance.Web
