/-! # Status codes

A response with a status from 400 to 599 reports an error of the client or of the server. With some
other statuses it cannot have a body.
-/

namespace Observance.Simulation

/-- The phrase of a status that reports an error, if it is one in common use. -/
def statusPhrase? : Nat → Option String
  | 400 => some "Bad Request"
  | 401 => some "Unauthorized"
  | 402 => some "Payment Required"
  | 403 => some "Forbidden"
  | 404 => some "Not Found"
  | 405 => some "Method Not Allowed"
  | 406 => some "Not Acceptable"
  | 407 => some "Proxy Authentication Required"
  | 408 => some "Request Timeout"
  | 409 => some "Conflict"
  | 410 => some "Gone"
  | 411 => some "Length Required"
  | 412 => some "Precondition Failed"
  | 413 => some "Request Entity Too Large"
  | 414 => some "Request-URI Too Long"
  | 415 => some "Unsupported Media Type"
  | 416 => some "Requested Range Not Satisfiable"
  | 417 => some "Expectation Failed"
  | 418 => some "I'm a Teapot"
  | 421 => some "Misdirected Request"
  | 422 => some "Unprocessable Entity"
  | 423 => some "Locked"
  | 424 => some "Failed Dependency"
  | 425 => some "Too Early"
  | 426 => some "Upgrade Required"
  | 428 => some "Precondition Required"
  | 429 => some "Too Many Requests"
  | 431 => some "Request Header Fields Too Large"
  | 451 => some "Unavailable For Legal Reasons"
  | 500 => some "Internal Server Error"
  | 501 => some "Not Implemented"
  | 502 => some "Bad Gateway"
  | 503 => some "Service Unavailable"
  | 504 => some "Gateway Timeout"
  | 505 => some "HTTP Version Not Supported"
  | 506 => some "Variant Also Negotiates"
  | 507 => some "Insufficient Storage"
  | 508 => some "Loop Detected"
  | 510 => some "Not Extended"
  | 511 => some "Network Authentication Required"
  | _ => none

/-- Who made the error that a status reports; none if it reports no error. -/
def statusBlame? (status : Nat) : Option String :=
  if 400 ≤ status ∧ status < 500 then some "Client"
  else if 500 ≤ status ∧ status < 600 then some "Server"
  else none

def isBodiless (status : Nat) : Bool :=
  (100 ≤ status && status < 200) || status == 204 || status == 304

end Observance.Simulation
