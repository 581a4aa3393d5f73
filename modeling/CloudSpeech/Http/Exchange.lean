import CloudSpeech.Http.MediaType
import CloudSpeech.Http.Request
/-!
# Exchanges

What comes of a request: no connection, a connection that breaks or stays silent until the time is
over, or a response, whose body may still fail to arrive.
-/

namespace CloudSpeech.Http

inductive Body where
  | complete (octets : Octets)
  /-- The connection ended before the body did. -/
  | broken
  /-- The time was over before the body was complete. -/
  | stalled
  deriving DecidableEq, Repr

structure Response where
  status : Nat
  headers : List Header
  body : Body
  deriving DecidableEq, Repr

inductive Exchange where
  /-- No connection came about. -/
  | unreachable
  /-- The connection ended, or what came is no response. -/
  | broken
  /-- The time was over before a response began. -/
  | stalled
  | answered (response : Response)
  deriving DecidableEq, Repr

/-- A service, described by what comes of each request. -/
abbrev Service := Request → Exchange

/-- The text of a request that got no response. -/
def Request.failure (request : Request) : String :=
  "error sending request for url (" ++ request.url.text ++ ")"

/-- The text of a body that did not arrive. -/
def bodyFailure : String := "error decoding response body"

def isSuccess (status : Nat) : Bool := 200 ≤ status && status < 300

/-- The words for a status, where they are fixed. -/
def reason? : Nat → Option String
  | 100 => some "Continue"
  | 101 => some "Switching Protocols"
  | 102 => some "Processing"
  | 200 => some "OK"
  | 201 => some "Created"
  | 202 => some "Accepted"
  | 203 => some "Non Authoritative Information"
  | 204 => some "No Content"
  | 205 => some "Reset Content"
  | 206 => some "Partial Content"
  | 207 => some "Multi-Status"
  | 208 => some "Already Reported"
  | 226 => some "IM Used"
  | 300 => some "Multiple Choices"
  | 301 => some "Moved Permanently"
  | 302 => some "Found"
  | 303 => some "See Other"
  | 304 => some "Not Modified"
  | 305 => some "Use Proxy"
  | 307 => some "Temporary Redirect"
  | 308 => some "Permanent Redirect"
  | 400 => some "Bad Request"
  | 401 => some "Unauthorized"
  | 402 => some "Payment Required"
  | 403 => some "Forbidden"
  | 404 => some "Not Found"
  | 405 => some "Method Not Allowed"
  | 406 => some "Not Acceptable"
  | 407 => some "Proxy Authentication Required"
  | 408 => some "Request Timeout"
  | 409 => some "Conflict"
  | 410 => some "Gone"
  | 411 => some "Length Required"
  | 412 => some "Precondition Failed"
  | 413 => some "Payload Too Large"
  | 414 => some "URI Too Long"
  | 415 => some "Unsupported Media Type"
  | 416 => some "Range Not Satisfiable"
  | 417 => some "Expectation Failed"
  | 418 => some "I'm a teapot"
  | 421 => some "Misdirected Request"
  | 422 => some "Unprocessable Entity"
  | 423 => some "Locked"
  | 424 => some "Failed Dependency"
  | 425 => some "Too Early"
  | 426 => some "Upgrade Required"
  | 428 => some "Precondition Required"
  | 429 => some "Too Many Requests"
  | 431 => some "Request Header Fields Too Large"
  | 451 => some "Unavailable For Legal Reasons"
  | 500 => some "Internal Server Error"
  | 501 => some "Not Implemented"
  | 502 => some "Bad Gateway"
  | 503 => some "Service Unavailable"
  | 504 => some "Gateway Timeout"
  | 505 => some "HTTP Version Not Supported"
  | 506 => some "Variant Also Negotiates"
  | 507 => some "Insufficient Storage"
  | 508 => some "Loop Detected"
  | 510 => some "Not Extended"
  | 511 => some "Network Authentication Required"
  | _ => none

def statusLine (status : Nat) : String :=
  toString status ++ " " ++ (reason? status).getD "<unknown status code>"

namespace Response

/-- The octets of the body, if it arrived. -/
def octets? (response : Response) : Option Octets :=
  match response.body with
  | .complete octets => some octets
  | _ => none

/-- The text of the body, if it arrived, in the encoding that the headers name. -/
def text? (response : Response) (client : Client) : Option String :=
  let label := (Header.firstText? response.headers "Content-Type").bind MediaType.charset?
  response.octets?.map (client.decode label)

end Response

end CloudSpeech.Http
