import MonitoringStack.Kube.ClientError
import MonitoringStack.Http.Target
import MonitoringStack.Json.Printer

namespace MonitoringStack.Kube

open Wire

structure Request where
  method : String
  target : Http.Target
  contentType : Option String := none
  body : Option Json := none

structure Reply where
  status : Nat
  body : String

/-- Whatever answers requests, or says why there is no answer. -/
abbrev Server (m : Type → Type) := Request → m (Except String Reply)

def statusName (code : Nat) : String :=
  match code with
  | 100 => "Continue"
  | 101 => "Switching Protocols"
  | 102 => "Processing"
  | 103 => "Early Hints"
  | 200 => "OK"
  | 201 => "Created"
  | 202 => "Accepted"
  | 203 => "Non Authoritative Information"
  | 204 => "No Content"
  | 205 => "Reset Content"
  | 206 => "Partial Content"
  | 207 => "Multi-Status"
  | 208 => "Already Reported"
  | 226 => "IM Used"
  | 300 => "Multiple Choices"
  | 301 => "Moved Permanently"
  | 302 => "Found"
  | 303 => "See Other"
  | 304 => "Not Modified"
  | 305 => "Use Proxy"
  | 307 => "Temporary Redirect"
  | 308 => "Permanent Redirect"
  | 400 => "Bad Request"
  | 401 => "Unauthorized"
  | 402 => "Payment Required"
  | 403 => "Forbidden"
  | 404 => "Not Found"
  | 405 => "Method Not Allowed"
  | 406 => "Not Acceptable"
  | 407 => "Proxy Authentication Required"
  | 408 => "Request Timeout"
  | 409 => "Conflict"
  | 410 => "Gone"
  | 411 => "Length Required"
  | 412 => "Precondition Failed"
  | 413 => "Payload Too Large"
  | 414 => "URI Too Long"
  | 415 => "Unsupported Media Type"
  | 416 => "Range Not Satisfiable"
  | 417 => "Expectation Failed"
  | 418 => "I'm a teapot"
  | 421 => "Misdirected Request"
  | 422 => "Unprocessable Entity"
  | 423 => "Locked"
  | 424 => "Failed Dependency"
  | 425 => "Too Early"
  | 426 => "Upgrade Required"
  | 428 => "Precondition Required"
  | 429 => "Too Many Requests"
  | 431 => "Request Header Fields Too Large"
  | 451 => "Unavailable For Legal Reasons"
  | 500 => "Internal Server Error"
  | 501 => "Not Implemented"
  | 502 => "Bad Gateway"
  | 503 => "Service Unavailable"
  | 504 => "Gateway Timeout"
  | 505 => "HTTP Version Not Supported"
  | 506 => "Variant Also Negotiates"
  | 507 => "Insufficient Storage"
  | 508 => "Loop Detected"
  | 510 => "Not Extended"
  | 511 => "Network Authentication Required"
  | _ => "<unknown status code>"

namespace Reply

/-- The failure that an error reply tells of; one that tells nothing readable is quoted. -/
def failure (r : Reply) : ApiFailure :=
  match ApiFailure.ofText? r.body with
  | some f => f
  | none => {
    status := toString r.status ++ " " ++ statusName r.status
    message := Text.quoted r.body
    reason := "Failed to parse error data"
    code := r.status }

def success (r : Reply) : Except ClientError String :=
  if 400 ≤ r.status ∧ r.status < 600 then .error (.api r.failure) else .ok r.body

def content {β : Type} (read : String → Except Json.Unreadable β) (r : Reply) :
    Except ClientError β :=
  match r.success with
  | .error e => .error e
  | .ok body => (read body).mapError (.undecodable ·.text)

end Reply

def answerContent {β : Type} (read : String → Except Json.Unreadable β) :
    Except String Reply → Except ClientError β
  | .ok r => r.content read
  | .error detail => .error (.unanswered detail)

def jsonType : String := "application/json"

def send {m : Type → Type} [Monad m] {β : Type} (server : Server m) (method address : String)
    (contentType : Option String) (body : Option Json)
    (read : String → Except Json.Unreadable β) : m (Except ClientError β) :=
  match Http.Target.read? address with
  | none =>
    let reason :=
      if Http.Target.isTooLong address then "uri too long" else "invalid uri character"
    return .error (.unsendable ("failed to build request: " ++ reason))
  | some target => do
    let answer ← server { method, target, contentType, body }
    return answerContent read answer

def sendNamed {m : Type → Type} [Monad m] {β : Type} (name : String)
    (request : m (Except ClientError β)) : m (Except ClientError β) :=
  if name = "" then
    return .error (.unsendable "failed to validate request: A non-empty name is required")
  else request

end MonitoringStack.Kube
