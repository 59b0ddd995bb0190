import MonitoringStack.Wire.Record
import MonitoringStack.Text.Quoted

namespace MonitoringStack.Kube

structure ApiFailure where
  status : String
  message : String := ""
  reason : String := ""
  code : Nat
deriving DecidableEq, Inhabited

inductive ClientError where
  | api (failure : ApiFailure)
  -- The request was answered, but the answer is no object of the kind asked for.
  | undecodable (detail : String)
  -- The request cannot be written down and was not sent.
  | unsendable (detail : String)
  | unanswered (detail : String)
deriving DecidableEq

namespace ApiFailure

open Json (Slot Form)

open Wire

def code? (j : Json) : Option Int := intBetween? 0 65535 j

def fields : List (Slot Form) :=
  [.required "status" string, .defaulted "message" string, .defaulted "reason" string,
    .required "code" (integer "u16" code?)]

def decode? (j : Json) : Option ApiFailure := do
  let fields ← record? fields j
  return {
    status := ← required? fields "status" string?
    message := ← defaulted? fields "message" string? ""
    reason := ← defaulted? fields "reason" string? ""
    code := (← required? fields "code" code?).toNat }

def ofText? (text : String) : Option ApiFailure :=
  ((Form.record .plain "ErrorResponse" fields).decode decode? text).toOption

def text (f : ApiFailure) : String :=
  f.message ++ ": " ++ f.reason ++ " (ErrorResponse \x7b status: " ++ Text.quoted f.status ++
    ", message: " ++ Text.quoted f.message ++ ", reason: " ++ Text.quoted f.reason ++
    ", code: " ++ toString f.code ++ " \x7d)"

end ApiFailure

def ClientError.text : ClientError → String
  | .api f => "ApiError: " ++ f.text
  | .undecodable detail => "Error deserializing response: " ++ detail
  | .unsendable detail => "Failed to build request: " ++ detail
  | .unanswered detail => "ServiceError: " ++ detail

end MonitoringStack.Kube
