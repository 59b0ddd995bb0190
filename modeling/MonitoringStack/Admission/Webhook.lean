import MonitoringStack.Admission.Review
import MonitoringStack.Http.MediaType

namespace MonitoringStack.Admission

open Kube

def refusal (e : Json.Unreadable) : Nat := if e.defect.isMalformed then 400 else 422

def readReview (text : String) : Except Json.Unreadable Review :=
  Review.form.decode Review.decode? text

def maxBodySize : Nat := 2097152

def reviewPath : String := "/validate-managedcluster"

variable {m : Type → Type} [Monad m] (secrets : ResourceStore m Secret)

def serveReview (contentType : Option String) (body : String) : m Http.Response :=
  if !contentType.any Http.MediaType.isJson then return { status := 415 }
  else if maxBodySize < body.utf8ByteSize then return { status := 413 }
  else
    match readReview body with
    | .error e => return { status := refusal e }
    | .ok r => do
      let a ← answer secrets r
      return { status := 200, contentType := some jsonType, body := a.encode.text }

/-- Reviews to be posted and a health probe. -/
def serve (method : String) (target : Http.Target) (contentType : Option String)
    (body : String) : m Http.Response :=
  if target.path = reviewPath then
    if method = "POST" then serveReview secrets contentType body
    else return Http.Response.methodNotAllowed
  else if target.path = "/healthz" then
    return Http.Response.forGet method Http.Response.healthy
  else return Http.Response.notFound

end MonitoringStack.Admission
