import MonitoringStack.Kube.ClientError

namespace MonitoringStack

inductive StoreError where
  | notFound (what : String)
  -- The write carried a version token that is out of date.
  | conflict (detail : String)
  | alreadyExists (what : String)
  | invalidResource (detail : String)
  | kube (error : Kube.ClientError)
  | serialization (detail : String)
  | unavailable (detail : String)
deriving DecidableEq

namespace StoreError

def isNotFound : StoreError → Bool
  | .notFound _ => true
  | _ => false

def isConflict : StoreError → Bool
  | .conflict _ => true
  | _ => false

def text : StoreError → String
  | .notFound what => "Not found: " ++ what
  | .conflict detail => "Conflict: " ++ detail
  | .alreadyExists what => "Already exists: " ++ what
  | .invalidResource detail => "Invalid resource: " ++ detail
  | .kube error => "Kubernetes error: " ++ error.text
  | .serialization detail => "Serialization error: " ++ detail
  | .unavailable detail => "Resource store unavailable: " ++ detail

def ofClientError (what : String) : Kube.ClientError → StoreError
  | .api f =>
    if f.code = 404 then .notFound what
    else if f.code = 409 then
      if f.reason = "AlreadyExists" then .alreadyExists what
      else .conflict (what ++ ": " ++ f.message)
    else .kube (.api f)
  | e => .kube e

end StoreError

end MonitoringStack
