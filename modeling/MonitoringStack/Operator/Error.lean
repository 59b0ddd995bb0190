import MonitoringStack.Store.Error
import MonitoringStack.Helm.Error

namespace MonitoringStack

inductive FinalizerError (ε : Type) where
  | applyFailed (error : ε)
  | cleanupFailed (error : ε)
  | addFinalizer (error : Kube.ClientError)
  | removeFinalizer (error : Kube.ClientError)
  | unnamedObject
  | invalidFinalizer

inductive OperatorError where
  | kube (error : Kube.ClientError)
  | invalidInput (detail : String)
  | store (error : StoreError)
  | conflict (detail : String)
  -- Instances were deleted before one could not be.
  | partialFailure (binding : String) (deleted remaining : Nat) (source : StoreError)
  | serialization (detail : String)
  | helm (error : HelmError)
  | invalidConfig (detail : String)
  | finalizer (error : FinalizerError OperatorError)
  | metrics (detail : String)
  | watch (detail : String)
  | server (detail : String)

namespace OperatorError

def ofStoreError : StoreError → OperatorError
  | .conflict detail | .alreadyExists detail => .conflict detail
  | e => .store e

/-- The error of the pass inside the errors of the finalizer around it. -/
def root : OperatorError → OperatorError
  | .finalizer (.applyFailed e) | .finalizer (.cleanupFailed e) => e.root
  | e => e

def label : OperatorError → String
  | .kube _ => "kube"
  | .invalidInput _ => "invalid_input"
  | .store _ => "store"
  | .conflict _ => "conflict"
  | .partialFailure .. => "partial_failure"
  | .serialization _ => "serialization"
  | .helm _ => "helm"
  | .invalidConfig _ => "invalid_config"
  | .finalizer _ => "finalizer"
  | .metrics _ => "metrics"
  | .watch _ => "watch"
  | .server _ => "server"

def kind (e : OperatorError) : String := e.root.label

def text : OperatorError → String
  | .kube e => "Kubernetes error: " ++ e.text
  | .invalidInput detail => "Invalid input: " ++ detail
  | .store e => "Store error: " ++ e.text
  | .conflict detail => "Conflict: " ++ detail
  | .partialFailure binding deleted remaining source =>
    "Deleted " ++ toString deleted ++ " MonitoringInstance(s) for binding " ++ binding ++
      " before failing, " ++ toString remaining ++ " left: " ++ source.text
  | .serialization detail => "Serialization error: " ++ detail
  | .helm e => "Helm error: " ++ e.text
  | .invalidConfig detail => "Invalid configuration: " ++ detail
  | .finalizer e =>
    "Finalizer error: " ++ match e with
      | .applyFailed e => "failed to apply object: " ++ e.text
      | .cleanupFailed e => "failed to clean up object: " ++ e.text
      | .addFinalizer e => "failed to add finalizer: " ++ e.text
      | .removeFinalizer e => "failed to remove finalizer: " ++ e.text
      | .unnamedObject => "object has no name"
      | .invalidFinalizer => "invalid finalizer"
  | .metrics detail => "Metrics error: Error: " ++ detail
  | .watch detail => "Resource watch failed: " ++ detail
  | .server detail => "Server error: " ++ detail

end OperatorError

end MonitoringStack
