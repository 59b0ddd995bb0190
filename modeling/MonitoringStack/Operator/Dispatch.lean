import MonitoringStack.Backoff
import MonitoringStack.Kube.Cluster
import MonitoringStack.Operator.Metrics
import MonitoringStack.Operator.Reconcile

namespace MonitoringStack

open Kube

inductive Action where
  | awaitChange
  | requeue (seconds : UInt64)
deriving DecidableEq

def conflictDelay : UInt64 := 5

def resyncDelay : UInt64 := 600

structure OperatorState where
  metrics : Metrics := .empty
  tracker : BackoffTracker := ∅

instance : Inhabited OperatorState := ⟨{}⟩

structure Environment (m : Type → Type) where
  instances : ResourceStore m MonitoringInstance
  server : Server m
  build : SpecBuilder
  elapsed : m Milliseconds
  now : m Timestamp

namespace Dispatch

/-- Bindings are told apart by namespace and name. -/
def bindingKey (b : Binding) : String := b.ns ++ "/" ++ b.name

/-- A lost race is run again soon, a binding that asks for nonsense waits to be changed, and
everything else backs off. -/
def retryAction (e : OperatorError) (key : String) (t : BackoffTracker) :
    Action × BackoffTracker :=
  match e.root with
  | .conflict _ => (.requeue conflictDelay, t)
  | .invalidInput _ => (.awaitChange, t)
  | _ =>
    let (delay, t) := t.nextDelay key
    (.requeue delay, t)

def statusPatch (now : Timestamp) (b : Binding) (instanceName : String) (state : InstanceState)
    (message : Option String) : Option Json :=
  if b.status.any fun s => s.state = state && s.message = message then none
  else some <| .object [("status", .object [
    ("instanceName", .string instanceName),
    ("lastReconciled", .string now.text),
    ("message", (message.map Json.string).getD .null),
    ("state", .string state.name)])]

section Patches

def mergePatchType : String := "application/merge-patch+json"

def jsonPatchType : String := "application/json-patch+json"

def patchStep (op path : String) (value : Option Json) : Json :=
  .object <| [("op", .string op), ("path", .string path)] ++ Wire.present "value" id value

def addFinalizerPatch (finalizers : List String) : Json :=
  let path := "/metadata/finalizers"
  if finalizers.isEmpty then
    .array [patchStep "test" path (some .null),
      patchStep "add" path (some (Wire.strings [bindingFinalizer]))]
  else
    .array [patchStep "test" path (some (Wire.strings finalizers)),
      patchStep "add" (path ++ "/-") (some (.string bindingFinalizer))]

def removeFinalizerPatch (index : Nat) : Json :=
  let path := "/metadata/finalizers/" ++ toString index
  .array [patchStep "test" path (some (.string bindingFinalizer)), patchStep "remove" path none]

end Patches

section Passes

variable {m : Type → Type} [Monad m] (env : Environment m)

def patch (b : Binding) (name part contentType : String) (body : Json) :
    m (Except ClientError Binding) :=
  sendNamed name <|
    send env.server "PATCH" (collection Binding (some b.ns) ++ "/" ++ name ++ part ++ "?")
      (some contentType) (some body) Resource.ofText

def patchStatus (b : Binding) (state : InstanceState) (message : Option String) :
    m (Except OperatorError Unit) := do
  match statusPatch (← env.now) b b.name state message with
  | none => return .ok ()
  | some body =>
    match ← patch env b b.name "/status" mergePatchType body with
    | .ok _ => return .ok ()
    | .error e => return .error (.kube e)

/-- Brings the instance about and records in the status what became of it. When that failed, the
failure is what counts, even if the status cannot be written. -/
def apply (b : Binding) : StateT OperatorState m (Except OperatorError Action) := do
  match ← (Reconcile.run env.instances env.build b : m _) with
  | .ok outcome =>
    let elapsed ← env.elapsed
    modify fun s => {
      metrics := s.metrics.recordReconcile outcome.name elapsed
      tracker := s.tracker.reset (bindingKey b) }
    match ← (patchStatus env b outcome.state none : m _) with
    | .ok () => return .ok (.requeue resyncDelay)
    | .error e => return .error e
  | .error e =>
    let _ ← (patchStatus env b .failed (some e.text) : m _)
    return .error e

def cleanup (b : Binding) : StateT OperatorState m (Except OperatorError Action) := do
  match ← (Cleanup.deleteOwned env.instances b.name b.ns : m _) with
  | .ok deleted =>
    let elapsed ← env.elapsed
    modify fun s => {
      metrics := s.metrics.recordCleanup (UInt64.ofNat deleted) elapsed
      tracker := s.tracker.reset (bindingKey b) }
    return .ok .awaitChange
  | .error e => return .error e

def finalizerIndex? (b : Binding) : Option Nat :=
  (b.metadata.finalizers.getD []).findIdx? (· = bindingFinalizer)

/-- Without the finalizer a binding that stays is only given it. With it, a binding that stays is
applied, and one that is to go is cleaned up and, if that succeeds, released. -/
def withFinalizer (b : Binding) :
    StateT OperatorState m (Except (FinalizerError OperatorError) Action) := do
  match finalizerIndex? b, b.metadata.deletionTimestamp with
  | some _, none =>
    match ← apply env b with
    | .ok action => return .ok action
    | .error e => return .error (.applyFailed e)
  | some index, some _ =>
    match b.metadata.name with
    | none => return .error .unnamedObject
    | some name =>
      match ← cleanup env b with
      | .error e => return .error (.cleanupFailed e)
      | .ok action =>
        match ← (patch env b name "" jsonPatchType (removeFinalizerPatch index) : m _) with
        | .ok _ => return .ok action
        | .error e => return .error (.removeFinalizer e)
  | none, none =>
    match b.metadata.name with
    | none => return .error .unnamedObject
    | some name =>
      let body := addFinalizerPatch (b.metadata.finalizers.getD [])
      match ← (patch env b name "" jsonPatchType body : m _) with
      | .ok _ => return .ok .awaitChange
      | .error e => return .error (.addFinalizer e)
  | none, some _ => return .ok .awaitChange

def pass (b : Binding) : StateT OperatorState m (Except OperatorError Action) := do
  match b.metadata.ns? with
  | none => return .error (.invalidInput ("Binding " ++ b.name ++ " has no namespace"))
  | some _ =>
    match ← withFinalizer env b with
    | .ok action => return .ok action
    | .error e => return .error (.finalizer e)

def errorPolicy (b : Binding) (e : OperatorError) (s : OperatorState) : Action × OperatorState :=
  let (action, tracker) := retryAction e (bindingKey b) s.tracker
  (action, { metrics := s.metrics.recordError e.kind, tracker })

def run (b : Binding) : StateT OperatorState m (Action × Option OperatorError) := do
  match ← pass env b with
  | .ok action => return (action, none)
  | .error e =>
    let action ← modifyGet (errorPolicy b e)
    return (action, some e)

end Passes

def watchedLabel : String := bindingLabel

def streamEnded : OperatorError := .watch "Binding watch stream ended"

end Dispatch

end MonitoringStack
