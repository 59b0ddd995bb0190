import MonitoringStack.Json.Difference
import MonitoringStack.Operator.Settings
import MonitoringStack.Store.Interface

namespace MonitoringStack

open Kube

inductive Outcome where
  | created
  | updated
  | unchanged
deriving DecidableEq

namespace Outcome

def name : Outcome → String
  | .created => "created"
  | .updated => "updated"
  | .unchanged => "unchanged"

def state : Outcome → InstanceState
  | .created => .created
  | .updated => .updated
  | .unchanged => .unchanged

end Outcome

namespace Ownership

def labels (binding ns : String) : Labels :=
  KeyMap.ofList [(appLabel, apiGroup), (bindingLabel, binding), (bindingNamespaceLabel, ns)]

def ownerNs? (i : MonitoringInstance) : Option String := i.metadata.label? bindingNamespaceLabel

/-- The binding that an instance belongs to. An instance without a recorded namespace belongs to
none. -/
def owner? (i : MonitoringInstance) : Option Key :=
  match i.metadata.label? bindingLabel, ownerNs? i with
  | some name, some ns => some ⟨ns, name⟩
  | _, _ => none

end Ownership

structure Desired where
  binding : Key
  labels : Labels
  spec : InstanceSpec

inductive Decision where
  | create (i : MonitoringInstance)
  | keep
  | update (i : MonitoringInstance)

namespace Desired

def ofBinding (build : SpecBuilder) (binding : Binding) : Except OperatorError Desired :=
  match build binding with
  | .error e => .error e
  | .ok spec =>
    .ok ⟨⟨binding.ns, binding.name⟩, Ownership.labels binding.name binding.ns, spec⟩

/-- Instances are named after their bindings, whatever the bindings' namespaces. -/
def instanceKey (d : Desired) : Key := ⟨systemNamespace, d.binding.name⟩

def newInstance (d : Desired) : MonitoringInstance where
  metadata := {
    name := some d.binding.name
    ns? := some systemNamespace
    labels := some d.labels }
  spec := d.spec

def comparable (labels : Labels) (spec : InstanceSpec) : Json :=
  .object [("metadata", .object [("labels", Wire.stringMap labels)]), ("spec", spec.encode)]

def ofComparable (i : MonitoringInstance) (j : Json) : Except OperatorError MonitoringInstance :=
  match (j.at? ["metadata", "labels"]).bind (Wire.map? Wire.string?),
      (j.at? ["spec"]).bind InstanceSpec.decode? with
  | some labels, some spec => .ok { metadata := { i.metadata with labels := some labels }, spec }
  | _, _ => .error (.serialization "instance cannot be read back")

def strangerText (d : Desired) (owner : String) : String :=
  "MonitoringInstance " ++ systemNamespace ++ "/" ++ d.binding.name ++ " belongs to Binding " ++
    owner ++ "/" ++ d.binding.name ++ ", not " ++ d.binding.ns ++ "/" ++ d.binding.name

/-- The write that turns an instance of one's own into the desired one, its storage claims kept.
What the desired one has no opinion on stays as it is. -/
def converge (d : Desired) (i : MonitoringInstance) : Except OperatorError Decision :=
  let current := comparable (i.metadata.labels.getD ∅) i.spec
  let target := comparable d.labels (d.spec.withClaimsOf i.spec)
  if (current.difference target).isEmpty then .ok .keep
  else (ofComparable i (current.overlay target)).map .update

/-- An instance of another binding is left alone; one without a recorded owner is adopted. -/
def decide (d : Desired) : Option MonitoringInstance → Except OperatorError Decision
  | none => .ok (.create d.newInstance)
  | some i =>
    match (Ownership.ownerNs? i).filter (· ≠ d.binding.ns) with
    | some owner => .error (.invalidInput (d.strangerText owner))
    | none => d.converge i

end Desired

namespace Reconcile

variable {m : Type → Type} [Monad m] (store : ResourceStore m MonitoringInstance)

def write : Decision → m (Except OperatorError Outcome)
  | .keep => return .ok .unchanged
  | .create i => do
    match ← store.create i with
    | .ok _ => return .ok .created
    | .error e => return .error (.ofStoreError e)
  | .update i => do
    match ← store.update i with
    | .ok _ => return .ok .updated
    | .error e => return .error (.ofStoreError e)

def run (build : SpecBuilder) (binding : Binding) : m (Except OperatorError Outcome) :=
  match Desired.ofBinding build binding with
  | .error e => return .error e
  | .ok desired => do
    match ← store.find desired.instanceKey with
    | .error e => return .error (.ofStoreError e)
    | .ok found =>
      match desired.decide found with
      | .error e => return .error e
      | .ok decision => write store decision

end Reconcile

namespace Cleanup

variable {m : Type → Type} [Monad m] (store : ResourceStore m MonitoringInstance)

def selectBinding (binding : String) : Selector := .eq bindingLabel binding

def selectOwned (binding ns : String) : Selector :=
  (selectBinding binding).and bindingNamespaceLabel ns

/-- Deletes one instance after another. Instances that are gone already do not count; the first
other failure ends it. -/
def deleteEach (binding : String) (deleted : Nat) :
    List MonitoringInstance → m (Except OperatorError Nat)
  | [] => return .ok deleted
  | i :: rest => do
    match ← store.delete ⟨i.metadata.namespaceOrEmpty, i.metadata.nameOrStem⟩ with
    | .ok () => deleteEach binding (deleted + 1) rest
    | .error e =>
      if e.isNotFound then deleteEach binding deleted rest
      else if deleted = 0 then return .error (.ofStoreError e)
      else return .error (.partialFailure binding deleted (rest.length + 1) e)

def deleteSelected (binding : String) (selector : Selector) : m (Except OperatorError Nat) := do
  match ← store.list none selector with
  | .error e => return .error (.ofStoreError e)
  | .ok instances => deleteEach store binding 0 instances

def deleteAll (binding : String) : m (Except OperatorError Nat) :=
  deleteSelected store binding (selectBinding binding)

def deleteOwned (binding ns : String) : m (Except OperatorError Nat) :=
  deleteSelected store binding (selectOwned binding ns)

end Cleanup

end MonitoringStack
