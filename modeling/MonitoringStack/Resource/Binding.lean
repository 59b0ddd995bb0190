import MonitoringStack.Kube.Object
import MonitoringStack.Resource.Names
import MonitoringStack.Resource.Reference

namespace MonitoringStack

open Json (Slot Form)

open Wire

inductive InstanceState where
  | pending
  | created
  | updated
  | unchanged
  | failed
deriving DecidableEq, Inhabited

structure BindingSpec where
  description : Option String := none
  workloads : List WorkloadReference := []
deriving DecidableEq, Inhabited

structure BindingStatus where
  instanceName : Option String := none
  state : InstanceState := .pending
  message : Option String := none
  lastReconciled : Option Timestamp := none
deriving DecidableEq, Inhabited

structure Binding where
  metadata : Kube.Metadata
  spec : BindingSpec
  status : Option BindingStatus := none
deriving Inhabited

namespace InstanceState

def name : InstanceState → String
  | .pending => "Pending"
  | .created => "Created"
  | .updated => "Updated"
  | .unchanged => "Unchanged"
  | .failed => "Failed"

def all : List InstanceState := [.pending, .created, .updated, .unchanged, .failed]

def ofName? (s : String) : Option InstanceState := all.find? (·.name = s)

/-- A name, or an object with the name as its one key and `null` under it. -/
def decode? : Json → Option InstanceState
  | .string s => ofName? s
  | .object [(s, .null)] => ofName? s
  | _ => none

def encode (s : InstanceState) : Json := .string s.name

end InstanceState

namespace BindingSpec

def fields : List (Slot Form) :=
  [.optional "description" string,
    .defaulted "workloads" (.list WorkloadReference.form)]

def form : Form := .record .plain "BindingSpec" fields

def decode? (j : Json) : Option BindingSpec := do
  let fields ← record? fields j
  return {
    description := ← optional? fields "description" string?
    workloads := ← defaulted? fields "workloads" (list? WorkloadReference.decode?) [] }

def encode (s : BindingSpec) : Json :=
  .object <| present "description" .string s.description ++
    [("workloads", .array (s.workloads.map WorkloadReference.encode))]

end BindingSpec

namespace BindingStatus

def fields : List (Slot Form) :=
  [.optional "instanceName" string, .defaulted "state" (.choice (InstanceState.all.map (·.name))),
    .optional "message" string, .optional "lastReconciled" Kube.timestamp]

def form : Form := .record .plain "BindingStatus" fields

def decode? (j : Json) : Option BindingStatus := do
  let fields ← record? fields j
  return {
    instanceName := ← optional? fields "instanceName" string?
    state := ← defaulted? fields "state" InstanceState.decode? .pending
    message := ← optional? fields "message" string?
    lastReconciled := ← optional? fields "lastReconciled" Kube.timestamp? }

def encode (s : BindingStatus) : Json :=
  .object <| present "instanceName" .string s.instanceName ++
    present "lastReconciled" (fun t => .string t.text) s.lastReconciled ++
    present "message" .string s.message ++ [("state", s.state.encode)]

end BindingStatus

namespace Binding

def fields : List (Slot Form) :=
  [.required "metadata" Kube.Metadata.form, .required "spec" BindingSpec.form,
    .listed "status" BindingStatus.form]

def decode? (j : Json) : Option Binding := do
  let fields ← record? fields j
  return {
    metadata := ← required? fields "metadata" Kube.Metadata.decode?
    spec := ← required? fields "spec" BindingSpec.decode?
    status := ← optional? fields "status" BindingStatus.decode? }

def encode (b : Binding) : Json :=
  .object <| [("apiVersion", .string (apiGroup ++ "/" ++ apiVersionName)),
    ("kind", .string "Binding"), ("metadata", b.metadata.encode), ("spec", b.spec.encode)] ++
    present "status" BindingStatus.encode b.status

instance : Kube.Resource Binding where
  kind := "Binding"
  group := apiGroup
  version := apiVersionName
  plural := "bindings"
  metadata := metadata
  withMetadata b m := { b with metadata := m }
  metadata_withMetadata _ _ := rfl
  encode := encode
  form := .record .plain "Binding" fields
  decode? := decode?

def name (b : Binding) : String := b.metadata.nameOrStem

def ns (b : Binding) : String := b.metadata.namespaceOrEmpty

end Binding

end MonitoringStack
