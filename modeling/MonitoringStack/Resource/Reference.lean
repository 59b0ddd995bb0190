import MonitoringStack.Wire.Record

namespace MonitoringStack

open Json (Slot Form)

open Wire

/-- A workload that a binding monitors; without a namespace it is in the binding's own. -/
structure WorkloadReference where
  apiGroup : String := ""
  kind : String
  name : String
  ns? : Option String := none
deriving DecidableEq

namespace WorkloadReference

def fields : List (Slot Form) :=
  [.defaulted "apiGroup" string, .required "kind" string, .required "name" string,
    .optional "namespace" string]

def form : Form := .record .plain "WorkloadReference" fields

def decode? (j : Json) : Option WorkloadReference := do
  let fields ← record? fields j
  return {
    apiGroup := ← defaulted? fields "apiGroup" string? ""
    kind := ← required? fields "kind" string?
    name := ← required? fields "name" string?
    ns? := ← optional? fields "namespace" string? }

def encode (r : WorkloadReference) : Json :=
  .object <| [("apiGroup", .string r.apiGroup), ("kind", .string r.kind),
    ("name", .string r.name)] ++ present "namespace" .string r.ns?

end WorkloadReference

structure SecretReference where
  name : String
  ns : String
deriving DecidableEq

namespace SecretReference

def isUnset (r : SecretReference) : Bool := r.name = ""

def text (r : SecretReference) : String := r.ns ++ "/" ++ r.name

def fields : List (Slot Form) := [.required "name" string, .required "namespace" string]

def decode? (j : Json) : Option SecretReference := do
  let fields ← record? fields j
  return {
    name := ← required? fields "name" string?
    ns := ← required? fields "namespace" string? }

def encode (r : SecretReference) : Json :=
  .object [("name", .string r.name), ("namespace", .string r.ns)]

end SecretReference

end MonitoringStack
