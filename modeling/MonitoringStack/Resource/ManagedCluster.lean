import MonitoringStack.Kube.Object
import MonitoringStack.Resource.Names
import MonitoringStack.Resource.Reference

namespace MonitoringStack

open Json (Slot Form)

open Wire

structure ManagedClusterSpec where
  description : Option String := none
  prometheusSecret : String := ""
  serviceAccount : Option String := none
deriving DecidableEq, Inhabited

structure ManagedCluster where
  metadata : Kube.Metadata
  spec : ManagedClusterSpec
deriving Inhabited

namespace ManagedClusterSpec

def fields : List (Slot Form) :=
  [.optional "description" string, .defaulted "prometheusSecret" string,
    .optional "serviceAccount" string]

def form : Form := .record .plain "ManagedClusterSpec" fields

def decode? (j : Json) : Option ManagedClusterSpec := do
  let fields ← record? fields j
  return {
    description := ← optional? fields "description" string?
    prometheusSecret := ← defaulted? fields "prometheusSecret" string? ""
    serviceAccount := ← optional? fields "serviceAccount" string? }

def encode (s : ManagedClusterSpec) : Json :=
  .object <| present "description" .string s.description ++
    [("prometheusSecret", .string s.prometheusSecret)] ++
    present "serviceAccount" .string s.serviceAccount

end ManagedClusterSpec

namespace ManagedCluster

def fields : List (Slot Form) :=
  [.required "metadata" Kube.Metadata.form, .required "spec" ManagedClusterSpec.form]

def decode? (j : Json) : Option ManagedCluster := do
  let fields ← record? fields j
  return {
    metadata := ← required? fields "metadata" Kube.Metadata.decode?
    spec := ← required? fields "spec" ManagedClusterSpec.decode? }

def encode (c : ManagedCluster) : Json :=
  .object [("apiVersion", .string (apiGroup ++ "/" ++ apiVersionName)),
    ("kind", .string "ManagedCluster"), ("metadata", c.metadata.encode),
    ("spec", c.spec.encode)]

instance : Kube.Resource ManagedCluster where
  kind := "ManagedCluster"
  group := apiGroup
  version := apiVersionName
  plural := "managedclusters"
  metadata := metadata
  withMetadata c m := { c with metadata := m }
  metadata_withMetadata _ _ := rfl
  encode := encode
  form := .record .plain "ManagedCluster" fields
  decode? := decode?

/-- The secret that the cluster needs, wherever the cluster's own object is kept. -/
def prometheusSecretRef (c : ManagedCluster) : SecretReference :=
  ⟨c.spec.prometheusSecret, multiClusterNamespace⟩

end ManagedCluster

end MonitoringStack
