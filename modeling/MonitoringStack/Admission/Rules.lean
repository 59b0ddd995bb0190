import MonitoringStack.Admission.Error
import MonitoringStack.Kube.Core
import MonitoringStack.Resource.ManagedCluster
import MonitoringStack.Store.Interface

namespace MonitoringStack.Admission

open Kube

variable {m : Type → Type} [Monad m] (secrets : ResourceStore m Secret)

/-- A secret must be named and must be there; `kind` tells the user what it is for. -/
def requireSecret (kind : String) (reference : SecretReference) :
    m (Except AdmissionError Unit) := do
  if reference.isUnset then
    return .error <| .validation <|
      "the name of the " ++ kind ++ " secret in namespace " ++ reference.ns ++
        " must be specified"
  else
    match ← secrets.find ⟨reference.ns, reference.name⟩ with
    | .error e => return .error (.store e)
    | .ok (some _) => return .ok ()
    | .ok none =>
      return .error <| .validation <|
        "the " ++ kind ++ " secret " ++ reference.name ++ " does not exist in namespace " ++
          reference.ns

def allowCreate (cluster : ManagedCluster) : m (Except AdmissionError Unit) :=
  requireSecret secrets "Prometheus" cluster.prometheusSecretRef

def allowUpdate (_old : Option ManagedCluster) (cluster : ManagedCluster) :
    m (Except AdmissionError Unit) :=
  allowCreate secrets cluster

def allowDelete (_cluster : ManagedCluster) : m (Except AdmissionError Unit) :=
  return .ok ()

end MonitoringStack.Admission
