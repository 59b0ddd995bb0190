import MonitoringStack.Operator.Error
import MonitoringStack.Resource.Binding
import MonitoringStack.Resource.Instance
import MonitoringStack.Text.Blank

namespace MonitoringStack

structure NodeSettings where
  replicas : Int32 := 0
  requestMemory : String := ""
deriving DecidableEq, Inhabited

structure InstanceSettings where
  platformUri : String := ""
  storageEnabled : Bool := false
  grafanaStorageSize : String := ""
  prometheusStorageSize : String := ""
  elasticsearchStorageSize : String := ""
  grafanaRequestMemory : String := ""
  prometheusRequestMemory : String := ""
  kibanaRequestMemory : String := ""
  esIngestNode : NodeSettings := {}
  esMasterNode : NodeSettings := {}
  esDataNode : NodeSettings := {}
deriving DecidableEq, Inhabited

abbrev SpecBuilder := Binding → Except OperatorError InstanceSpec

namespace InstanceSettings

/-- Storage of a size, as far as storage is enabled; claims are the platform's to make. -/
def storage (s : InstanceSettings) (size : String) : Storage :=
  { size := if s.storageEnabled then size else "", claims := [] }

def node (n : NodeSettings) : ElasticsearchNode :=
  { replicas := n.replicas, resources := ⟨n.requestMemory⟩ }

def specBelow (s : InstanceSettings) (platform name : String) : InstanceSpec where
  uri := "monitoring." ++ name ++ "." ++ platform
  autoSecret := true
  secretsName := instanceSecretsName
  cascadingDelete := true
  grafana := {
    enabled := true
    storage := s.storage s.grafanaStorageSize
    dashboardsConfigMap := name ++ "-dashboards"
    resources := ⟨s.grafanaRequestMemory⟩ }
  prometheus := {
    enabled := true
    storage := s.storage s.prometheusStorageSize
    resources := ⟨s.prometheusRequestMemory⟩ }
  elasticsearch := {
    enabled := true
    storage := s.storage s.elasticsearchStorageSize
    ingestNode := node s.esIngestNode
    masterNode := node s.esMasterNode
    dataNode := node s.esDataNode }
  kibana := { enabled := true, resources := ⟨s.kibanaRequestMemory⟩ }
  ingressTargetDnsName := "ingress." ++ platform
  serviceType := instanceServiceType

def specBuilder (s : InstanceSettings) : SpecBuilder := fun binding =>
  let platform := Text.trim s.platformUri
  if platform = "" then .error (.invalidInput "URI must not be empty")
  else .ok (s.specBelow platform binding.name)

end InstanceSettings

end MonitoringStack
