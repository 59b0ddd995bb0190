import MonitoringStack.Definition.Basic
import MonitoringStack.Resource.Binding
import MonitoringStack.Resource.Instance
import MonitoringStack.Resource.ManagedCluster
import MonitoringStack.Yaml.Printer

namespace MonitoringStack

open Kube

def WorkloadReference.schema : Schema :=
  .record [
    ("apiGroup", .optionalText "API group of the referenced workload (\"\" for the core group)"),
    ("kind", .string (.described
      "Kind of the referenced workload (e.g., \"Deployment\", \"StatefulSet\")")),
    ("name", .string (.described "Name of the referenced workload")),
    ("namespace", .string (.absentable
      "Namespace of the referenced workload (defaults to same namespace as the binding)"))]
    ["kind", "name"] <| .described <| "\n".intercalate [
      "Reference to a workload targeted by a `Binding`",
      "",
      "This follows the Kubernetes `TypedLocalObjectReference` pattern, which includes:",
      "- `apiGroup`: The API group of the referenced workload (e.g., \"apps\")",
      "- `kind`: The kind of the referenced workload (e.g., \"Deployment\")",
      "- `name`: The name of the referenced workload (required)",
      "- `namespace`: The namespace of the workload (optional, defaults to the binding namespace)"]

def InstanceState.schema : Schema :=
  .choice (InstanceState.all.map InstanceState.name)
    (.defaultingTo InstanceState.pending.encode "Outcome of the last reconciliation")

namespace Binding

def specSchema : Schema :=
  .record [
    ("description", .string (.absentable "Free-form description")),
    ("workloads", .list WorkloadReference.schema
      (.defaultingTo (.array []) "Workloads monitored through this binding"))] [] {}

def statusSchema : Schema :=
  .record [
    ("instanceName", .string (.absentable "Name of the managed `MonitoringInstance`")),
    ("lastReconciled", .timestamp (.absentable "Timestamp of the last state change")),
    ("message", .string (.absentable
      "Error or informational message from the last reconciliation")),
    ("state", InstanceState.schema)] [] { nullable := true }

end Binding

section Instance

def Resources.schema : Schema :=
  .record [("requestMemory", .optionalText "Memory request (e.g., \"48Mi\")")] []
    (.defaulting ({} : Resources).encode)

def Storage.schema : Schema :=
  .record [
    ("pvcNames", .list (.string {})
      (.defaultingTo (.array []) "Persistent volume claims assigned by the platform")),
    ("size", .optionalText "Requested size (e.g., \"50Gi\"); empty means ephemeral storage")] []
    (.defaultingTo ({} : Storage).encode "Persistent storage request of a subcomponent")

def Grafana.schema : Schema :=
  .record [
    ("dashboardsConfigMap", .optionalText "ConfigMap holding provisioned dashboards"),
    ("enabled", .flag {}),
    ("resources", Resources.schema),
    ("storage", Storage.schema)] [] (.defaulting ({} : Grafana).encode)

def Prometheus.schema : Schema :=
  .record [("enabled", .flag {}), ("resources", Resources.schema), ("storage", Storage.schema)] []
    (.defaulting ({} : Prometheus).encode)

def ElasticsearchNode.schema : Schema :=
  .record [("replicas", .int32 (.defaulting (.int 0))), ("resources", Resources.schema)] []
    (.defaulting ({} : ElasticsearchNode).encode)

def Elasticsearch.schema : Schema :=
  .record [
    ("dataNode", ElasticsearchNode.schema),
    ("enabled", .flag {}),
    ("ingestNode", ElasticsearchNode.schema),
    ("masterNode", ElasticsearchNode.schema),
    ("storage", Storage.schema)] [] (.defaulting ({} : Elasticsearch).encode)

def Kibana.schema : Schema :=
  .record [("enabled", .flag {}), ("resources", Resources.schema)] []
    (.defaulting ({} : Kibana).encode)

def InstanceSpec.schema : Schema :=
  .record [
    ("autoSecret", .flag (.described "Generate instance credentials automatically")),
    ("cascadingDelete", .flag (.described
      "Delete dependent resources together with the instance")),
    ("elasticsearch", Elasticsearch.schema),
    ("grafana", Grafana.schema),
    ("ingressTargetDnsName", .optionalText
      "DNS name of the ingress the instance endpoints route through"),
    ("kibana", Kibana.schema),
    ("prometheus", Prometheus.schema),
    ("secretsName", .optionalText "Secret holding instance credentials"),
    ("serviceType", .optionalText "Kubernetes service type used to expose the instance"),
    ("uri", .optionalText "Base DNS name the instance endpoints are served under")] [] {}

end Instance

def ManagedClusterSpec.schema : Schema :=
  .record [
    ("description", .string (.absentable "Free-form description")),
    ("prometheusSecret", .optionalText
      "Name of the secret in the multi-cluster namespace holding Prometheus scrape credentials"),
    ("serviceAccount", .string (.absentable
      "Service account used by the managed cluster agent"))] [] {}

namespace Definition

def ofResource (α : Type) [Resource α] (columns : List Column) (spec : Schema)
    (status : Option Schema) : Definition where
  kind := Resource.kind α
  group := Resource.group α
  version := Resource.version α
  plural := Resource.plural α
  columns := columns
  spec := spec
  status := status

def binding : Definition :=
  ofResource Binding [⟨"Instance", ".status.instanceName"⟩, ⟨"State", ".status.state"⟩]
    Binding.specSchema (some Binding.statusSchema)

def monitoringInstance : Definition :=
  ofResource MonitoringInstance [⟨"URI", ".spec.uri"⟩] InstanceSpec.schema none

def managedCluster : Definition :=
  ofResource ManagedCluster [] ManagedClusterSpec.schema none

def all : List Definition := [binding, monitoringInstance, managedCluster]

def ofKind? (kind : String) : Option Definition := all.find? (·.kind = kind)

def manifests : String := String.join (all.map fun d => Yaml.document d.encode)

end Definition

end MonitoringStack
