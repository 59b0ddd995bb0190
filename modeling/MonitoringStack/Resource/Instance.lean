import MonitoringStack.Kube.Object
import MonitoringStack.Resource.Names

namespace MonitoringStack

open Json (Slot Form)

open Wire

/-- Persistent storage that a part of a stack asks for. Claims are assigned by the platform and
never computed. -/
structure Storage where
  size : String := ""
  claims : List String := []
deriving DecidableEq, Inhabited

structure Resources where
  requestMemory : String := ""
deriving DecidableEq, Inhabited

structure Grafana where
  enabled : Bool := false
  storage : Storage := {}
  dashboardsConfigMap : String := ""
  resources : Resources := {}
deriving DecidableEq, Inhabited

structure Prometheus where
  enabled : Bool := false
  storage : Storage := {}
  resources : Resources := {}
deriving DecidableEq, Inhabited

structure ElasticsearchNode where
  replicas : Int32 := 0
  resources : Resources := {}
deriving DecidableEq, Inhabited

structure Elasticsearch where
  enabled : Bool := false
  storage : Storage := {}
  ingestNode : ElasticsearchNode := {}
  masterNode : ElasticsearchNode := {}
  dataNode : ElasticsearchNode := {}
deriving DecidableEq, Inhabited

structure Kibana where
  enabled : Bool := false
  resources : Resources := {}
deriving DecidableEq, Inhabited

/-- What one monitoring stack is made of. In a desired spec an empty value is no preference. -/
structure InstanceSpec where
  uri : String := ""
  autoSecret : Bool := false
  secretsName : String := ""
  cascadingDelete : Bool := false
  grafana : Grafana := {}
  prometheus : Prometheus := {}
  elasticsearch : Elasticsearch := {}
  kibana : Kibana := {}
  ingressTargetDnsName : String := ""
  serviceType : String := ""
deriving DecidableEq, Inhabited

structure MonitoringInstance where
  metadata : Kube.Metadata
  spec : InstanceSpec
deriving Inhabited

namespace Storage

def fields : List (Slot Form) := [.defaulted "size" string, .defaulted "pvcNames" (.list string)]

def form : Form := .record .plain "Storage" fields

def decode? (j : Json) : Option Storage := do
  let fields ← record? fields j
  return {
    size := ← defaulted? fields "size" string? ""
    claims := ← defaulted? fields "pvcNames" (list? string?) [] }

def encode (s : Storage) : Json :=
  .object [("pvcNames", strings s.claims), ("size", .string s.size)]

end Storage

namespace Resources

def fields : List (Slot Form) := [.defaulted "requestMemory" string]

def form : Form := .record .plain "Resources" fields

def decode? (j : Json) : Option Resources := do
  let fields ← record? fields j
  return { requestMemory := ← defaulted? fields "requestMemory" string? "" }

def encode (r : Resources) : Json :=
  .object [("requestMemory", .string r.requestMemory)]

end Resources

namespace Grafana

def fields : List (Slot Form) :=
  [.defaulted "enabled" bool, .defaulted "storage" Storage.form,
    .defaulted "dashboardsConfigMap" string,
    .defaulted "resources" Resources.form]

def form : Form := .record .plain "Grafana" fields

def decode? (j : Json) : Option Grafana := do
  let fields ← record? fields j
  return {
    enabled := ← defaulted? fields "enabled" bool? false
    storage := ← defaulted? fields "storage" Storage.decode? {}
    dashboardsConfigMap := ← defaulted? fields "dashboardsConfigMap" string? ""
    resources := ← defaulted? fields "resources" Resources.decode? {} }

def encode (g : Grafana) : Json :=
  .object [("dashboardsConfigMap", .string g.dashboardsConfigMap), ("enabled", .bool g.enabled),
    ("resources", g.resources.encode), ("storage", g.storage.encode)]

end Grafana

namespace Prometheus

def fields : List (Slot Form) :=
  [.defaulted "enabled" bool, .defaulted "storage" Storage.form,
    .defaulted "resources" Resources.form]

def form : Form := .record .plain "Prometheus" fields

def decode? (j : Json) : Option Prometheus := do
  let fields ← record? fields j
  return {
    enabled := ← defaulted? fields "enabled" bool? false
    storage := ← defaulted? fields "storage" Storage.decode? {}
    resources := ← defaulted? fields "resources" Resources.decode? {} }

def encode (p : Prometheus) : Json :=
  .object [("enabled", .bool p.enabled), ("resources", p.resources.encode),
    ("storage", p.storage.encode)]

end Prometheus

namespace ElasticsearchNode

def fields : List (Slot Form) :=
  [.defaulted "replicas" (integer "i32" int32?), .defaulted "resources" Resources.form]

def form : Form := .record .plain "ElasticsearchNode" fields

def decode? (j : Json) : Option ElasticsearchNode := do
  let fields ← record? fields j
  return {
    replicas := ← defaulted? fields "replicas" int32? 0
    resources := ← defaulted? fields "resources" Resources.decode? {} }

def encode (n : ElasticsearchNode) : Json :=
  .object [("replicas", .int n.replicas.toInt), ("resources", n.resources.encode)]

end ElasticsearchNode

namespace Elasticsearch

def fields : List (Slot Form) :=
  [.defaulted "enabled" bool, .defaulted "storage" Storage.form,
    .defaulted "ingestNode" ElasticsearchNode.form, .defaulted "masterNode" ElasticsearchNode.form,
    .defaulted "dataNode" ElasticsearchNode.form]

def form : Form := .record .plain "Elasticsearch" fields

def decode? (j : Json) : Option Elasticsearch := do
  let fields ← record? fields j
  return {
    enabled := ← defaulted? fields "enabled" bool? false
    storage := ← defaulted? fields "storage" Storage.decode? {}
    ingestNode := ← defaulted? fields "ingestNode" ElasticsearchNode.decode? {}
    masterNode := ← defaulted? fields "masterNode" ElasticsearchNode.decode? {}
    dataNode := ← defaulted? fields "dataNode" ElasticsearchNode.decode? {} }

def encode (e : Elasticsearch) : Json :=
  .object [("dataNode", e.dataNode.encode), ("enabled", .bool e.enabled),
    ("ingestNode", e.ingestNode.encode), ("masterNode", e.masterNode.encode),
    ("storage", e.storage.encode)]

end Elasticsearch

namespace Kibana

def fields : List (Slot Form) :=
  [.defaulted "enabled" bool, .defaulted "resources" Resources.form]

def form : Form := .record .plain "Kibana" fields

def decode? (j : Json) : Option Kibana := do
  let fields ← record? fields j
  return {
    enabled := ← defaulted? fields "enabled" bool? false
    resources := ← defaulted? fields "resources" Resources.decode? {} }

def encode (k : Kibana) : Json :=
  .object [("enabled", .bool k.enabled), ("resources", k.resources.encode)]

end Kibana

namespace InstanceSpec

def fields : List (Slot Form) :=
  [.defaulted "uri" string, .defaulted "autoSecret" bool, .defaulted "secretsName" string,
    .defaulted "cascadingDelete" bool, .defaulted "grafana" Grafana.form,
    .defaulted "prometheus" Prometheus.form,
    .defaulted "elasticsearch" Elasticsearch.form,
    .defaulted "kibana" Kibana.form,
    .defaulted "ingressTargetDnsName" string, .defaulted "serviceType" string]

def form : Form := .record .plain "MonitoringInstanceSpec" fields

def decode? (j : Json) : Option InstanceSpec := do
  let fields ← record? fields j
  return {
    uri := ← defaulted? fields "uri" string? ""
    autoSecret := ← defaulted? fields "autoSecret" bool? false
    secretsName := ← defaulted? fields "secretsName" string? ""
    cascadingDelete := ← defaulted? fields "cascadingDelete" bool? false
    grafana := ← defaulted? fields "grafana" Grafana.decode? {}
    prometheus := ← defaulted? fields "prometheus" Prometheus.decode? {}
    elasticsearch := ← defaulted? fields "elasticsearch" Elasticsearch.decode? {}
    kibana := ← defaulted? fields "kibana" Kibana.decode? {}
    ingressTargetDnsName := ← defaulted? fields "ingressTargetDnsName" string? ""
    serviceType := ← defaulted? fields "serviceType" string? "" }

def encode (s : InstanceSpec) : Json :=
  .object [("autoSecret", .bool s.autoSecret), ("cascadingDelete", .bool s.cascadingDelete),
    ("elasticsearch", s.elasticsearch.encode), ("grafana", s.grafana.encode),
    ("ingressTargetDnsName", .string s.ingressTargetDnsName), ("kibana", s.kibana.encode),
    ("prometheus", s.prometheus.encode), ("secretsName", .string s.secretsName),
    ("serviceType", .string s.serviceType), ("uri", .string s.uri)]

def withClaimsOf (s existing : InstanceSpec) : InstanceSpec :=
  { s with
    grafana.storage.claims := existing.grafana.storage.claims
    prometheus.storage.claims := existing.prometheus.storage.claims
    elasticsearch.storage.claims := existing.elasticsearch.storage.claims }

end InstanceSpec

namespace MonitoringInstance

def fields : List (Slot Form) :=
  [.required "metadata" Kube.Metadata.form, .required "spec" InstanceSpec.form]

def decode? (j : Json) : Option MonitoringInstance := do
  let fields ← record? fields j
  return {
    metadata := ← required? fields "metadata" Kube.Metadata.decode?
    spec := ← required? fields "spec" InstanceSpec.decode? }

def encode (i : MonitoringInstance) : Json :=
  .object [("apiVersion", .string (apiGroup ++ "/" ++ apiVersionName)),
    ("kind", .string "MonitoringInstance"), ("metadata", i.metadata.encode),
    ("spec", i.spec.encode)]

instance : Kube.Resource MonitoringInstance where
  kind := "MonitoringInstance"
  group := apiGroup
  version := apiVersionName
  plural := "monitoringinstances"
  metadata := metadata
  withMetadata i m := { i with metadata := m }
  metadata_withMetadata _ _ := rfl
  encode := encode
  form := .record .plain "MonitoringInstance" fields
  decode? := decode?

end MonitoringInstance

end MonitoringStack
