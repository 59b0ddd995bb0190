import MonitoringStack.Proofs.Json.Overlay
import MonitoringStack.Proofs.Resource.RoundTrip

namespace MonitoringStack

open Json Wire

def prefer {α : Type} [DecidableEq α] (empty desired existing : α) : α :=
  if desired = empty then existing else desired

theorem prefer_self {α : Type} [DecidableEq α] {empty desired : α} :
    prefer empty desired desired = desired := by
  simp [prefer]

theorem prefer_prefer {α : Type} [DecidableEq α] {empty desired existing : α} :
    prefer empty desired (prefer empty desired existing) = prefer empty desired existing := by
  by_cases h : desired = empty <;> simp [prefer, h]

def Storage.laidOver (desired existing : Storage) : Storage where
  size := prefer "" desired.size existing.size
  claims := existing.claims

def Resources.laidOver (desired existing : Resources) : Resources where
  requestMemory := prefer "" desired.requestMemory existing.requestMemory

def Grafana.laidOver (desired existing : Grafana) : Grafana where
  enabled := prefer false desired.enabled existing.enabled
  storage := desired.storage.laidOver existing.storage
  dashboardsConfigMap := prefer "" desired.dashboardsConfigMap existing.dashboardsConfigMap
  resources := desired.resources.laidOver existing.resources

def Prometheus.laidOver (desired existing : Prometheus) : Prometheus where
  enabled := prefer false desired.enabled existing.enabled
  storage := desired.storage.laidOver existing.storage
  resources := desired.resources.laidOver existing.resources

def ElasticsearchNode.laidOver (desired existing : ElasticsearchNode) : ElasticsearchNode where
  replicas := prefer 0 desired.replicas existing.replicas
  resources := desired.resources.laidOver existing.resources

def Elasticsearch.laidOver (desired existing : Elasticsearch) : Elasticsearch where
  enabled := prefer false desired.enabled existing.enabled
  storage := desired.storage.laidOver existing.storage
  ingestNode := desired.ingestNode.laidOver existing.ingestNode
  masterNode := desired.masterNode.laidOver existing.masterNode
  dataNode := desired.dataNode.laidOver existing.dataNode

def Kibana.laidOver (desired existing : Kibana) : Kibana where
  enabled := prefer false desired.enabled existing.enabled
  resources := desired.resources.laidOver existing.resources

/-- The existing spec with every non-empty field of the desired one in place of its own, storage
claims apart. -/
def InstanceSpec.laidOver (desired existing : InstanceSpec) : InstanceSpec where
  uri := prefer "" desired.uri existing.uri
  autoSecret := prefer false desired.autoSecret existing.autoSecret
  secretsName := prefer "" desired.secretsName existing.secretsName
  cascadingDelete := prefer false desired.cascadingDelete existing.cascadingDelete
  grafana := desired.grafana.laidOver existing.grafana
  prometheus := desired.prometheus.laidOver existing.prometheus
  elasticsearch := desired.elasticsearch.laidOver existing.elasticsearch
  kibana := desired.kibana.laidOver existing.kibana
  ingressTargetDnsName := prefer "" desired.ingressTargetDnsName existing.ingressTargetDnsName
  serviceType := prefer "" desired.serviceType existing.serviceType

namespace InstanceSpec

theorem laidOver_self (desired : InstanceSpec) : desired.laidOver desired = desired := by
  simp [laidOver, Grafana.laidOver, Prometheus.laidOver, Elasticsearch.laidOver,
    ElasticsearchNode.laidOver, Kibana.laidOver, Resources.laidOver, Storage.laidOver, prefer_self]

theorem laidOver_laidOver (desired existing : InstanceSpec) :
    desired.laidOver (desired.laidOver existing) = desired.laidOver existing := by
  simp [laidOver, Grafana.laidOver, Prometheus.laidOver, Elasticsearch.laidOver,
    ElasticsearchNode.laidOver, Kibana.laidOver, Resources.laidOver, Storage.laidOver,
    prefer_prefer]

end InstanceSpec

namespace Json.Laid

theorem string (existing desired : String) :
    Laid (.string existing) (.string desired) (.string (prefer "" desired existing)) := by
  have h : Laid (.string existing) (.string desired) _ := leaf (by simp) (by simp [same])
  simpa [isEmpty, prefer, apply_ite Json.string] using h

theorem bool (existing desired : Bool) :
    Laid (.bool existing) (.bool desired) (.bool (prefer false desired existing)) := by
  have h : Laid (.bool existing) (.bool desired) _ := leaf (by simp) (by simp [same])
  simpa [isEmpty, prefer, apply_ite Json.bool] using h

theorem int32 (existing desired : Int32) :
    Laid (.int existing.toInt) (.int desired.toInt) (.int (prefer 0 desired existing).toInt) := by
  have h : Laid (.int existing.toInt) (.int desired.toInt) _ :=
    leaf (by simp [int]) (by simp [same, int, Number.same])
  have hzero : desired.toInt = 0 ↔ desired = 0 := by rw [← Int32.toInt_inj, Int32.toInt_zero]
  by_cases hd : desired = 0
  · simpa [isEmpty, int, Number.isZero, prefer, hd] using h
  · simpa [isEmpty, int, Number.isZero, prefer, hzero, hd] using h

theorem same_strings (xs ys : List String) :
    sameItems (xs.map .string) (ys.map .string) = true ↔ xs = ys := by
  induction xs generalizing ys with
  | nil => cases ys <;> simp [sameItems]
  | cons x xs ih => cases ys <;> simp [sameItems, same, ih]

theorem strings (xs : List String) : Laid (strings xs) (strings xs) (strings xs) := by
  have h : Laid (Wire.strings xs) (Wire.strings xs) _ :=
    leaf (by simp [Wire.strings]) (by simp [Wire.strings, same, same_strings])
  simpa using h

end Json.Laid

open LaidFields

theorem Storage.laid (desired existing : Storage) :
    Laid existing.encode { desired with claims := existing.claims }.encode
      (desired.laidOver existing).encode := by
  refine .object ["pvcNames", "size"] ?_ rfl (by decide)
  exact .cons (.strings _) <| .cons (.string _ _) .nil

theorem Resources.laid (desired existing : Resources) :
    Laid existing.encode desired.encode (desired.laidOver existing).encode := by
  refine .object ["requestMemory"] ?_ rfl (by decide)
  exact .cons (.string _ _) .nil

theorem Grafana.laid (desired existing : Grafana) :
    Laid existing.encode { desired with storage.claims := existing.storage.claims }.encode
      (desired.laidOver existing).encode := by
  refine .object ["dashboardsConfigMap", "enabled", "resources", "storage"] ?_ rfl (by decide)
  exact .cons (.string _ _) <| .cons (.bool _ _) <| .cons (Resources.laid _ _) <|
    .cons (Storage.laid _ _) .nil

theorem Prometheus.laid (desired existing : Prometheus) :
    Laid existing.encode { desired with storage.claims := existing.storage.claims }.encode
      (desired.laidOver existing).encode := by
  refine .object ["enabled", "resources", "storage"] ?_ rfl (by decide)
  exact .cons (.bool _ _) <| .cons (Resources.laid _ _) <| .cons (Storage.laid _ _) .nil

theorem ElasticsearchNode.laid (desired existing : ElasticsearchNode) :
    Laid existing.encode desired.encode (desired.laidOver existing).encode := by
  refine .object ["replicas", "resources"] ?_ rfl (by decide)
  exact .cons (.int32 _ _) <| .cons (Resources.laid _ _) .nil

theorem Elasticsearch.laid (desired existing : Elasticsearch) :
    Laid existing.encode { desired with storage.claims := existing.storage.claims }.encode
      (desired.laidOver existing).encode := by
  refine .object ["dataNode", "enabled", "ingestNode", "masterNode", "storage"] ?_ rfl (by decide)
  exact .cons (ElasticsearchNode.laid _ _) <| .cons (.bool _ _) <|
    .cons (ElasticsearchNode.laid _ _) <| .cons (ElasticsearchNode.laid _ _) <|
    .cons (Storage.laid _ _) .nil

theorem Kibana.laid (desired existing : Kibana) :
    Laid existing.encode desired.encode (desired.laidOver existing).encode := by
  refine .object ["enabled", "resources"] ?_ rfl (by decide)
  exact .cons (.bool _ _) <| .cons (Resources.laid _ _) .nil

theorem InstanceSpec.laid (desired existing : InstanceSpec) :
    Laid existing.encode (desired.withClaimsOf existing).encode
      (desired.laidOver existing).encode := by
  refine .object ["autoSecret", "cascadingDelete", "elasticsearch", "grafana",
    "ingressTargetDnsName", "kibana", "prometheus", "secretsName", "serviceType", "uri"]
    ?_ rfl (by decide)
  exact .cons (.bool _ _) <| .cons (.bool _ _) <| .cons (Elasticsearch.laid _ _) <|
    .cons (Grafana.laid _ _) <| .cons (.string _ _) <| .cons (Kibana.laid _ _) <|
    .cons (Prometheus.laid _ _) <| .cons (.string _ _) <| .cons (.string _ _) <|
    .cons (.string _ _) .nil

end MonitoringStack
