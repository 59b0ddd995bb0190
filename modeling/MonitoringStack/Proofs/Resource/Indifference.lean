import MonitoringStack.Proofs.Resource.Merge

namespace MonitoringStack

section Field

variable {α : Type} [DecidableEq α] {empty desired before after : α}

def Indifferent (empty desired before after : α) : Prop := desired ≠ empty → after = before

theorem prefer_of_indifferent (h : prefer empty desired before = before)
    (hi : Indifferent empty desired before after) : prefer empty desired after = after := by
  by_cases hd : desired = empty
  · simp [prefer, hd]
  · rw [hi hd]
    exact h

end Field

/-- Storage changes of no concern to the desired storage; claims may change at any rate. -/
structure Storage.IndifferentTo (desired before after : Storage) : Prop where
  size : Indifferent "" desired.size before.size after.size

structure Resources.IndifferentTo (desired before after : Resources) : Prop where
  requestMemory :
    Indifferent "" desired.requestMemory before.requestMemory after.requestMemory

structure Grafana.IndifferentTo (desired before after : Grafana) : Prop where
  enabled : Indifferent false desired.enabled before.enabled after.enabled
  storage : desired.storage.IndifferentTo before.storage after.storage
  dashboardsConfigMap :
    Indifferent "" desired.dashboardsConfigMap before.dashboardsConfigMap after.dashboardsConfigMap
  resources : desired.resources.IndifferentTo before.resources after.resources

structure Prometheus.IndifferentTo (desired before after : Prometheus) : Prop where
  enabled : Indifferent false desired.enabled before.enabled after.enabled
  storage : desired.storage.IndifferentTo before.storage after.storage
  resources : desired.resources.IndifferentTo before.resources after.resources

structure ElasticsearchNode.IndifferentTo (desired before after : ElasticsearchNode) : Prop where
  replicas : Indifferent 0 desired.replicas before.replicas after.replicas
  resources : desired.resources.IndifferentTo before.resources after.resources

structure Elasticsearch.IndifferentTo (desired before after : Elasticsearch) : Prop where
  enabled : Indifferent false desired.enabled before.enabled after.enabled
  storage : desired.storage.IndifferentTo before.storage after.storage
  ingestNode : desired.ingestNode.IndifferentTo before.ingestNode after.ingestNode
  masterNode : desired.masterNode.IndifferentTo before.masterNode after.masterNode
  dataNode : desired.dataNode.IndifferentTo before.dataNode after.dataNode

structure Kibana.IndifferentTo (desired before after : Kibana) : Prop where
  enabled : Indifferent false desired.enabled before.enabled after.enabled
  resources : desired.resources.IndifferentTo before.resources after.resources

/-- The change from one spec to another touches claims and fields that the desired spec leaves empty,
and nothing else. -/
structure InstanceSpec.IndifferentTo (desired before after : InstanceSpec) : Prop where
  uri : Indifferent "" desired.uri before.uri after.uri
  autoSecret : Indifferent false desired.autoSecret before.autoSecret after.autoSecret
  secretsName : Indifferent "" desired.secretsName before.secretsName after.secretsName
  cascadingDelete :
    Indifferent false desired.cascadingDelete before.cascadingDelete after.cascadingDelete
  grafana : desired.grafana.IndifferentTo before.grafana after.grafana
  prometheus : desired.prometheus.IndifferentTo before.prometheus after.prometheus
  elasticsearch : desired.elasticsearch.IndifferentTo before.elasticsearch after.elasticsearch
  kibana : desired.kibana.IndifferentTo before.kibana after.kibana
  ingressTargetDnsName : Indifferent "" desired.ingressTargetDnsName before.ingressTargetDnsName
    after.ingressTargetDnsName
  serviceType : Indifferent "" desired.serviceType before.serviceType after.serviceType

theorem Storage.laidOver_of_indifferent {desired before after : Storage}
    (h : desired.laidOver before = before) (hi : desired.IndifferentTo before after) :
    desired.laidOver after = after := by
  have hsize := prefer_of_indifferent (congrArg Storage.size h) hi.size
  rw [laidOver, hsize]

theorem Resources.laidOver_of_indifferent {desired before after : Resources}
    (h : desired.laidOver before = before) (hi : desired.IndifferentTo before after) :
    desired.laidOver after = after := by
  have hmemory := prefer_of_indifferent (congrArg Resources.requestMemory h) hi.requestMemory
  rw [laidOver, hmemory]

theorem Grafana.laidOver_of_indifferent {desired before after : Grafana}
    (h : desired.laidOver before = before) (hi : desired.IndifferentTo before after) :
    desired.laidOver after = after := by
  have henabled := prefer_of_indifferent (congrArg Grafana.enabled h) hi.enabled
  have hstorage := Storage.laidOver_of_indifferent (congrArg Grafana.storage h) hi.storage
  have hdashboards :=
    prefer_of_indifferent (congrArg Grafana.dashboardsConfigMap h) hi.dashboardsConfigMap
  have hresources := Resources.laidOver_of_indifferent (congrArg Grafana.resources h) hi.resources
  rw [laidOver, henabled, hstorage, hdashboards, hresources]

theorem Prometheus.laidOver_of_indifferent {desired before after : Prometheus}
    (h : desired.laidOver before = before) (hi : desired.IndifferentTo before after) :
    desired.laidOver after = after := by
  have henabled := prefer_of_indifferent (congrArg Prometheus.enabled h) hi.enabled
  have hstorage := Storage.laidOver_of_indifferent (congrArg Prometheus.storage h) hi.storage
  have hresources :=
    Resources.laidOver_of_indifferent (congrArg Prometheus.resources h) hi.resources
  rw [laidOver, henabled, hstorage, hresources]

theorem ElasticsearchNode.laidOver_of_indifferent {desired before after : ElasticsearchNode}
    (h : desired.laidOver before = before) (hi : desired.IndifferentTo before after) :
    desired.laidOver after = after := by
  have hreplicas := prefer_of_indifferent (congrArg ElasticsearchNode.replicas h) hi.replicas
  have hresources :=
    Resources.laidOver_of_indifferent (congrArg ElasticsearchNode.resources h) hi.resources
  rw [laidOver, hreplicas, hresources]

theorem Elasticsearch.laidOver_of_indifferent {desired before after : Elasticsearch}
    (h : desired.laidOver before = before) (hi : desired.IndifferentTo before after) :
    desired.laidOver after = after := by
  have henabled := prefer_of_indifferent (congrArg Elasticsearch.enabled h) hi.enabled
  have hstorage := Storage.laidOver_of_indifferent (congrArg Elasticsearch.storage h) hi.storage
  have hingest :=
    ElasticsearchNode.laidOver_of_indifferent (congrArg Elasticsearch.ingestNode h) hi.ingestNode
  have hmaster :=
    ElasticsearchNode.laidOver_of_indifferent (congrArg Elasticsearch.masterNode h) hi.masterNode
  have hdata :=
    ElasticsearchNode.laidOver_of_indifferent (congrArg Elasticsearch.dataNode h) hi.dataNode
  rw [laidOver, henabled, hstorage, hingest, hmaster, hdata]

theorem Kibana.laidOver_of_indifferent {desired before after : Kibana}
    (h : desired.laidOver before = before) (hi : desired.IndifferentTo before after) :
    desired.laidOver after = after := by
  have henabled := prefer_of_indifferent (congrArg Kibana.enabled h) hi.enabled
  have hresources := Resources.laidOver_of_indifferent (congrArg Kibana.resources h) hi.resources
  rw [laidOver, henabled, hresources]

namespace InstanceSpec

theorem laidOver_of_indifferent {desired before after : InstanceSpec}
    (h : desired.laidOver before = before) (hi : desired.IndifferentTo before after) :
    desired.laidOver after = after := by
  have huri := prefer_of_indifferent (congrArg uri h) hi.uri
  have hauto := prefer_of_indifferent (congrArg autoSecret h) hi.autoSecret
  have hsecrets := prefer_of_indifferent (congrArg secretsName h) hi.secretsName
  have hcascading := prefer_of_indifferent (congrArg cascadingDelete h) hi.cascadingDelete
  have hgrafana := Grafana.laidOver_of_indifferent (congrArg grafana h) hi.grafana
  have hprometheus := Prometheus.laidOver_of_indifferent (congrArg prometheus h) hi.prometheus
  have helastic :=
    Elasticsearch.laidOver_of_indifferent (congrArg elasticsearch h) hi.elasticsearch
  have hkibana := Kibana.laidOver_of_indifferent (congrArg kibana h) hi.kibana
  have hingress :=
    prefer_of_indifferent (congrArg ingressTargetDnsName h) hi.ingressTargetDnsName
  have hservice := prefer_of_indifferent (congrArg serviceType h) hi.serviceType
  rw [laidOver, huri, hauto, hsecrets, hcascading, hgrafana, hprometheus, helastic, hkibana,
    hingress, hservice]

end InstanceSpec

end MonitoringStack
