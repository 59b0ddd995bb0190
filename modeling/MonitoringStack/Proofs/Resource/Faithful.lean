import MonitoringStack.Proofs.Wire.Change
import MonitoringStack.Resource.ManagedCluster

namespace MonitoringStack

open Json (Slot Form)

open Wire

theorem list?_map {α : Type} {encode : α → Json} {decode : Json → Option α}
    (h : ∀ a, decode (encode a) = some a) (as : List α) :
    list? decode (.array (as.map encode)) = some as := by
  simp only [list?]
  induction as with
  | nil => rfl
  | cons a as ih => simp [h, ih]

theorem mem_of_required? {α : Type} {slots : List (Slot Form)} {given known : List (String × Json)}
    {key : String} {decode : Json → Option α} {a : α}
    (hknown : record? slots (.object given) = some known)
    (ha : required? known key decode = some a) : key ∈ given.map (·.1) := by
  obtain ⟨rfl, -⟩ := record?_object_eq_some.1 hknown
  obtain ⟨j, hget, -⟩ := Option.bind_eq_some_iff.1 ha
  exact List.mem_map_of_mem (List.mem_filter.1 (Entries.mem_of_get? hget)).1

theorem timestamp?_text (t : Timestamp) : Kube.timestamp? (.string t.text) = some t := by
  rw [Kube.timestamp?, string?, Option.bind_some, Timestamp.read?_text]

section Given

variable {α : Type} {key key' s : String} {j : Json} {given : List (String × Json)}
  {decode : Json → Option α}

@[simp] theorem required?_cons_self : required? ((key, j) :: given) key decode = decode j := by
  simp [required?, Entries.get?]

@[simp] theorem required?_cons_of_ne (h : key ≠ key') :
    required? ((key', j) :: given) key decode = required? given key decode := by
  simp [required?, Entries.get?, h]

@[simp] theorem optional?_nil : optional? [] key decode = some none := rfl

@[simp] theorem optional?_cons_string :
    optional? ((key, .string s) :: given) key decode = (decode (.string s)).map some := by
  simp [optional?, Entries.get?]

@[simp] theorem optional?_cons_of_ne (h : key ≠ key') :
    optional? ((key', j) :: given) key decode = optional? given key decode := by
  simp [optional?, Entries.get?, h]

end Given

/-- A record that reads back what it writes, bears changes of its object and of what is in it, takes
no notice of fields that are not known, and has to be given some of its fields and no others. -/
structure Faithful {α : Type} (name : String) (slots : List (Slot Form)) (decode : Json → Option α)
    (encode : α → Json) (after : Change → α → α) (needed : List String) : Prop where
  reads_back : ∀ a, decode (encode a) = some a
  bears : Bears (.record .plain name slots) decode after
  ignores : Ignores after
  requires : (slots.filter (·.need = .required)).map (·.name) = needed
  needs : ∀ given a, decode (.object given) = some a → ∀ key ∈ needed, key ∈ given.map (·.1)

theorem Faithful.of_optional {α : Type} {name : String} {slots : List (Slot Form)}
    {decode : Json → Option α} {encode : α → Json} {after : Change → α → α}
    (hreads : ∀ a, decode (encode a) = some a)
    (hbears : Bears (.record .plain name slots) decode after)
    (hignores : Ignores after) (hoptional : slots.filter (·.need = .required) = []) :
    Faithful name slots decode encode after [] where
  reads_back := hreads
  bears := hbears
  ignores := hignores
  requires := by rw [hoptional, List.map_nil]
  needs _ _ _ _ hkey := absurd hkey List.not_mem_nil

namespace Storage

def after (c : Change) (s : Storage) : Storage where
  size := (c.at "size").after "" keep s.size
  claims := (c.at "pvcNames").after [] keep s.claims

theorem ignores : Ignores after := by
  intro c hc s
  simp only [after, ignores_keep.after hc]

theorem bears : Bears form decode? after := by
  refine bears_record (by decide) fun hbecame => ?_
  refine .bind (bears_string.defaulted? (hbecame _ (by simp [fields]))) fun size => ?_
  refine .bind (bears_strings.defaulted? (hbecame _ (by simp [fields]))) fun claims => ?_
  exact carries_some rfl

theorem faithful : Faithful "Storage" fields decode? encode after [] :=
  .of_optional decode?_encode bears ignores rfl

end Storage

namespace Resources

def after (c : Change) (r : Resources) : Resources where
  requestMemory := (c.at "requestMemory").after "" keep r.requestMemory

theorem ignores : Ignores after := by
  intro c hc r
  simp only [after, ignores_keep.after hc]

theorem bears : Bears form decode? after := by
  refine bears_record (by decide) fun hbecame => ?_
  refine .bind (bears_string.defaulted? (hbecame _ (by simp [fields]))) fun requestMemory => ?_
  exact carries_some rfl

theorem faithful : Faithful "Resources" fields decode? encode after [] :=
  .of_optional decode?_encode bears ignores rfl

end Resources

namespace Grafana

def after (c : Change) (g : Grafana) : Grafana where
  enabled := (c.at "enabled").after false keep g.enabled
  storage := (c.at "storage").after {} Storage.after g.storage
  dashboardsConfigMap := (c.at "dashboardsConfigMap").after "" keep g.dashboardsConfigMap
  resources := (c.at "resources").after {} Resources.after g.resources

theorem ignores : Ignores after := by
  intro c hc g
  simp only [after, ignores_keep.after hc, Storage.ignores.after hc, Resources.ignores.after hc]

theorem bears : Bears form decode? after := by
  refine bears_record (by decide) fun hbecame => ?_
  refine .bind (bears_bool.defaulted? (hbecame _ (by simp [fields]))) fun enabled => ?_
  refine .bind (Storage.bears.defaulted? (hbecame _ (by simp [fields]))) fun storage => ?_
  refine .bind (bears_string.defaulted?
    (hbecame _ (by simp [fields]))) fun dashboardsConfigMap => ?_
  refine .bind (Resources.bears.defaulted? (hbecame _ (by simp [fields]))) fun resources => ?_
  exact carries_some rfl

theorem faithful : Faithful "Grafana" fields decode? encode after [] :=
  .of_optional decode?_encode bears ignores rfl

end Grafana

namespace Prometheus

def after (c : Change) (p : Prometheus) : Prometheus where
  enabled := (c.at "enabled").after false keep p.enabled
  storage := (c.at "storage").after {} Storage.after p.storage
  resources := (c.at "resources").after {} Resources.after p.resources

theorem ignores : Ignores after := by
  intro c hc p
  simp only [after, ignores_keep.after hc, Storage.ignores.after hc, Resources.ignores.after hc]

theorem bears : Bears form decode? after := by
  refine bears_record (by decide) fun hbecame => ?_
  refine .bind (bears_bool.defaulted? (hbecame _ (by simp [fields]))) fun enabled => ?_
  refine .bind (Storage.bears.defaulted? (hbecame _ (by simp [fields]))) fun storage => ?_
  refine .bind (Resources.bears.defaulted? (hbecame _ (by simp [fields]))) fun resources => ?_
  exact carries_some rfl

theorem faithful : Faithful "Prometheus" fields decode? encode after [] :=
  .of_optional decode?_encode bears ignores rfl

end Prometheus

namespace ElasticsearchNode

def after (c : Change) (n : ElasticsearchNode) : ElasticsearchNode where
  replicas := (c.at "replicas").after 0 keep n.replicas
  resources := (c.at "resources").after {} Resources.after n.resources

theorem ignores : Ignores after := by
  intro c hc n
  simp only [after, ignores_keep.after hc, Resources.ignores.after hc]

theorem bears : Bears form decode? after := by
  refine bears_record (by decide) fun hbecame => ?_
  refine .bind (bears_int32.defaulted? (hbecame _ (by simp [fields]))) fun replicas => ?_
  refine .bind (Resources.bears.defaulted? (hbecame _ (by simp [fields]))) fun resources => ?_
  exact carries_some rfl

theorem faithful : Faithful "ElasticsearchNode" fields decode? encode after [] :=
  .of_optional decode?_encode bears ignores rfl

end ElasticsearchNode

namespace Elasticsearch

def after (c : Change) (e : Elasticsearch) : Elasticsearch where
  enabled := (c.at "enabled").after false keep e.enabled
  storage := (c.at "storage").after {} Storage.after e.storage
  ingestNode := (c.at "ingestNode").after {} ElasticsearchNode.after e.ingestNode
  masterNode := (c.at "masterNode").after {} ElasticsearchNode.after e.masterNode
  dataNode := (c.at "dataNode").after {} ElasticsearchNode.after e.dataNode

theorem ignores : Ignores after := by
  intro c hc e
  simp only [after, ignores_keep.after hc, Storage.ignores.after hc,
    ElasticsearchNode.ignores.after hc]

theorem bears : Bears form decode? after := by
  refine bears_record (by decide) fun hbecame => ?_
  refine .bind (bears_bool.defaulted? (hbecame _ (by simp [fields]))) fun enabled => ?_
  refine .bind (Storage.bears.defaulted? (hbecame _ (by simp [fields]))) fun storage => ?_
  refine .bind (ElasticsearchNode.bears.defaulted?
    (hbecame _ (by simp [fields]))) fun ingestNode => ?_
  refine .bind (ElasticsearchNode.bears.defaulted?
    (hbecame _ (by simp [fields]))) fun masterNode => ?_
  refine .bind (ElasticsearchNode.bears.defaulted?
    (hbecame _ (by simp [fields]))) fun dataNode => ?_
  exact carries_some rfl

theorem faithful : Faithful "Elasticsearch" fields decode? encode after [] :=
  .of_optional decode?_encode bears ignores rfl

end Elasticsearch

namespace Kibana

def after (c : Change) (k : Kibana) : Kibana where
  enabled := (c.at "enabled").after false keep k.enabled
  resources := (c.at "resources").after {} Resources.after k.resources

theorem ignores : Ignores after := by
  intro c hc k
  simp only [after, ignores_keep.after hc, Resources.ignores.after hc]

theorem bears : Bears form decode? after := by
  refine bears_record (by decide) fun hbecame => ?_
  refine .bind (bears_bool.defaulted? (hbecame _ (by simp [fields]))) fun enabled => ?_
  refine .bind (Resources.bears.defaulted? (hbecame _ (by simp [fields]))) fun resources => ?_
  exact carries_some rfl

theorem faithful : Faithful "Kibana" fields decode? encode after [] :=
  .of_optional decode?_encode bears ignores rfl

end Kibana

namespace InstanceSpec

def after (c : Change) (s : InstanceSpec) : InstanceSpec where
  uri := (c.at "uri").after "" keep s.uri
  autoSecret := (c.at "autoSecret").after false keep s.autoSecret
  secretsName := (c.at "secretsName").after "" keep s.secretsName
  cascadingDelete := (c.at "cascadingDelete").after false keep s.cascadingDelete
  grafana := (c.at "grafana").after {} Grafana.after s.grafana
  prometheus := (c.at "prometheus").after {} Prometheus.after s.prometheus
  elasticsearch := (c.at "elasticsearch").after {} Elasticsearch.after s.elasticsearch
  kibana := (c.at "kibana").after {} Kibana.after s.kibana
  ingressTargetDnsName := (c.at "ingressTargetDnsName").after "" keep s.ingressTargetDnsName
  serviceType := (c.at "serviceType").after "" keep s.serviceType

theorem ignores : Ignores after := by
  intro c hc s
  simp only [after, ignores_keep.after hc, Grafana.ignores.after hc, Prometheus.ignores.after hc,
    Elasticsearch.ignores.after hc, Kibana.ignores.after hc]

theorem bears : Bears form decode? after := by
  refine bears_record (by decide) fun hbecame => ?_
  refine .bind (bears_string.defaulted? (hbecame _ (by simp [fields]))) fun uri => ?_
  refine .bind (bears_bool.defaulted? (hbecame _ (by simp [fields]))) fun autoSecret => ?_
  refine .bind (bears_string.defaulted? (hbecame _ (by simp [fields]))) fun secretsName => ?_
  refine .bind (bears_bool.defaulted? (hbecame _ (by simp [fields]))) fun cascadingDelete => ?_
  refine .bind (Grafana.bears.defaulted? (hbecame _ (by simp [fields]))) fun grafana => ?_
  refine .bind (Prometheus.bears.defaulted? (hbecame _ (by simp [fields]))) fun prometheus => ?_
  refine .bind (Elasticsearch.bears.defaulted?
    (hbecame _ (by simp [fields]))) fun elasticsearch => ?_
  refine .bind (Kibana.bears.defaulted? (hbecame _ (by simp [fields]))) fun kibana => ?_
  refine .bind (bears_string.defaulted?
    (hbecame _ (by simp [fields]))) fun ingressTargetDnsName => ?_
  refine .bind (bears_string.defaulted? (hbecame _ (by simp [fields]))) fun serviceType => ?_
  exact carries_some rfl

example (s : InstanceSpec) : after (.within "grafana" (.within "storage" (.removed "size"))) s =
    { s with grafana.storage.size := "" } := rfl

theorem faithful : Faithful "MonitoringInstanceSpec" fields decode? encode after [] :=
  .of_optional decode?_encode bears ignores rfl

end InstanceSpec

namespace WorkloadReference

def after (c : Change) (r : WorkloadReference) : WorkloadReference where
  apiGroup := (c.at "apiGroup").after "" keep r.apiGroup
  kind := r.kind
  name := r.name
  ns? := (c.at "namespace").after none keep r.ns?

theorem ignores : Ignores after := by
  intro c hc r
  simp only [after, ignores_keep.after hc]

theorem bears : Bears form decode? after := by
  refine bears_record (by decide) fun hbecame => ?_
  refine .bind (bears_string.defaulted? (hbecame _ (by simp [fields]))) fun apiGroup => ?_
  refine .bind (bears_string.required? (hbecame _ (by simp [fields]))) fun kind => ?_
  refine .bind (bears_string.required? (hbecame _ (by simp [fields]))) fun name => ?_
  refine .bind (optional?_became
    (hbecame (.optional "namespace" string) (by simp [fields]))) fun ns => ?_
  exact carries_some rfl

theorem decode?_encode (r : WorkloadReference) : decode? r.encode = some r := by
  obtain ⟨apiGroup, kind, name, ns?⟩ := r
  cases ns? with
  | none =>
    rw [decode?, encode, record?_object (by simp [fields, present]) (by simp [present])]
    simp [present, string?]
  | some ns =>
    rw [decode?, encode, record?_object (by simp [fields, present]) (by simp [present])]
    simp [present, string?]

theorem faithful :
    Faithful "WorkloadReference" fields decode? encode after ["kind", "name"] := by
  refine ⟨decode?_encode, bears, ignores, rfl, fun given r hr => ?_⟩
  simp only [decode?, Option.bind_eq_bind, Option.bind_eq_some_iff] at hr
  obtain ⟨known, hknown, -, -, kind, hkind, name, hname, -⟩ := hr
  exact List.forall_mem_cons.2
    ⟨mem_of_required? hknown hkind, List.forall_mem_singleton.2 (mem_of_required? hknown hname)⟩

end WorkloadReference

namespace SecretReference

theorem bears : Bears (.record .plain "SecretReference" fields) decode? keep := by
  refine bears_record (by decide) fun hbecame => ?_
  refine .bind (bears_string.required? (hbecame _ (by simp [fields]))) fun name => ?_
  refine .bind (bears_string.required? (hbecame _ (by simp [fields]))) fun ns => ?_
  exact carries_some rfl

theorem decode?_encode (r : SecretReference) : decode? r.encode = some r := by
  rw [decode?, encode, record?_object (by simp [fields]) (by simp)]
  simp [string?]

theorem faithful :
    Faithful "SecretReference" fields decode? encode keep ["name", "namespace"] := by
  refine ⟨decode?_encode, bears, ignores_keep, rfl, fun given r hr => ?_⟩
  simp only [decode?, Option.bind_eq_bind, Option.bind_eq_some_iff] at hr
  obtain ⟨known, hknown, name, hname, ns, hns, -⟩ := hr
  exact List.forall_mem_cons.2
    ⟨mem_of_required? hknown hname, List.forall_mem_singleton.2 (mem_of_required? hknown hns)⟩

end SecretReference

namespace BindingSpec

def after (c : Change) (s : BindingSpec) : BindingSpec where
  description := (c.at "description").after none keep s.description
  workloads := (c.at "workloads").after [] (inItem WorkloadReference.after) s.workloads

theorem ignores : Ignores after := by
  intro c hc s
  simp only [after, ignores_keep.after hc, WorkloadReference.ignores.inItem.after hc]

theorem bears : Bears form decode? after := by
  refine bears_record (by decide) fun hbecame => ?_
  refine .bind (optional?_became
    (hbecame (.optional "description" string) (by simp [fields]))) fun description => ?_
  have hworkloads := Bears.list WorkloadReference.bears
  refine .bind (hworkloads.defaulted? (hbecame _ (by simp [fields]))) fun workloads => ?_
  exact carries_some rfl

theorem decode?_encode (s : BindingSpec) : decode? s.encode = some s := by
  obtain ⟨description, workloads⟩ := s
  cases description <;>
    rw [decode?, encode, record?_object (by simp [fields, present]) (by simp [present])] <;>
    simp [present, string?,
      list?_map WorkloadReference.decode?_encode]

theorem faithful : Faithful "BindingSpec" fields decode? encode after [] :=
  .of_optional decode?_encode bears ignores rfl

end BindingSpec

namespace BindingStatus

def after (c : Change) (s : BindingStatus) : BindingStatus where
  instanceName := (c.at "instanceName").after none keep s.instanceName
  state := (c.at "state").after .pending keep s.state
  message := (c.at "message").after none keep s.message
  lastReconciled := (c.at "lastReconciled").after none keep s.lastReconciled

theorem ignores : Ignores after := by
  intro c hc s
  simp only [after, ignores_keep.after hc]

theorem bears : Bears form decode? after := by
  refine bears_record (by decide) fun hbecame => ?_
  refine .bind (optional?_became
    (hbecame (.optional "instanceName" string) (by simp [fields]))) fun instanceName => ?_
  have hstates := bears_choice (InstanceState.all.map (·.name)) InstanceState.decode?
  refine .bind (hstates.defaulted? (hbecame _ (by simp [fields]))) fun state => ?_
  refine .bind (optional?_became
    (hbecame (.optional "message" string) (by simp [fields]))) fun message => ?_
  have hlastReconciled := hbecame (.optional "lastReconciled" Kube.timestamp) (by simp [fields])
  refine .bind (optional?_became hlastReconciled) fun lastReconciled => ?_
  exact carries_some rfl

theorem decode?_encode (s : BindingStatus) : decode? s.encode = some s := by
  obtain ⟨instanceName, state, message, lastReconciled⟩ := s
  cases instanceName <;> cases message <;> cases lastReconciled <;>
    rw [decode?, encode, record?_object (by simp [fields, present]) (by simp [present])] <;>
    simp [present, string?, timestamp?_text,
      InstanceState.encode, InstanceState.decode?_name]

theorem faithful : Faithful "BindingStatus" fields decode? encode after [] :=
  .of_optional decode?_encode bears ignores rfl

end BindingStatus

namespace ManagedClusterSpec

def after (c : Change) (s : ManagedClusterSpec) : ManagedClusterSpec where
  description := (c.at "description").after none keep s.description
  prometheusSecret := (c.at "prometheusSecret").after "" keep s.prometheusSecret
  serviceAccount := (c.at "serviceAccount").after none keep s.serviceAccount

theorem ignores : Ignores after := by
  intro c hc s
  simp only [after, ignores_keep.after hc]

theorem bears : Bears form decode? after := by
  refine bears_record (by decide) fun hbecame => ?_
  refine .bind (optional?_became
    (hbecame (.optional "description" string) (by simp [fields]))) fun description => ?_
  refine .bind (bears_string.defaulted? (hbecame _ (by simp [fields]))) fun prometheusSecret => ?_
  refine .bind (optional?_became
    (hbecame (.optional "serviceAccount" string) (by simp [fields]))) fun serviceAccount => ?_
  exact carries_some rfl

theorem decode?_encode (s : ManagedClusterSpec) : decode? s.encode = some s := by
  obtain ⟨description, prometheusSecret, serviceAccount⟩ := s
  cases description <;> cases serviceAccount <;>
    rw [decode?, encode, record?_object (by simp [fields, present]) (by simp [present])] <;>
    simp [present, string?]

theorem faithful : Faithful "ManagedClusterSpec" fields decode? encode after [] :=
  .of_optional decode?_encode bears ignores rfl

end ManagedClusterSpec

/-- What is written is read back, from every record; changes that an object bears are fields that a
record does not know, at any depth, and fields left out, each of which then has its default. Only
what a reference names has to be given. -/
theorem records_faithful :
    Faithful "MonitoringInstanceSpec" InstanceSpec.fields InstanceSpec.decode? InstanceSpec.encode
        InstanceSpec.after [] ∧
      Faithful "Grafana" Grafana.fields Grafana.decode? Grafana.encode Grafana.after [] ∧
      Faithful "Prometheus" Prometheus.fields Prometheus.decode? Prometheus.encode
        Prometheus.after [] ∧
      Faithful "Elasticsearch" Elasticsearch.fields Elasticsearch.decode? Elasticsearch.encode
        Elasticsearch.after [] ∧
      Faithful "ElasticsearchNode" ElasticsearchNode.fields ElasticsearchNode.decode?
        ElasticsearchNode.encode ElasticsearchNode.after [] ∧
      Faithful "Kibana" Kibana.fields Kibana.decode? Kibana.encode Kibana.after [] ∧
      Faithful "Storage" Storage.fields Storage.decode? Storage.encode Storage.after [] ∧
      Faithful "Resources" Resources.fields Resources.decode? Resources.encode
        Resources.after [] ∧
      Faithful "BindingSpec" BindingSpec.fields BindingSpec.decode? BindingSpec.encode
        BindingSpec.after [] ∧
      Faithful "BindingStatus" BindingStatus.fields BindingStatus.decode? BindingStatus.encode
        BindingStatus.after [] ∧
      Faithful "ManagedClusterSpec" ManagedClusterSpec.fields ManagedClusterSpec.decode?
        ManagedClusterSpec.encode ManagedClusterSpec.after [] ∧
      Faithful "WorkloadReference" WorkloadReference.fields WorkloadReference.decode?
        WorkloadReference.encode WorkloadReference.after ["kind", "name"] ∧
      Faithful "SecretReference" SecretReference.fields SecretReference.decode?
        SecretReference.encode keep ["name", "namespace"] ∧
      ∀ s : InstanceState, InstanceState.decode? s.encode = some s :=
  ⟨InstanceSpec.faithful, Grafana.faithful, Prometheus.faithful, Elasticsearch.faithful,
    ElasticsearchNode.faithful, Kibana.faithful, Storage.faithful, Resources.faithful,
    BindingSpec.faithful, BindingStatus.faithful, ManagedClusterSpec.faithful,
    WorkloadReference.faithful, SecretReference.faithful, InstanceState.decode?_name⟩

end MonitoringStack
