import MonitoringStack.Proofs.KeyMap
import MonitoringStack.Resource.Instance

namespace MonitoringStack

open Json (Slot Form)

namespace Wire

@[simp] theorem name_defaulted (name : String) (form : Form) :
    (Slot.defaulted name form).name = name := rfl

/-- An object that gives nothing but fields of a record, each once, is taken as it is. -/
theorem record?_object {fields : List (Slot Form)} {given : List (String × Json)}
    (hknown : ∀ k ∈ given.map (·.1), k ∈ fields.map (·.name)) (hn : (given.map (·.1)).Nodup) :
    record? fields (.object given) = some given := by
  have hfilter : given.filter (fun g => g.1 ∈ fields.map (·.name)) = given :=
    List.filter_eq_self.2 fun g hg => decide_eq_true (hknown _ (List.mem_map_of_mem hg))
  simp only [record?, named?, hfilter, hn, if_true]

section Defaulted

variable {α : Type} {key key' : String} {j : Json} {fields : List (String × Json)}
  {decode : Json → Option α} {default : α}

@[simp] theorem defaulted?_cons_self :
    defaulted? ((key, j) :: fields) key decode default = decode j := by
  simp [defaulted?, Entries.get?]

@[simp] theorem defaulted?_cons_of_ne (h : key ≠ key') :
    defaulted? ((key', j) :: fields) key decode default = defaulted? fields key decode default := by
  simp [defaulted?, Entries.get?, h]

end Defaulted

theorem list?_strings (xs : List String) : list? string? (strings xs) = some xs := by
  simp only [list?, strings]
  induction xs with
  | nil => rfl
  | cons x xs ih => simp_all [string?]

theorem map?_stringMap (m : KeyMap String String) : map? string? (stringMap m) = some m := by
  have hm : (m.entries.map fun e => (e.1, Json.string e.2)).mapM
      (fun f => (string? f.2).map (f.1, ·)) = some m.entries := by
    induction m.entries with
    | nil => rfl
    | cons e rest ih => simp_all [string?]
  simp only [map?, stringMap, hm, Option.map_some, KeyMap.ofList_entries]

theorem stringMap_injective {m n : KeyMap String String} (h : stringMap m = stringMap n) : m = n :=
  Option.some.inj (by rw [← map?_stringMap, h, map?_stringMap])

theorem int32?_toInt (n : Int32) : int32? (.int n.toInt) = some n := by
  have hlow := n.le_toInt
  have hhigh := n.toInt_lt
  have hrange : -0x80000000 ≤ n.toInt ∧ n.toInt ≤ 0x7FFFFFFF := by omega
  simp only [int32?, intBetween?, Json.int, hrange, and_self, if_true, Option.map_some,
    Int32.ofInt_toInt]

end Wire

open Wire

theorem Storage.decode?_encode (s : Storage) : decode? s.encode = some s := by
  rw [decode?, encode, record?_object (by simp [fields]) (by simp)]
  simp [string?, list?_strings]

theorem Resources.decode?_encode (r : Resources) : decode? r.encode = some r := by
  rw [decode?, encode, record?_object (by simp [fields]) (by simp)]
  simp [string?]

theorem Grafana.decode?_encode (g : Grafana) : decode? g.encode = some g := by
  rw [decode?, encode, record?_object (by simp [fields]) (by simp)]
  simp [string?, bool?, Storage.decode?_encode, Resources.decode?_encode]

theorem Prometheus.decode?_encode (p : Prometheus) : decode? p.encode = some p := by
  rw [decode?, encode, record?_object (by simp [fields]) (by simp)]
  simp [bool?, Storage.decode?_encode, Resources.decode?_encode]

theorem ElasticsearchNode.decode?_encode (n : ElasticsearchNode) : decode? n.encode = some n := by
  rw [decode?, encode, record?_object (by simp [fields]) (by simp)]
  simp [int32?_toInt, Resources.decode?_encode]

theorem Elasticsearch.decode?_encode (e : Elasticsearch) : decode? e.encode = some e := by
  rw [decode?, encode, record?_object (by simp [fields]) (by simp)]
  simp [bool?, Storage.decode?_encode, ElasticsearchNode.decode?_encode]

theorem Kibana.decode?_encode (k : Kibana) : decode? k.encode = some k := by
  rw [decode?, encode, record?_object (by simp [fields]) (by simp)]
  simp [bool?, Resources.decode?_encode]

namespace InstanceSpec

theorem decode?_encode (s : InstanceSpec) : decode? s.encode = some s := by
  rw [decode?, encode, record?_object (by simp [fields]) (by simp)]
  simp [string?, bool?, Grafana.decode?_encode, Prometheus.decode?_encode,
    Elasticsearch.decode?_encode, Kibana.decode?_encode]

theorem encode_injective {s t : InstanceSpec} (h : s.encode = t.encode) : s = t :=
  Option.some.inj (by rw [← decode?_encode, h, decode?_encode])

end InstanceSpec

end MonitoringStack
