import MonitoringStack.Config.Controller
import MonitoringStack.Proofs.Reconcile.Failures
import MonitoringStack.Proofs.Text.Blank

namespace MonitoringStack

/-- Decimal digits, and the number that they stand for. -/
structure Numeral (ds : List Char) (n : Nat) : Prop where
  nonempty : ds ≠ []
  digits : ∀ c ∈ ds, c.isDigit = true
  value : Nat.ofDigitChars 10 ds 0 = n

/-- The number that a text stands for, which has at most one sign. -/
inductive Spells : List Char → Int → Prop
  | bare {ds : List Char} {n : Nat} (h : Numeral ds n) : Spells ds n
  | plus {ds : List Char} {n : Nat} (h : Numeral ds n) : Spells ('+' :: ds) n
  | minus {ds : List Char} {n : Nat} (h : Numeral ds n) : Spells ('-' :: ds) (-n)

/-- A number of replicas that can be asked for. No text asks for none. -/
def Counts (s : String) (v : Int) : Prop :=
  (s = "" ∧ v = 0) ∨ (Spells s.toList v ∧ 0 ≤ v ∧ v ≤ 0x7FFFFFFF)

theorem Counts.nonneg {s : String} {v : Int} (h : Counts s v) : 0 ≤ v := by
  rcases h with ⟨-, rfl⟩ | ⟨-, hnonneg, -⟩
  · exact Int.le_refl 0
  · exact hnonneg

namespace Spells

variable {ds : List Char} {v : Int}

theorem minus_iff : Spells ('-' :: ds) v ↔ ∃ n, Numeral ds n ∧ v = -(n : Int) := by
  constructor
  · intro h
    cases h with
    | bare h => exact absurd (h.digits '-' List.mem_cons_self) (by decide)
    | minus h => exact ⟨_, h, rfl⟩
  · rintro ⟨n, h, rfl⟩
    exact .minus h

theorem plus_iff : Spells ('+' :: ds) v ↔ ∃ n, Numeral ds n ∧ v = n := by
  constructor
  · intro h
    cases h with
    | bare h => exact absurd (h.digits '+' List.mem_cons_self) (by decide)
    | plus h => exact ⟨_, h, rfl⟩
  · rintro ⟨n, h, rfl⟩
    exact .plus h

theorem bare_iff (hminus : ∀ rest, ds ≠ '-' :: rest) (hplus : ∀ rest, ds ≠ '+' :: rest) :
    Spells ds v ↔ ∃ n, Numeral ds n ∧ v = n := by
  constructor
  · intro h
    cases h with
    | bare h => exact ⟨_, h, rfl⟩
    | plus h => exact absurd rfl (hplus _)
    | minus h => exact absurd rfl (hminus _)
  · rintro ⟨n, h, rfl⟩
    exact .bare h

theorem ne_nil (h : Spells ds v) : ds ≠ [] := by
  cases h with
  | bare h => exact h.nonempty
  | plus h | minus h => exact List.cons_ne_nil _ _

end Spells

namespace ControllerConfig

section Replicas

def unsigned? (negative : Bool) (ds : List Char) : Option Int32 :=
  let n := ds.foldl (fun n c => n * 10 + (c.toNat - 48)) 0
  if ds.isEmpty || !ds.all Char.isDigit || 0x80000000 ≤ n || (negative && n ≠ 0) then none
  else some (Int32.ofNat n)

theorem replicas?_minus {s : String} {ds : List Char} (h : s.toList = '-' :: ds) :
    replicas? s = unsigned? true ds := by
  rw [replicas?, h]
  rfl

theorem replicas?_plus {s : String} {ds : List Char} (h : s.toList = '+' :: ds) :
    replicas? s = unsigned? false ds := by
  rw [replicas?, h]
  rfl

theorem replicas?_bare {s : String} (hminus : ∀ ds, s.toList ≠ '-' :: ds)
    (hplus : ∀ ds, s.toList ≠ '+' :: ds) : replicas? s = unsigned? false s.toList := by
  rw [replicas?]
  split
  rename_i negative digits heq
  split at heq
  · exact absurd ‹_› (hminus _)
  · exact absurd ‹_› (hplus _)
  · cases heq
    rfl

theorem unsigned?_eq_some_iff {negative : Bool} {ds : List Char} {k : Int32} :
    unsigned? negative ds = some k ↔
      ∃ n, Numeral ds n ∧ n < 0x80000000 ∧ (negative = true → n = 0) ∧ k.toInt = n := by
  have hvalue : ds.foldl (fun n c => n * 10 + (c.toNat - 48)) 0 = Nat.ofDigitChars 10 ds 0 := by
    simp only [Nat.ofDigitChars_eq_foldl, Nat.mul_comm]
    rfl
  have hrefused (n : Nat) :
      ((ds.isEmpty || !ds.all Char.isDigit || 0x80000000 ≤ n || (negative && n ≠ 0)) = true) ↔
        ¬ ((ds ≠ [] ∧ ∀ c ∈ ds, c.isDigit = true) ∧ n < 0x80000000 ∧ (negative = true → n = 0)) := by
    grind
  rw [unsigned?]
  simp only [hvalue, hrefused]
  constructor
  · intro h
    split at h
    · cases h
    · rename_i hok
      obtain rfl := Option.some.inj h
      obtain ⟨⟨hne, hdigits⟩, hlt, hsign⟩ := not_not.1 hok
      exact ⟨_, ⟨hne, hdigits, rfl⟩, hlt, hsign, Int32.toInt_ofNat_of_lt hlt⟩
  · rintro ⟨n, ⟨hne, hdigits, rfl⟩, hlt, hsign, hk⟩
    rw [if_neg (not_not.2 ⟨⟨hne, hdigits⟩, hlt, hsign⟩)]
    refine congrArg some (Int32.toInt_inj.1 ?_)
    rw [Int32.toInt_ofNat_of_lt hlt, hk]

theorem replicas?_eq_some_iff {s : String} {k : Int32} :
    replicas? s = some k ↔ Spells s.toList k.toInt ∧ 0 ≤ k.toInt := by
  by_cases hminus : ∃ ds, s.toList = '-' :: ds
  · obtain ⟨ds, hds⟩ := hminus
    rw [replicas?_minus hds, hds, unsigned?_eq_some_iff, Spells.minus_iff]
    constructor
    · rintro ⟨n, hn, -, hzero, hk⟩
      exact ⟨⟨n, hn, by rw [hk, hzero rfl]; rfl⟩, by omega⟩
    · rintro ⟨⟨n, hn, hk⟩, hpos⟩
      exact ⟨n, hn, by omega, fun _ => by omega, by omega⟩
  · have hunsigned (ds : List Char) : unsigned? false ds = some k ↔
        (∃ n, Numeral ds n ∧ k.toInt = n) ∧ 0 ≤ k.toInt := by
      have hlt := k.toInt_lt
      rw [unsigned?_eq_some_iff]
      constructor
      · rintro ⟨n, hn, -, -, hk⟩
        exact ⟨⟨n, hn, hk⟩, by omega⟩
      · rintro ⟨⟨n, hn, hk⟩, -⟩
        exact ⟨n, hn, by omega, fun h => (by cases h), hk⟩
    by_cases hplus : ∃ ds, s.toList = '+' :: ds
    · obtain ⟨ds, hds⟩ := hplus
      rw [replicas?_plus hds, hds, hunsigned, Spells.plus_iff]
    · have hminus := not_exists.1 hminus
      have hplus := not_exists.1 hplus
      rw [replicas?_bare hminus hplus, hunsigned, Spells.bare_iff hminus hplus]

theorem replicas_eq_ok_iff {key s : String} {k : Int32} :
    replicas key s = .ok k ↔ Counts s k.toInt := by
  rw [replicas, Counts]
  by_cases hs : s = ""
  · have hspelled : ¬ Spells s.toList k.toInt := fun h => h.ne_nil (by rw [hs]; rfl)
    have hzero : k.toInt = 0 ↔ 0 = k := by rw [← Int32.toInt_inj, Int32.toInt_zero, eq_comm]
    simp only [hs, if_true, Except.ok.injEq, hzero, true_and]
    simp only [← hs, hspelled, false_and, or_false]
  · have hlt := k.toInt_lt
    have hupper : k.toInt ≤ 0x7FFFFFFF := by omega
    simp only [hs, if_false, false_and, false_or, hupper, and_true, ← replicas?_eq_some_iff]
    cases replicas? s <;> simp

theorem exists_replicas_iff {key s : String} :
    (∃ k, replicas key s = .ok k) ↔ ∃ v, Counts s v := by
  simp only [replicas_eq_ok_iff]
  constructor
  · rintro ⟨k, hk⟩
    exact ⟨_, hk⟩
  · rintro ⟨v, hv⟩
    have hfits : (Int32.ofInt v).toInt = v := by
      apply Int32.toInt_ofInt_of_le
      · have := hv.nonneg
        omega
      · rcases hv with ⟨-, rfl⟩ | ⟨-, -, hle⟩
        · decide
        · exact Int.lt_of_le_of_lt hle (by decide)
    exact ⟨.ofInt v, by rwa [hfits]⟩

end Replicas

section Loading

/-- What a variable says: unset is empty, and blanks around a value do not matter. -/
def reading (lookup : Lookup) (key : String) : String := Text.trim ((lookup key).getD "")

theorem value_eq_reading (lookup : Lookup) (key : String) : value lookup key = reading lookup key := by
  rw [value, reading]
  cases lookup key <;> rfl

def replicaKeys : List String :=
  ["ES_INGEST_NODE_REPLICAS", "ES_MASTER_NODE_REPLICAS", "ES_DATA_NODE_REPLICAS"]

/-- The variables that can make a configuration fail. -/
def decidingKeys : List String := "PLATFORM_URI" :: "METRICS_ADDR" :: replicaKeys

structure Usable (lookup : Lookup) : Prop where
  platform : reading lookup "PLATFORM_URI" ≠ ""
  replicas : ∀ key ∈ replicaKeys, ∃ v, Counts (reading lookup key) v
  metrics : reading lookup "METRICS_ADDR" = "" ∨
    ∃ a, SocketAddr.read? (reading lookup "METRICS_ADDR") = some a

variable {lookup lookup' : Lookup} {config : ControllerConfig}

theorem usable_congr (h : ∀ key ∈ decidingKeys, reading lookup key = reading lookup' key) :
    Usable lookup ↔ Usable lookup' := by
  simp only [decidingKeys, List.forall_mem_cons] at h
  obtain ⟨hplatform, hmetrics, hreplicas⟩ := h
  have hcounts : (∀ key ∈ replicaKeys, ∃ v, Counts (reading lookup key) v) ↔
      ∀ key ∈ replicaKeys, ∃ v, Counts (reading lookup' key) v :=
    forall₂_congr fun key hkey => by rw [hreplicas key hkey]
  constructor
  · rintro ⟨hp, hr, hm⟩
    exact ⟨hplatform ▸ hp, hcounts.1 hr, hmetrics ▸ hm⟩
  · rintro ⟨hp, hr, hm⟩
    exact ⟨hplatform ▸ hp, hcounts.2 hr, hmetrics ▸ hm⟩

theorem ofLookup_congr (h : ∀ key, reading lookup key = reading lookup' key) :
    ofLookup lookup = ofLookup lookup' := by
  have hvalue : value lookup = value lookup' :=
    funext fun key => by rw [value_eq_reading, h, value_eq_reading]
  simp only [ofLookup, node, chartSettings, hvalue]

theorem exists_address_iff {s : String} : (∃ a, address s = .ok a) ↔
    s = "" ∨ ∃ a, SocketAddr.read? s = some a := by
  have hread (t : String) (h : (nonEmpty s).getD "0.0.0.0:8080" = t) :
      (∃ a, address s = .ok a) ↔ ∃ a, SocketAddr.read? t = some a := by
    rw [address, h]
    cases SocketAddr.read? t <;> simp
  by_cases hs : s = ""
  · have hdefault : ∃ a, SocketAddr.read? "0.0.0.0:8080" = some a := ⟨_, by rfl⟩
    rw [hread "0.0.0.0:8080" (by rw [nonEmpty, if_pos hs]; rfl)]
    exact iff_of_true hdefault (.inl hs)
  · rw [hread s (by rw [nonEmpty, if_neg hs]; rfl)]
    exact (or_iff_right hs).symm

theorem bind_eq_ok {ε α β : Type} {x : Except ε α} {f : α → Except ε β} {b : β} :
    (x >>= f) = .ok b ↔ ∃ a, x = .ok a ∧ f a = .ok b := by
  cases x <;> simp [bind, Except.bind]

theorem node_eq {stem key : String} (hkey : stem ++ "_REPLICAS" = key) :
    node lookup stem = replicas key (reading lookup key) >>= fun n =>
      .ok ⟨n, reading lookup (stem ++ "_REQUEST_MEMORY")⟩ := by
  rw [← hkey, ← value_eq_reading, ← value_eq_reading]
  rfl

theorem counts_node {stem key : String} {n : NodeSettings} (hkey : stem ++ "_REPLICAS" = key)
    (h : node lookup stem = .ok n) : Counts (reading lookup key) n.replicas.toInt := by
  rw [node_eq hkey, bind_eq_ok] at h
  obtain ⟨k, hk, hn⟩ := h
  obtain rfl := Except.ok.inj hn
  exact replicas_eq_ok_iff.1 hk

theorem exists_node {stem key : String} (hkey : stem ++ "_REPLICAS" = key)
    (h : ∃ v, Counts (reading lookup key) v) : ∃ n, node lookup stem = .ok n := by
  obtain ⟨k, hk⟩ := exists_replicas_iff.2 h
  exact ⟨_, (node_eq hkey).trans (bind_eq_ok.2 ⟨k, hk, rfl⟩)⟩

structure Loaded (lookup : Lookup) (config : ControllerConfig) : Prop where
  platform : config.settings.platformUri = reading lookup "PLATFORM_URI"
  named : reading lookup "PLATFORM_URI" ≠ ""
  ingest : Counts (reading lookup "ES_INGEST_NODE_REPLICAS")
    config.settings.esIngestNode.replicas.toInt
  master : Counts (reading lookup "ES_MASTER_NODE_REPLICAS")
    config.settings.esMasterNode.replicas.toInt
  data : Counts (reading lookup "ES_DATA_NODE_REPLICAS") config.settings.esDataNode.replicas.toInt
  metrics : address (reading lookup "METRICS_ADDR") = .ok config.metricsAddr

theorem loaded_ofLookup (h : ofLookup lookup = .ok config) : Loaded lookup config := by
  by_cases hplatform : value lookup "PLATFORM_URI" = ""
  · simp only [ofLookup, hplatform, if_true] at h
    cases h
  · simp only [ofLookup, hplatform, if_false, bind_eq_ok] at h
    obtain ⟨ingest, hingest, master, hmaster, data, hdata, a, ha, hconfig⟩ := h
    obtain rfl := Except.ok.inj hconfig
    rw [value_eq_reading] at hplatform ha
    exact ⟨value_eq_reading .., hplatform, counts_node (by decide) hingest,
      counts_node (by decide) hmaster, counts_node (by decide) hdata, ha⟩

theorem exists_ofLookup (h : Usable lookup) : ∃ config, ofLookup lookup = .ok config := by
  obtain ⟨hplatform, hreplicas, hmetrics⟩ := h
  simp only [replicaKeys, List.forall_mem_cons, List.not_mem_nil] at hreplicas
  obtain ⟨hingest, hmaster, hdata, -⟩ := hreplicas
  obtain ⟨ingest, hingest⟩ := exists_node (by decide : "ES_INGEST_NODE" ++ "_REPLICAS" = _) hingest
  obtain ⟨master, hmaster⟩ := exists_node (by decide : "ES_MASTER_NODE" ++ "_REPLICAS" = _) hmaster
  obtain ⟨data, hdata⟩ := exists_node (by decide : "ES_DATA_NODE" ++ "_REPLICAS" = _) hdata
  obtain ⟨a, ha⟩ := exists_address_iff.2 hmetrics
  rw [← value_eq_reading] at hplatform ha
  simp only [ofLookup, hplatform, if_false, bind_eq_ok]
  exact ⟨_, ingest, hingest, master, hmaster, data, hdata, a, ha, rfl⟩

theorem ofLookup_ok_iff : (∃ config, ofLookup lookup = .ok config) ↔ Usable lookup := by
  constructor
  · rintro ⟨config, h⟩
    have hloaded := loaded_ofLookup h
    refine ⟨hloaded.named, ?_, exists_address_iff.1 ⟨_, hloaded.metrics⟩⟩
    simp only [replicaKeys, List.forall_mem_cons]
    exact ⟨⟨_, hloaded.ingest⟩, ⟨_, hloaded.master⟩, ⟨_, hloaded.data⟩, by simp⟩
  · exact exists_ofLookup

end Loading

end ControllerConfig

/-- A spec asks for no number of replicas below zero, makes no claims, and asks for storage only as
far as there is to be any. -/
structure InstanceSpec.Sober (storageEnabled : Bool) (spec : InstanceSpec) : Prop where
  replicas : ∀ n ∈ [spec.elasticsearch.ingestNode, spec.elasticsearch.masterNode,
    spec.elasticsearch.dataNode], 0 ≤ n.replicas.toInt
  claims : ∀ s ∈ [spec.grafana.storage, spec.prometheus.storage, spec.elasticsearch.storage],
    s.claims = []
  sizes : storageEnabled = false →
    ∀ s ∈ [spec.grafana.storage, spec.prometheus.storage, spec.elasticsearch.storage], s.size = ""

theorem InstanceSettings.sober_specBelow {s : InstanceSettings}
    (h : ∀ n ∈ [s.esIngestNode, s.esMasterNode, s.esDataNode], 0 ≤ n.replicas.toInt)
    (platform name : String) : (s.specBelow platform name).Sober s.storageEnabled := by
  simp only [List.forall_mem_cons] at h
  obtain ⟨hingest, hmaster, hdata, -⟩ := h
  constructor
  · simp only [List.forall_mem_cons]
    exact ⟨hingest, hmaster, hdata, by simp⟩
  · simp [specBelow, storage]
  · intro hdisabled
    simp [specBelow, storage, hdisabled]

theorem Desired.strangerText_ne (d : Desired) (owner : String) :
    d.strangerText owner ≠ "URI must not be empty" := by
  unfold strangerText
  simp only [String.append_assoc]
  generalize systemNamespace ++ _ = rest
  intro h
  have hfirst := congrArg (fun t => t.toList.head?) h
  rw [String.toList_append] at hfirst
  have hhead : ("MonitoringInstance ".toList ++ rest.toList).head? = some 'M' := rfl
  rw [hhead] at hfirst
  revert hfirst
  decide

namespace ControllerConfig

variable {lookup : Lookup} {config : ControllerConfig}

theorem Loaded.specBuilder_eq (h : Loaded lookup config) (binding : Binding) :
    config.settings.specBuilder binding =
      .ok (config.settings.specBelow (reading lookup "PLATFORM_URI") binding.name) := by
  have htrimmed : Text.trim config.settings.platformUri = reading lookup "PLATFORM_URI" := by
    rw [h.platform, reading, Text.trim_trim]
  rw [InstanceSettings.specBuilder, htrimmed, if_neg h.named]

theorem Loaded.sober (h : Loaded lookup config) (platform name : String) :
    (config.settings.specBelow platform name).Sober config.settings.storageEnabled := by
  apply InstanceSettings.sober_specBelow
  simp only [List.forall_mem_cons]
  exact ⟨h.ingest.nonneg, h.master.nonneg, h.data.nonneg, by simp⟩

/-- A pass that could build its spec never fails for want of a platform. -/
theorem named_of_mayEnd {build : SpecBuilder} {binding : Binding} {spec : InstanceSpec}
    (hbuilt : build binding = .ok spec) {result : Except OperatorError Outcome}
    (h : (Reconcile.run Program.access build binding).MayEnd result) :
    result ≠ .error (.invalidInput "URI must not be empty") := by
  rintro rfl
  generalize herror : OperatorError.invalidInput "URI must not be empty" = e at h
  cases Reconcile.blamed_run h with
  | builder hfailed => cases hbuilt.symm.trans hfailed
  | store cause => cases cause <;> cases herror
  | stranger hd owner => exact Desired.strangerText_ne _ _ (OperatorError.invalidInput.inj herror).symm

/-- A configuration is accepted if and only if it can be used, which five variables decide. How
values are padded, and whether empty ones are set, makes no difference. What is accepted makes a
spec for every binding. -/
theorem ofLookup_decides (lookup : Lookup) :
    ((∃ config, ofLookup lookup = .ok config) ↔ Usable lookup) ∧
    (∀ lookup', (∀ key ∈ decidingKeys, reading lookup key = reading lookup' key) →
      ((∃ config, ofLookup lookup = .ok config) ↔ ∃ config, ofLookup lookup' = .ok config)) ∧
    (∀ lookup', (∀ key, reading lookup key = reading lookup' key) →
      ofLookup lookup = ofLookup lookup') ∧
    ∀ config, ofLookup lookup = .ok config → ∀ binding, ∃ spec,
      config.settings.specBuilder binding = .ok spec ∧
      spec.Sober config.settings.storageEnabled ∧
      ∀ result, (Reconcile.run Program.access config.settings.specBuilder binding).MayEnd result →
        result ≠ .error (.invalidInput "URI must not be empty") := by
  refine ⟨ofLookup_ok_iff, ?_, fun lookup' => ofLookup_congr, ?_⟩
  · intro lookup' h
    rw [ofLookup_ok_iff, ofLookup_ok_iff, usable_congr h]
  · intro config h binding
    have hloaded := loaded_ofLookup h
    have hbuilt := hloaded.specBuilder_eq binding
    exact ⟨_, hbuilt, hloaded.sober _ _, fun result => named_of_mayEnd hbuilt⟩

/-- As many replicas as there can be, none at all with a sign, and blanks around the name. -/
def manyReplicas : Lookup
  | "PLATFORM_URI" => some " example.com\n"
  | "ES_INGEST_NODE_REPLICAS" => some "+007"
  | "ES_MASTER_NODE_REPLICAS" => some " -0 "
  | "ES_DATA_NODE_REPLICAS" => some "2147483647"
  | "METRICS_ADDR" => some "[::1]:9090"
  | _ => none

def tooManyReplicas (key : String) : Option String :=
  if key = "ES_DATA_NODE_REPLICAS" then some "2147483648" else manyReplicas key

theorem ofLookup_decides_manyReplicas : Usable manyReplicas ∧ ¬ Usable tooManyReplicas ∧
    ∃ config, ofLookup manyReplicas = .ok config ∧ ∀ binding, ∃ spec,
      config.settings.specBuilder binding = .ok spec ∧ spec.Sober false := by
  obtain ⟨config, hconfig, hstorage⟩ : ∃ config, ofLookup manyReplicas = .ok config ∧
      config.settings.storageEnabled = false := ⟨_, by rfl, by rfl⟩
  have hrefused : ¬ ∃ config, ofLookup tooManyReplicas = .ok config := by
    have herror : ∃ e, ofLookup tooManyReplicas = .error e := ⟨_, by rfl⟩
    obtain ⟨e, he⟩ := herror
    simp [he]
  obtain ⟨haccepted, -, -, hbuilds⟩ := ofLookup_decides manyReplicas
  refine ⟨haccepted.1 ⟨config, hconfig⟩, mt (ofLookup_decides tooManyReplicas).1.2 hrefused,
    config, hconfig, fun binding => ?_⟩
  obtain ⟨spec, hspec, hsober, -⟩ := hbuilds config hconfig binding
  exact ⟨spec, hspec, hstorage ▸ hsober⟩

end ControllerConfig

end MonitoringStack
