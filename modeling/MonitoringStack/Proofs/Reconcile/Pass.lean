import MonitoringStack.Proofs.Reconcile.Decision
import MonitoringStack.Proofs.Store.Operations

namespace MonitoringStack

open Kube Ownership Store

def Binding.instanceKey (b : Binding) : Key := ⟨systemNamespace, b.name⟩

def Binding.labelsOver (b : Binding) (existing : Labels) : Labels :=
  lay (lay (lay existing appLabel apiGroup) bindingLabel b.name) bindingNamespaceLabel b.ns

namespace Desired

section OfBinding

variable {build : SpecBuilder} {binding : Binding} {built : InstanceSpec} {d : Desired}

theorem ofBinding_of_ok (h : build binding = .ok built) :
    ∃ d, ofBinding build binding = .ok d ∧ d.spec = built :=
  ⟨_, by rw [ofBinding, h], rfl⟩

theorem instanceKey_eq (h : ofBinding build binding = .ok d) :
    d.instanceKey = binding.instanceKey := by
  obtain ⟨hbinding, -, -⟩ := d.ofBinding_eq h
  rw [instanceKey, hbinding]
  rfl

theorem laidOver_labels (h : ofBinding build binding = .ok d) (existing : Labels) :
    laidOver d.labels existing = binding.labelsOver existing := by
  obtain ⟨-, hlabels, -⟩ := d.ofBinding_eq h
  rw [hlabels, labels_laidOver]
  rfl

theorem agrees_iff (h : ofBinding build binding = .ok d) (i : MonitoringInstance) :
    d.Agrees i ↔ i.metadata.labels = some (binding.labelsOver (i.metadata.labels.getD ∅)) ∧
      i.spec = d.spec.laidOver i.spec := by
  rw [Agrees, laidOver_labels h, eq_comm (a := d.spec.laidOver i.spec)]
  refine and_congr_left fun _ => ?_
  cases i.metadata.labels with
  | some labels => simp [eq_comm]
  | none =>
    -- the first label always has a value, so some label is laid
    have hget : (binding.labelsOver ∅).get? appLabel = some apiGroup := by
      simp [Binding.labelsOver, get?_lay, appLabel, bindingLabel, bindingNamespaceLabel, apiGroup]
    refine iff_of_false (fun heq => ?_) (by simp)
    rw [show binding.labelsOver ∅ = ∅ from heq] at hget
    simp at hget

end OfBinding

variable (d : Desired)

theorem identity_of_key {i : MonitoringInstance} (hkey : Key.of i = d.instanceKey)
    (hname : d.binding.name ≠ "") : identity i = .ok (Key.of i) := by
  apply identity_eq
  · rw [hkey]
    exact (by decide : systemNamespace ≠ "")
  · rwa [hkey]

end Desired

namespace Reconcile

variable {build : SpecBuilder} {binding : Binding} {d : Desired} {s : Store MonitoringInstance}

/-- A pass over a store that nothing is wrong with decides on what is stored. -/
theorem run_eq (hd : Desired.ofBinding build binding = .ok d) (hf : s.faults = []) :
    run Store.access build binding s =
      match d.decide (s.objects.get? d.instanceKey) with
      | .error e => (.error e, s.logged (.get d.instanceKey))
      | .ok decision => write Store.access decision (s.logged (.get d.instanceKey)) := by
  have hfind : Store.access.find d.instanceKey s =
      (.ok (s.objects.get? d.instanceKey), s.logged (.get d.instanceKey)) := by
    rw [find_eq, lookup_faultless hf]
  unfold run
  simp only [hd, bind, StateT.bind, hfind]
  cases d.decide (s.objects.get? d.instanceKey) <;> rfl

theorem run_of_agrees (hd : Desired.ofBinding build binding = .ok d) (hf : s.faults = [])
    {i : MonitoringInstance} (hget : s.objects.get? d.instanceKey = some i)
    (hopen : OpenTo d.binding.ns i) (ha : d.Agrees i) :
    run Store.access build binding s = (.ok .unchanged, s.logged (.get d.instanceKey)) := by
  rw [run_eq hd hf, hget, d.decide_some hopen, if_pos ha]
  rfl

theorem run_of_differs (hd : Desired.ofBinding build binding = .ok d) (hf : s.faults = [])
    {i : MonitoringInstance} (hget : s.objects.get? d.instanceKey = some i)
    (hopen : OpenTo d.binding.ns i) (ha : ¬ d.Agrees i) :
    run Store.access build binding s =
      write Store.access (.update (d.settle i)) (s.logged (.get d.instanceKey)) := by
  rw [run_eq hd hf, hget, d.decide_some hopen, if_neg ha]

theorem write_create_eq (i : MonitoringInstance) (s : Store MonitoringInstance) :
    write Store.access (.create i) s =
      (match (s.create i).1 with
        | .ok _ => .ok .created
        | .error e => .error (.ofStoreError e), (s.create i).2) := by
  simp only [write, bind, StateT.bind, Store.access]
  rcases s.create i with ⟨reply, s'⟩
  cases reply <;> rfl

theorem write_update_eq (i : MonitoringInstance) (s : Store MonitoringInstance) :
    write Store.access (.update i) s =
      (match (s.update i).1 with
        | .ok _ => .ok .updated
        | .error e => .error (.ofStoreError e), (s.update i).2) := by
  simp only [write, bind, StateT.bind, Store.access]
  rcases s.update i with ⟨reply, s'⟩
  cases reply <;> rfl

theorem run_updates (hd : Desired.ofBinding build binding = .ok d) (hf : s.faults = [])
    (hname : d.binding.name ≠ "") {i : MonitoringInstance}
    (hget : s.objects.get? d.instanceKey = some i) (hkey : Key.of i = d.instanceKey)
    (hopen : OpenTo d.binding.ns i) (ha : ¬ d.Agrees i) :
    ∃ s', run Store.access build binding s = (.ok .updated, s') ∧
      s'.calls = s.calls ++ [.get d.instanceKey, .update d.instanceKey] ∧
      Wrote s s' (s.stampNext i (d.settle i)) := by
  have hcurrent : (s.logged (.get d.instanceKey)).objects.get? (Key.of (d.settle i)) = some i := by
    rw [d.key_settle, hkey]
    exact hget
  have hfault : (s.logged (.get d.instanceKey)).fault? .update (some (Key.of (d.settle i))) = none :=
    fault?_of_faults_eq_nil hf _ _
  have hid : identity (d.settle i) = .ok (Key.of (d.settle i)) := d.identity_of_key hkey hname
  obtain ⟨hok, hcalls, hwrote⟩ := update_current hfault hid hcurrent rfl
  refine ⟨_, ?_, ?_, hwrote.objects, hwrote.nextVersion, hwrote.faults⟩
  · rw [run_of_differs hd hf hget hopen ha, write_update_eq, hok]
  · rw [hcalls, calls_logged, d.key_settle, hkey, List.append_assoc]
    rfl

theorem run_creates (hd : Desired.ofBinding build binding = .ok d) (hf : s.faults = [])
    (hname : binding.name ≠ "") (hget : s.objects.get? d.instanceKey = none) :
    ∃ s', run Store.access build binding s = (.ok .created, s') := by
  obtain ⟨hbinding, -, -⟩ := d.ofBinding_eq hd
  have hid : identity d.newInstance = .ok (Key.of d.newInstance) := by
    refine d.identity_of_key rfl ?_
    rwa [hbinding]
  have hfaults : (s.logged (.get d.instanceKey)).faults = [] := hf
  obtain ⟨hok, -, -⟩ := create_absent hfaults hid hget
  have hwrite := write_create_eq d.newInstance (s.logged (.get d.instanceKey))
  rw [hok] at hwrite
  have hrun := run_eq hd hf
  rw [hget] at hrun
  exact ⟨_, hrun.trans hwrite⟩

theorem run_refused (hd : Desired.ofBinding build binding = .ok d) (hf : s.faults = [])
    {i : MonitoringInstance} (hget : s.objects.get? d.instanceKey = some i) {owner : String}
    (howner : ownerNs? i = some owner) (hne : owner ≠ d.binding.ns) :
    run Store.access build binding s =
      (.error (.invalidInput (d.strangerText owner)), s.logged (.get d.instanceKey)) := by
  rw [run_eq hd hf, hget, d.decide_stranger howner hne]

/-- What a pass does that goes through, by what it found. -/
inductive Ran (d : Desired) (s s' : Store MonitoringInstance) : Outcome → Prop
  | created (absent : s.objects.get? d.instanceKey = none)
      (wrote : Wrote s s' (s.stampNew d.newInstance)) : Ran d s s' .created
  | kept {i : MonitoringInstance} (found : s.objects.get? d.instanceKey = some i)
      (opened : OpenTo d.binding.ns i) (agrees : d.Agrees i)
      (same : s' = s.logged (.get d.instanceKey)) : Ran d s s' .unchanged
  | updated {i : MonitoringInstance} (found : s.objects.get? d.instanceKey = some i)
      (opened : OpenTo d.binding.ns i) (differs : ¬ d.Agrees i)
      (wrote : Wrote s s' (s.stampNext i (d.settle i))) : Ran d s s' .updated

theorem ofBinding_of_run {outcome : Outcome} {s' : Store MonitoringInstance}
    (h : run Store.access build binding s = (.ok outcome, s')) :
    ∃ d, Desired.ofBinding build binding = .ok d := by
  cases hd : Desired.ofBinding build binding with
  | ok d => exact ⟨d, rfl⟩
  | error e =>
    rw [run, hd] at h
    cases h

theorem ran_of_run (hd : Desired.ofBinding build binding = .ok d) (hf : s.faults = [])
    (hown : ∀ key i, s.objects.get? key = some i → Key.of i = key) {outcome : Outcome}
    {s' : Store MonitoringInstance}
    (h : run Store.access build binding s = (.ok outcome, s')) : Ran d s s' outcome := by
  rw [run_eq hd hf] at h
  cases hdecision : d.decide (s.objects.get? d.instanceKey) with
  | error e =>
    rw [hdecision] at h
    cases h
  | ok decision =>
    rw [hdecision] at h
    dsimp only at h
    rcases d.decide_cases hdecision with ⟨hget, rfl⟩ | ⟨i, hget, hopen, ⟨ha, rfl⟩ | ⟨ha, rfl⟩⟩
    · rw [write_create_eq] at h
      rcases (s.logged (.get d.instanceKey)).create_cases d.newInstance with
        ⟨e, hr, -⟩ | ⟨-, hr, hwrote⟩
      · rw [hr] at h
        cases h
      · rw [hr] at h
        cases h
        exact .created hget ⟨hwrote.objects, hwrote.nextVersion, hwrote.faults⟩
    · cases h
      exact .kept hget hopen ha rfl
    · rw [write_update_eq] at h
      rcases (s.logged (.get d.instanceKey)).update_cases (d.settle i) with
        ⟨e, hr, -⟩ | ⟨current, hcurrent, -, hr, hwrote⟩
      · rw [hr] at h
        cases h
      · rw [objects_logged, d.key_settle, hown _ _ hget, hget] at hcurrent
        obtain rfl := Option.some.inj hcurrent
        rw [hr] at h
        cases h
        exact .updated hget hopen ha ⟨hwrote.objects, hwrote.nextVersion, hwrote.faults⟩

/-- The update of a pass is a merge field by field of what was built into what is stored. It never
fails, it touches nothing else, and it is made when it makes a difference. -/
theorem run_merges {built : InstanceSpec} {existing : MonitoringInstance} (hf : s.faults = [])
    (hname : binding.name ≠ "") (hget : s.objects.get? binding.instanceKey = some existing)
    (hkey : Key.of existing = binding.instanceKey)
    (howner : ∀ owner, existing.metadata.label? bindingNamespaceLabel = some owner →
      owner = binding.ns)
    (hbuilt : build binding = .ok built) :
    ∃ outcome s' stored, run Store.access build binding s = (.ok outcome, s') ∧
      s'.objects.get? binding.instanceKey = some stored ∧
      stored.spec = built.laidOver existing.spec ∧
      stored.metadata = { existing.metadata with
        labels := some (binding.labelsOver (existing.metadata.labels.getD ∅))
        resourceVersion := stored.metadata.resourceVersion } ∧
      (∀ key, key ≠ binding.instanceKey → s'.objects.get? key = s.objects.get? key) ∧
      if existing.metadata.labels = some (binding.labelsOver (existing.metadata.labels.getD ∅)) ∧
          existing.spec = built.laidOver existing.spec then
        outcome = .unchanged ∧ s'.objects = s.objects ∧
          s'.calls = s.calls ++ [.get binding.instanceKey]
      else
        outcome = .updated ∧
          s'.calls = s.calls ++ [.get binding.instanceKey, .update binding.instanceKey] := by
  obtain ⟨d, hd, rfl⟩ := Desired.ofBinding_of_ok hbuilt
  obtain ⟨hbinding, -, -⟩ := d.ofBinding_eq hd
  have hopen : OpenTo d.binding.ns existing := by
    rw [hbinding]
    exact howner
  have hagrees := Desired.agrees_iff hd existing
  rw [← Desired.instanceKey_eq hd] at hget hkey ⊢
  by_cases ha : d.Agrees existing
  · refine ⟨_, _, existing, run_of_agrees hd hf hget hopen ha, hget, (hagrees.1 ha).2, ?_,
      fun _ _ => rfl, ?_⟩
    · rw [← (hagrees.1 ha).1]
    · rw [if_pos (hagrees.1 ha)]
      exact ⟨rfl, rfl, rfl⟩
  · obtain ⟨s', hrun, hcalls, hwrote⟩ := run_updates hd hf (by rwa [hbinding]) hget hkey hopen ha
    refine ⟨.updated, s', s.stampNext existing (d.settle existing), hrun, ?_, rfl, ?_, ?_, ?_⟩
    · rw [hwrote.get?_objects, key_stampNext, d.key_settle, if_pos hkey.symm]
    · rw [← Desired.laidOver_labels hd]
      rfl
    · intro key hne
      rw [hwrote.get?_objects, key_stampNext, d.key_settle, hkey, if_neg hne]
    · rw [if_neg (mt hagrees.2 ha)]
      exact ⟨rfl, hcalls⟩

def shopOrders : Binding where
  metadata := { name := some "orders", ns? := some "shop" }
  spec := {}

def storedOrders : MonitoringInstance where
  metadata := { name := some "orders", ns? := some systemNamespace }
  spec := { uri := "https://old", grafana.storage := { size := "1Gi", claims := ["pvc-0"] } }

/-- A builder that has no opinion on the address and makes up claims. -/
def twoGi : SpecBuilder := fun _ =>
  .ok { grafana.storage := { size := "2Gi", claims := ["made-up"] } }

theorem run_merges_twoGi : ∃ s' stored,
    run Store.access twoGi shopOrders (Store.insert {} storedOrders).2 = (.ok .updated, s') ∧
      s'.objects.get? shopOrders.instanceKey = some stored ∧
      stored.spec =
        { uri := "https://old", grafana.storage := { size := "2Gi", claims := ["pvc-0"] } } := by
  obtain ⟨-, hwrote⟩ := Store.insert_wrote {} (a := storedOrders) rfl
  have hkey : Key.of (Store.insert {} storedOrders).1 = shopOrders.instanceKey :=
    Store.key_insert {} storedOrders
  have hget : (Store.insert {} storedOrders).2.objects.get? shopOrders.instanceKey =
      some (Store.insert {} storedOrders).1 := by
    rw [hwrote.get?_objects, if_pos hkey.symm]
  have hlabels : (Store.insert {} storedOrders).1.metadata.labels = none := rfl
  have hbuilt : twoGi shopOrders = .ok _ := rfl
  obtain ⟨outcome, s', stored, hrun, hstored, hspec, -, -, hif⟩ :=
    run_merges hwrote.faults (by decide) hget hkey (by simp [Metadata.label?, hlabels]) hbuilt
  rw [hlabels, if_neg (by simp)] at hif
  obtain ⟨rfl, -⟩ := hif
  exact ⟨s', stored, hrun, hstored, hspec.trans (by decide)⟩

end Reconcile

end MonitoringStack
