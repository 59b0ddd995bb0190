import MonitoringStack.Proofs.Reconcile.Pass
import MonitoringStack.Proofs.Resource.Indifference
import MonitoringStack.Proofs.Store.Versions

namespace MonitoringStack

open Kube Ownership Store

/-- An edit that is nothing to a pass that has built a spec. -/
structure Harmless (built : InstanceSpec) (before after : MonitoringInstance) : Prop where
  metadata : after.metadata = { before.metadata with
    labels := after.metadata.labels
    annotations := after.metadata.annotations }
  labels : ∀ key ∈ Ownership.keys, after.metadata.label? key = before.metadata.label? key
  spec : built.IndifferentTo before.spec after.spec

namespace Harmless

variable {built : InstanceSpec} {before after : MonitoringInstance}

theorem key (h : Harmless built before after) : Key.of after = Key.of before := by
  change Key.mk after.metadata.namespaceOrEmpty (after.metadata.name.getD "") = _
  rw [h.metadata]
  rfl

theorem openTo (h : Harmless built before after) {ns : String} (hopen : OpenTo ns before) :
    OpenTo ns after := by
  intro owner howner
  apply hopen
  rw [← howner, ownerNs?, ownerNs?, h.labels _ (by simp [keys])]

theorem agrees {build : SpecBuilder} {binding : Binding} {d : Desired}
    (hd : Desired.ofBinding build binding = .ok d) (h : Harmless d.spec before after)
    (ha : d.Agrees before) : d.Agrees after := by
  obtain ⟨-, hlabels, -⟩ := d.ofBinding_eq hd
  refine ⟨laidOver_eq_self.2 fun key value hget hv => ?_,
    InstanceSpec.laidOver_of_indifferent ha.2 h.spec⟩
  have hkey : key ∈ keys := by
    rw [hlabels] at hget
    exact mem_keys_of_get? hget
  rw [get?_getD_labels, h.labels key hkey, ← get?_getD_labels]
  exact laidOver_eq_self.1 ha.1 key value hget hv

end Harmless

namespace Desired

variable {build : SpecBuilder} {binding : Binding} {d : Desired} {s s' : Store MonitoringInstance}

/-- The store holds an instance that a pass has nothing to do for. -/
structure Settled (d : Desired) (s : Store MonitoringInstance) : Prop where
  faults : s.faults = []
  stored : ∃ i, s.objects.get? d.instanceKey = some i ∧ Key.of i = d.instanceKey ∧
    OpenTo d.binding.ns i ∧ d.Agrees i

theorem Settled.of_wrote {i : MonitoringInstance} (hf : s.faults = []) (h : Wrote s s' i)
    (hkey : Key.of i = d.instanceKey) (hopen : OpenTo d.binding.ns i) (ha : d.Agrees i) :
    d.Settled s' := by
  refine ⟨h.faults.trans hf, i, ?_, hkey, hopen, ha⟩
  rw [h.get?_objects, if_pos hkey.symm]

/-- What a pass writes is what later passes have nothing to do for. -/
theorem Settled.of_run (hd : ofBinding build binding = .ok d) (hf : s.faults = [])
    (hown : ∀ key i, s.objects.get? key = some i → Key.of i = key) {outcome : Outcome}
    (h : Reconcile.run Store.access build binding s = (.ok outcome, s')) : d.Settled s' := by
  cases Reconcile.ran_of_run hd hf hown h with
  | created habsent hwrote =>
    exact .of_wrote hf hwrote (key_stampNew _ _) (openTo_newInstance hd) d.agrees_newInstance
  | kept hget hopen ha hsame =>
    subst hsame
    exact ⟨hf, _, hget, hown _ _ hget, hopen, ha⟩
  | @updated i hget hopen hdiffers hwrote =>
    have hkey : Key.of (d.settle i) = d.instanceKey := (d.key_settle i).trans (hown _ _ hget)
    exact .of_wrote hf hwrote ((key_stampNext _ _ _).trans hkey) (openTo_settle hd hopen)
      (d.agrees_settle _)

theorem Settled.run (hd : ofBinding build binding = .ok d) (h : d.Settled s) :
    Reconcile.run Store.access build binding s =
      (.ok .unchanged, s.logged (.get d.instanceKey)) := by
  obtain ⟨i, hget, -, hopen, ha⟩ := h.stored
  exact Reconcile.run_of_agrees hd h.faults hget hopen ha

theorem Settled.logged (h : d.Settled s) (call : StoreCall) : d.Settled (s.logged call) :=
  ⟨h.faults, h.stored⟩

theorem Settled.modify (hd : ofBinding build binding = .ok d) (h : d.Settled s)
    {edit : MonitoringInstance → MonitoringInstance} (hedit : ∀ i, Harmless d.spec i (edit i)) :
    d.Settled (s.modify d.instanceKey edit).2 := by
  obtain ⟨i, hget, hkey, hopen, ha⟩ := h.stored
  rcases s.modify_cases d.instanceKey edit with ⟨hnone, -, -⟩ | ⟨j, hj, -, hwrote⟩
  · rw [hget] at hnone
    cases hnone
  · obtain rfl : i = j := Option.some.inj (hget.symm.trans hj)
    have hafter : Key.of (edit i) = d.instanceKey := (hedit i).key.trans hkey
    have hagrees : d.Agrees (edit i) := (hedit i).agrees hd ha
    exact .of_wrote h.faults (hwrote hafter) ((key_withVersion _ _).trans hafter)
      ((hedit i).openTo hopen) hagrees

end Desired

namespace Reconcile

abbrev Edits := List (MonitoringInstance → MonitoringInstance)

def edited (key : Key) (edits : Edits) (s : Store MonitoringInstance) : Store MonitoringInstance :=
  edits.foldl (fun s edit => (s.modify key edit).2) s

def afterRounds (build : SpecBuilder) (binding : Binding) (rounds : List Edits)
    (s : Store MonitoringInstance) : Store MonitoringInstance :=
  rounds.foldl
    (fun s edits => (run Store.access build binding (edited binding.instanceKey edits s)).2) s

variable {build : SpecBuilder} {binding : Binding} {d : Desired} {s : Store MonitoringInstance}

theorem settled_edited (hd : Desired.ofBinding build binding = .ok d) (h : d.Settled s)
    {edits : Edits} (hedits : ∀ edit ∈ edits, ∀ i, Harmless d.spec i (edit i)) :
    d.Settled (edited d.instanceKey edits s) := by
  induction edits generalizing s with
  | nil => exact h
  | cons edit edits ih =>
    obtain ⟨hhd, htl⟩ := List.forall_mem_cons.1 hedits
    exact ih (h.modify hd hhd) htl

theorem settled_afterRounds (hd : Desired.ofBinding build binding = .ok d) (h : d.Settled s)
    {rounds : List Edits}
    (hrounds : ∀ edits ∈ rounds, ∀ edit ∈ edits, ∀ i, Harmless d.spec i (edit i)) :
    d.Settled (afterRounds build binding rounds s) := by
  induction rounds generalizing s with
  | nil => exact h
  | cons edits rounds ih =>
    obtain ⟨hhd, htl⟩ := List.forall_mem_cons.1 hrounds
    refine ih ?_ htl
    have hedited := settled_edited hd h hhd
    rw [← Desired.instanceKey_eq hd]
    dsimp only
    rw [hedited.run hd]
    exact hedited.logged _

/-- Once a pass has gone through, nothing is left to do for the next ones, whatever happens in
between to what the operator has no say in. -/
theorem run_after_run {built : InstanceSpec} {outcome : Outcome} {s' : Store MonitoringInstance}
    {rounds : List Edits} {edits : Edits} (hf : s.faults = [])
    (hown : ∀ key i, s.objects.get? key = some i → Key.of i = key)
    (hbuilt : build binding = .ok built)
    (h : run Store.access build binding s = (.ok outcome, s'))
    (hrounds : ∀ edits ∈ rounds, ∀ edit ∈ edits, ∀ i, Harmless built i (edit i))
    (hedits : ∀ edit ∈ edits, ∀ i, Harmless built i (edit i)) :
    let t := edited binding.instanceKey edits (afterRounds build binding rounds s')
    run Store.access build binding t = (.ok .unchanged, t.logged (.get binding.instanceKey)) := by
  obtain ⟨d, hd, rfl⟩ := Desired.ofBinding_of_ok hbuilt
  have hsettled : d.Settled s' := .of_run hd hf hown h
  have hrounded := settled_afterRounds hd hsettled hrounds
  rw [← Desired.instanceKey_eq hd]
  exact (settled_edited hd hrounded hedits).run hd

def moved (i : MonitoringInstance) : MonitoringInstance :=
  { i with
    metadata.annotations := some ∅
    spec.uri := "https://new"
    spec.grafana.storage.claims := ["pvc-1"] }

theorem run_after_run_moved : ∃ s',
    run Store.access twoGi shopOrders (Store.insert {} storedOrders).2 = (.ok .updated, s') ∧
      let t := edited shopOrders.instanceKey [moved] (afterRounds twoGi shopOrders [[moved]] s')
      run Store.access twoGi shopOrders t =
        (.ok .unchanged, t.logged (.get shopOrders.instanceKey)) := by
  have hrun : run Store.access twoGi shopOrders (Store.insert {} storedOrders).2 =
      (.ok .updated, _) := Prod.ext rfl rfl
  have hstamped : Stamped (Store.insert {} storedOrders).2 :=
    (Store.insert_evolves {} rfl).stamped stamped_empty
  have hmoved : ∀ i, Harmless { grafana.storage := { size := "2Gi", claims := ["made-up"] } } i
      (moved i) := by
    intro i
    refine ⟨rfl, fun _ _ => rfl, ?_⟩
    constructor
    case uri => exact fun h => absurd rfl h
    case grafana => exact ⟨fun _ => rfl, ⟨fun _ => rfl⟩, fun _ => rfl, ⟨fun _ => rfl⟩⟩
    case prometheus => exact ⟨fun _ => rfl, ⟨fun _ => rfl⟩, ⟨fun _ => rfl⟩⟩
    case elasticsearch =>
      exact ⟨fun _ => rfl, ⟨fun _ => rfl⟩, ⟨fun _ => rfl, ⟨fun _ => rfl⟩⟩,
        ⟨fun _ => rfl, ⟨fun _ => rfl⟩⟩, ⟨fun _ => rfl, ⟨fun _ => rfl⟩⟩⟩
    case kibana => exact ⟨fun _ => rfl, ⟨fun _ => rfl⟩⟩
    all_goals exact fun _ => rfl
  refine ⟨_, hrun, run_after_run rfl (fun key i hget => (hstamped key i hget).1) rfl hrun ?_ ?_⟩
  · simpa using hmoved
  · simpa using hmoved

end Reconcile

end MonitoringStack
