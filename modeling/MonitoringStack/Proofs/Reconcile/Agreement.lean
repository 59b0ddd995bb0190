import MonitoringStack.Proofs.Cleanup.Clearance
import MonitoringStack.Proofs.Reconcile.Settled
import MonitoringStack.Proofs.Reconcile.Written

namespace MonitoringStack

open Kube Ownership Store

theorem Ownership.ne_of_get?_labels {binding ns key value : String} (hname : binding ≠ "")
    (hns : ns ≠ "") (h : (labels binding ns).get? key = some value) : value ≠ "" := by
  have hmem := (labels binding ns).get?_eq_some_iff.1 h
  rw [entries_labels] at hmem
  simp only [List.mem_cons, Prod.mk.injEq, List.not_mem_nil, or_false] at hmem
  rcases hmem with ⟨-, rfl⟩ | ⟨-, rfl⟩ | ⟨-, rfl⟩
  · decide
  · exact hname
  · exact hns

/-- What has no name of its own, only that of a binding's instance as the stem of one, and is labelled
as an instance of that binding. -/
structure Stray (ns name : String) (i : MonitoringInstance) : Prop where
  owned : owner? i = some ⟨ns, name⟩
  placed : i.metadata.ns? = some systemNamespace
  unnamed : i.metadata.name = none
  stem : i.metadata.generateName = some name

namespace MonitoringInstance

variable {i : MonitoringInstance}

theorem address_eq_instanceKey {name : String} (hname : name ≠ "")
    (hunnamed : i.metadata.name = none) : i.address = ⟨systemNamespace, name⟩ ↔
      i.metadata.ns? = some systemNamespace ∧ i.metadata.generateName = some name := by
  have hparts : i.address = ⟨systemNamespace, name⟩ ↔
      i.metadata.ns?.getD "" = systemNamespace ∧ i.metadata.generateName.getD "" = name := by
    rw [address, Metadata.nameOrStem, hunnamed, Key.mk.injEq]
    rfl
  have hsystem : systemNamespace ≠ "" := by decide
  rw [hparts]
  cases i.metadata.ns? <;> cases i.metadata.generateName <;> simp [hname.symm, hsystem.symm]

end MonitoringInstance

namespace Desired

variable {build : SpecBuilder} {binding : Binding} {d : Desired} {i : MonitoringInstance}

theorem label?_of_agrees (hd : ofBinding build binding = .ok d) (ha : d.Agrees i)
    {key value : String} (hget : (Ownership.labels binding.name binding.ns).get? key = some value)
    (hv : value ≠ "") : i.metadata.label? key = some value := by
  obtain ⟨-, hlabels, -⟩ := d.ofBinding_eq hd
  rw [← get?_getD_labels]
  rw [← hlabels] at hget
  exact laidOver_eq_self.1 ha.1 key value hget hv

theorem label?_newInstance (hd : ofBinding build binding = .ok d) {key : String}
    (hkey : key ∉ Ownership.keys) : d.newInstance.metadata.label? key = none := by
  obtain ⟨-, hlabels, -⟩ := d.ofBinding_eq hd
  change d.labels.get? key = none
  rw [hlabels]
  cases hget : (Ownership.labels binding.name binding.ns).get? key with
  | none => rfl
  | some value => exact absurd (mem_keys_of_get? hget) hkey

theorem label?_settle (hd : ofBinding build binding = .ok d) (i : MonitoringInstance) {key : String}
    (hkey : key ∉ Ownership.keys) :
    (d.settle i).metadata.label? key = i.metadata.label? key := by
  change (laidOver d.labels (i.metadata.labels.getD ∅)).get? key = _
  have hnone : d.labels.get? key = none := label?_newInstance hd hkey
  rw [get?_laidOver, hnone, get?_getD_labels]

end Desired

namespace Reconcile

variable {build : SpecBuilder} {binding : Binding} {d : Desired} {s s' : Store MonitoringInstance}
  {outcome : Outcome} {i : MonitoringInstance}

theorem Ran.label? (hd : Desired.ofBinding build binding = .ok d)
    (hown : ∀ key i, s.objects.get? key = some i → Key.of i = key) (h : Ran d s s' outcome)
    (hget : s'.objects.get? d.instanceKey = some i) {key : String} (hkey : key ∉ Ownership.keys) :
    i.metadata.label? key =
      (s.objects.get? d.instanceKey).bind fun found => found.metadata.label? key := by
  cases h with
  | created absent wrote =>
    have hself : d.instanceKey = Key.of (s.stampNew d.newInstance) :=
      (key_stampNew s d.newInstance).symm
    rw [wrote.get?_objects, if_pos hself] at hget
    obtain rfl := Option.some.inj hget
    rw [absent]
    exact Desired.label?_newInstance hd hkey
  | kept found _ _ same =>
    subst same
    obtain rfl := Option.some.inj (found.symm.trans hget)
    rw [found]
    rfl
  | @updated j found _ _ wrote =>
    have hself : d.instanceKey = Key.of (s.stampNext j (d.settle j)) := by
      rw [key_stampNext, d.key_settle, hown _ _ found]
    rw [wrote.get?_objects, if_pos hself] at hget
    obtain rfl := Option.some.inj hget
    rw [found]
    exact Desired.label?_settle hd j hkey

theorem Ran.keyed (hown : ∀ key i, s.objects.get? key = some i → Key.of i = key)
    (h : Ran d s s' outcome) : ∀ key i, s'.objects.get? key = some i → Key.of i = key := by
  cases h with
  | created absent wrote => exact wrote.keyed hown
  | kept _ _ _ same =>
    subst same
    exact hown
  | updated _ _ _ wrote => exact wrote.keyed hown

/-- An instance is its binding's to all who read its labels: to the watch, to passes for bindings of
the same name, and to cleanup, which takes it for no other binding's unless a stray has its name. -/
structure Belongs (build : SpecBuilder) (binding : Binding) (s : Store MonitoringInstance)
    (i : MonitoringInstance) : Prop where
  labels : ∀ key value, (Ownership.labels binding.name binding.ns).get? key = some value →
    i.metadata.label? key = some value
  watched : owner? i = some ⟨binding.ns, binding.name⟩
  refused : ∀ build' other built, other.name = binding.name → other.ns ≠ binding.ns →
    build' other = .ok built → ∃ detail, run Store.access build' other s =
      (.error (.invalidInput detail), s.logged (.get binding.instanceKey))
  spared : ∀ ns, ns ≠ binding.ns →
    ((Cleanup.deleteOwned Store.access binding.name ns s).2.objects.get? binding.instanceKey =
        some i ↔
      ∀ key j, s.objects.get? key = some j → ¬ Stray ns binding.name j)
  removed : ∃ deleted s',
    Cleanup.deleteOwned Store.access binding.name binding.ns s = (.ok deleted, s') ∧
    s'.objects.get? binding.instanceKey = none ∧
    ∃ s'', run Store.access build binding s' = (.ok .created, s'')

section Settled

variable (hname : binding.name ≠ "")
  (hown : ∀ key i, s.objects.get? key = some i → Key.of i = key)
  (hget : s.objects.get? binding.instanceKey = some i)
include hname hown hget

theorem address_of_stored : i.address = binding.instanceKey := by
  have hkey := hown _ _ hget
  cases hmeta : i.metadata.name with
  | some name => rw [MonitoringInstance.address_of_name hmeta, hkey]
  | none =>
    have hempty : (Key.of i).name = "" := by
      change i.metadata.name.getD "" = ""
      rw [hmeta]
      rfl
    rw [hkey] at hempty
    exact absurd hempty hname

theorem spared_iff (hf : s.faults = []) (howner : owner? i = some ⟨binding.ns, binding.name⟩)
    {ns : String} (hns : ns ≠ binding.ns) :
    (Cleanup.deleteOwned Store.access binding.name ns s).2.objects.get? binding.instanceKey =
        some i ↔
      ∀ key j, s.objects.get? key = some j → ¬ Stray ns binding.name j := by
  have hclears := Cleanup.deleteOwned_clears (s := s) binding.name ns
  constructor
  · intro hkept key j hj hstray
    obtain ⟨deleted, hok, -⟩ :=
      Cleanup.deleteSelected_completes hf binding.name (Cleanup.selectOwned binding.name ns)
    have hgone := hclears.clears deleted hok (honest_of_faults (by simp [hf])) key j hj hstray.owned
    have haddress : j.address = binding.instanceKey :=
      (MonitoringInstance.address_eq_instanceKey hname hstray.unnamed).2
        ⟨hstray.placed, hstray.stem⟩
    rw [haddress, hkept] at hgone
    cases hgone
  · intro hnone
    refine hclears.spares _ _ hget fun key j hj hpicked haddress => ?_
    cases hmeta : j.metadata.name with
    | none =>
      obtain ⟨hplaced, hstem⟩ := (MonitoringInstance.address_eq_instanceKey hname hmeta).1 haddress
      exact hnone key j hj ⟨hpicked, hplaced, hmeta, hstem⟩
    | some name =>
      -- an instance with a name stands where it leads to, and there is the binding's own
      have hkey : key = binding.instanceKey := by
        rw [← hown key j hj, ← MonitoringInstance.address_of_name hmeta, haddress]
      rw [hkey, hget] at hj
      obtain rfl := Option.some.inj hj
      rw [howner] at hpicked
      exact hns (Key.mk.inj (Option.some.inj hpicked)).1.symm

end Settled

theorem belongs_of_settled (hd : Desired.ofBinding build binding = .ok d)
    (hname : binding.name ≠ "") (hns : binding.ns ≠ "")
    (hown : ∀ key i, s.objects.get? key = some i → Key.of i = key) (h : d.Settled s)
    (hget : s.objects.get? d.instanceKey = some i) : Belongs build binding s i := by
  obtain ⟨hbinding, -, -⟩ := d.ofBinding_eq hd
  obtain ⟨j, hj, -, -, ha⟩ := h.stored
  obtain rfl : j = i := Option.some.inj (hj.symm.trans hget)
  have hlabels : ∀ key value, (Ownership.labels binding.name binding.ns).get? key = some value →
      j.metadata.label? key = some value := by
    intro key value hkey
    exact Desired.label?_of_agrees hd ha hkey (ne_of_get?_labels hname hns hkey)
  have howner : ownerNs? j = some binding.ns := hlabels _ _ (get?_bindingNamespaceLabel _ _)
  have hwatch : owner? j = some ⟨binding.ns, binding.name⟩ := by
    rw [owner?, howner, hlabels _ _ (get?_bindingLabel _ _)]
  rw [Desired.instanceKey_eq hd] at hget
  refine ⟨hlabels, hwatch, ?_, fun ns hother => spared_iff hname hown hget h.faults hwatch hother,
    ?_⟩
  · intro build' other built hsame hother hbuilt
    obtain ⟨d', hd', -⟩ := Desired.ofBinding_of_ok hbuilt
    obtain ⟨hbinding', -, -⟩ := d'.ofBinding_eq hd'
    have hkey : d'.instanceKey = binding.instanceKey := by
      rw [Desired.instanceKey_eq hd', Binding.instanceKey, Binding.instanceKey, hsame]
    have hne : binding.ns ≠ d'.binding.ns := by
      rw [hbinding']
      exact hother.symm
    have hrun := run_refused hd' h.faults (hkey ▸ hget) howner hne
    rw [hkey] at hrun
    exact ⟨_, hrun⟩
  · obtain ⟨deleted, hok, hfaults⟩ := Cleanup.deleteSelected_completes h.faults binding.name
      (Cleanup.selectOwned binding.name binding.ns)
    have hgone := (Cleanup.deleteOwned_clears binding.name binding.ns).clears deleted hok
      (honest_of_faults (by simp [h.faults])) _ _ hget hwatch
    rw [address_of_stored hname hown hget] at hgone
    refine ⟨deleted, _, Prod.ext hok rfl, hgone, ?_⟩
    apply run_creates hd hfaults hname
    rwa [Desired.instanceKey_eq hd]

/-- After a pass that goes through, all agree on whose the instance is. -/
theorem run_belongs (hname : binding.name ≠ "") (hns : binding.ns ≠ "") (hf : s.faults = [])
    (hown : ∀ key i, s.objects.get? key = some i → Key.of i = key)
    (h : run Store.access build binding s = (.ok outcome, s')) :
    ∃ i, s'.objects.get? binding.instanceKey = some i ∧ Belongs build binding s' i ∧
      ∀ key, key ∉ Ownership.keys → i.metadata.label? key =
        (s.objects.get? binding.instanceKey).bind fun found => found.metadata.label? key := by
  obtain ⟨d, hd⟩ := ofBinding_of_run h
  have hsettled : d.Settled s' := .of_run hd hf hown h
  have hran := ran_of_run hd hf hown h
  obtain ⟨i, hget, -⟩ := hsettled.stored
  refine ⟨i, ?_, belongs_of_settled hd hname hns (hran.keyed hown) hsettled hget,
    fun key hkey => ?_⟩
  · rwa [Desired.instanceKey_eq hd] at hget
  · rw [← Desired.instanceKey_eq hd]
    exact hran.label? hd hown hget hkey

def teamOrders : MonitoringInstance :=
  { storedOrders with metadata.labels := some (KeyMap.ofList [("team", "a")]) }

theorem run_belongs_teamOrders : ∃ s' i,
    run Store.access twoGi shopOrders (Store.insert {} teamOrders).2 = (.ok .updated, s') ∧
      s'.objects.get? shopOrders.instanceKey = some i ∧ Belongs twoGi shopOrders s' i ∧
      i.metadata.label? "team" = some "a" := by
  have hrun : run Store.access twoGi shopOrders (Store.insert {} teamOrders).2 =
      (.ok .updated, _) := Prod.ext rfl rfl
  obtain ⟨i, hget, hbelongs, hkept⟩ :=
    run_belongs (by decide) (by decide) rfl (Store.keyed_empty.insert rfl) hrun
  exact ⟨_, i, hrun, hget, hbelongs, hkept "team" (by decide)⟩

def strayOrders : MonitoringInstance where
  metadata := {
    ns? := some systemNamespace
    generateName := some "orders"
    labels := some (Ownership.labels "orders" "bazaar") }
  spec := {}

/-- Cleanup goes by the name that a stray has for its stem, and takes the instance of another
binding. -/
theorem stray_takes_instance :
    let s : Store MonitoringInstance := (Store.insert {} strayOrders).2
    let ran := run Store.access twoGi shopOrders s
    s.faults = [] ∧ (∀ key i, s.objects.get? key = some i → Key.of i = key) ∧
      ran.1 = .ok .created ∧
      (ran.2.objects.get? shopOrders.instanceKey).bind owner? = some ⟨"shop", "orders"⟩ ∧
      (Cleanup.deleteOwned Store.access "orders" "bazaar" ran.2).2.objects.get?
        shopOrders.instanceKey = none :=
  ⟨rfl, Store.keyed_empty.insert rfl, rfl, rfl, rfl⟩

end Reconcile

end MonitoringStack
