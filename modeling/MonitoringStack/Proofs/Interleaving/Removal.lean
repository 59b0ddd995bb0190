import MonitoringStack.Proofs.Cleanup.Batch
import MonitoringStack.Proofs.Interleaving.Ownership

namespace MonitoringStack

open Kube Ownership Store

theorem Ownership.ownerNs?_of_owner? {i : MonitoringInstance} {owner : Key}
    (h : owner? i = some owner) : ownerNs? i = some owner.ns := by
  unfold owner? at h
  split at h
  · rename_i hns
    cases h
    exact hns
  · cases h

/-- What may be left of a cleanup once it has listed. -/
inductive Pass.Clearing (binding ns : String) (listed : List MonitoringInstance) : Pass → Prop
  | deletes (deleted : Nat) {rest : List MonitoringInstance} (subset : rest ⊆ listed) :
      Clearing binding ns listed
        ⟨.cleanup binding ns, Cleanup.deleteEach Program.access binding deleted rest⟩
  | done (result : Except OperatorError Nat) :
      Clearing binding ns listed ⟨.cleanup binding ns, .done result⟩

namespace Pass.Clearing

variable {binding ns : String} {listed : List MonitoringInstance}

theorem afterList (reply : Except StoreError (List MonitoringInstance))
    (h : ∀ instances, reply = .ok instances → instances ⊆ listed) :
    Clearing binding ns listed ⟨.cleanup binding ns, Cleanup.afterList binding reply⟩ := by
  cases reply with
  | error e => exact .done _
  | ok instances => exact .deletes 0 (h instances rfl)

theorem afterDelete {deleted : Nat} {rest : List MonitoringInstance} (hrest : rest ⊆ listed)
    (reply : Except StoreError Unit) :
    Clearing binding ns listed
      ⟨.cleanup binding ns, Cleanup.afterDelete binding deleted rest reply⟩ := by
  unfold Cleanup.afterDelete
  cases reply with
  | ok => exact .deletes (deleted + 1) hrest
  | error e =>
    dsimp only
    split
    · exact .deletes deleted hrest
    · split
      · exact .done _
      · exact .done _

end Pass.Clearing

namespace World

variable {w : World} {n : Nat} {p : Pass} {binding ns : String}
  {listed : List MonitoringInstance}

theorem passes_step (hn : w.passes[n]? = some p) {step : Step} (hne : step ≠ .advance n) :
    (w.step step).passes[n]? = some p := by
  cases step with
  | start job =>
    obtain ⟨hlt, -⟩ := List.getElem?_eq_some_iff.1 hn
    exact (List.getElem?_append_left hlt).trans hn
  | advance m =>
    have hm : m ≠ n := by
      rintro rfl
      exact hne rfl
    exact (w.passes_advance_of_ne hm).trans hn
  | assign | modify | insert | delete | inject => exact hn

theorem step_deleteEach {deleted : Nat} {i : MonitoringInstance} {rest : List MonitoringInstance}
    (hn : w.passes[n]? = some
      ⟨.cleanup binding ns, Cleanup.deleteEach Program.access binding deleted (i :: rest)⟩) :
    (w.step (.advance n)).passes = w.passes.set n
        ⟨.cleanup binding ns, Cleanup.afterDelete binding deleted rest (w.store.delete i.address).1⟩ ∧
      (w.step (.advance n)).store = (w.store.delete i.address).2 := by
  rw [World.step, hn]
  exact ⟨rfl, rfl⟩

theorem step_clearing (hn : w.passes[n]? = some p) (hp : p.Clearing binding ns listed)
    (step : Step) :
    ∃ q, (w.step step).passes[n]? = some q ∧ q.Clearing binding ns listed := by
  by_cases hstep : step = .advance n
  · subst hstep
    cases hp with
    | done result => exact ⟨_, (step_ended hn).symm ▸ hn, .done result⟩
    | @deletes deleted rest hrest =>
      cases rest with
      | nil => exact ⟨_, (step_ended hn).symm ▸ hn, .done _⟩
      | cons i rest =>
        obtain ⟨hlt, -⟩ := List.getElem?_eq_some_iff.1 hn
        obtain ⟨hpasses, -⟩ := step_deleteEach hn
        rw [hpasses, List.getElem?_set_self hlt]
        exact ⟨_, rfl, .afterDelete (List.cons_subset.1 hrest).2 _⟩
  · exact ⟨p, passes_step hn hstep, hp⟩

theorem run_clearing (hn : w.passes[n]? = some p) (hp : p.Clearing binding ns listed)
    (steps : List Step) :
    ∃ q, (w.run steps).passes[n]? = some q ∧ q.Clearing binding ns listed := by
  induction steps generalizing w p with
  | nil => exact ⟨p, hn, hp⟩
  | cons step steps ih =>
    obtain ⟨q, hq, hclearing⟩ := step_clearing hn hp step
    exact ih hq hclearing

theorem removed_of_clearing (hn : w.passes[n]? = some p) (hp : p.Clearing binding ns listed)
    {key : Key} {j : MonitoringInstance} (hget : w.store.objects.get? key = some j)
    (hgone : (w.step (.advance n)).store.objects.get? key = none) :
    ∃ i ∈ listed, i.address = key := by
  have hmoves : w.step (.advance n) ≠ w := by
    intro hsame
    rw [hsame, hget] at hgone
    cases hgone
  cases hp with
  | done result => exact absurd (step_ended hn) hmoves
  | @deletes deleted rest hrest =>
    cases rest with
    | nil => exact absurd (step_ended hn) hmoves
    | cons i rest =>
      obtain ⟨-, hstore⟩ := step_deleteEach hn
      refine ⟨i, (List.cons_subset.1 hrest).1, ?_⟩
      by_cases hkey : key = i.address
      · exact hkey.symm
      · rw [hstore, get?_delete, if_neg (by simp [hkey]), hget] at hgone
        cases hgone

theorem step_list (hn : w.passes[n]? = some (.ofJob (.cleanup binding ns))) :
    (w.step (.advance n)).passes = w.passes.set n
        ⟨.cleanup binding ns, Cleanup.afterList binding
          (w.store.list none (Cleanup.selectOwned binding ns)).1⟩ ∧
      (w.step (.advance n)).store.objects = w.store.objects ∧
      (w.step (.advance n)).history = w.history := by
  have hcall : w.step (.advance n) = w.call n (.cleanup binding ns)
      (.list none (Cleanup.selectOwned binding ns)) (Cleanup.afterList binding) := by
    rw [World.step, hn]
    rfl
  rw [hcall]
  refine ⟨rfl, ?_, List.append_nil _⟩
  change (w.store.list none (Cleanup.selectOwned binding ns)).2.objects = _
  rw [list_snd, objects_logged]

theorem clearing_step_list (hn : w.passes[n]? = some (.ofJob (.cleanup binding ns))) :
    ∃ p, (w.step (.advance n)).passes[n]? = some p ∧
      p.Clearing binding ns (w.store.matching none (Cleanup.selectOwned binding ns)) := by
  obtain ⟨hlt, -⟩ := List.getElem?_eq_some_iff.1 hn
  obtain ⟨hpasses, -, -⟩ := step_list hn
  rw [hpasses, List.getElem?_set_self hlt]
  refine ⟨_, rfl, .afterList _ fun instances hreply => ?_⟩
  unfold list at hreply
  dsimp only at hreply
  split at hreply
  · cases hreply
  · cases hreply
    exact List.Subset.refl _

/-- A cleanup goes by the names that it has listed. Each was an instance of its binding's then, and
still is when it goes, unless it has been removed in between and its name taken by another. -/
theorem removes_listed (hw : w.Reachable) (hplaced : w.store.Placed)
    (hn : w.passes[n]? = some (.ofJob (.cleanup binding ns))) (steps : List Step) {key : Key}
    {j : MonitoringInstance}
    (hget : ((w.step (.advance n)).run steps).store.objects.get? key = some j)
    (hgone : (((w.step (.advance n)).run steps).step (.advance n)).store.objects.get? key = none) :
    (∃ i, w.store.objects.get? key = some i ∧ owner? i = some ⟨ns, binding⟩) ∧
      ((∀ step ∈ steps, step.KeepsOwners) → ownerNs? j = some ns ∨
        ∃ events, ((w.step (.advance n)).run steps).history = w.history ++ events ∧
          .removed key ∈ events) := by
  -- whatever happens in between, the pass goes on through what it has listed
  obtain ⟨-, hobjects, hhistory⟩ := step_list hn
  obtain ⟨p, hp, hclearing⟩ := clearing_step_list hn
  obtain ⟨q, hq, hclearing⟩ := run_clearing hp hclearing steps
  obtain ⟨i, hi, haddress⟩ := removed_of_clearing hq hclearing hget hgone
  have hpicked : key ∈ w.store.picks (Cleanup.selectOwned binding ns) := by
    rw [← MonitoringInstance.map_address_matching hplaced.addressed, ← haddress]
    exact List.mem_map_of_mem hi
  obtain ⟨i, hstored, hmatches⟩ := (mem_picks _ _).1 hpicked
  have howner : owner? i = some ⟨ns, binding⟩ :=
    (Cleanup.matches_selectOwned binding ns i).1 hmatches
  refine ⟨⟨i, hstored, howner⟩, fun hsteps => ?_⟩
  have howned : (w.step (.advance n)).Owned key ns :=
    ⟨i, by rw [hobjects, hstored], ownerNs?_of_owner? howner⟩
  have hconsistent := step_consistent hw.consistent (show Step.Lawful (.advance n) from trivial)
  obtain ⟨events, hevents, hremoved | ⟨k, hk, hkowner⟩⟩ := run_keepsOwner hconsistent howned hsteps
  · exact .inr ⟨events, by rw [hevents, hhistory], hremoved⟩
  · rw [hget] at hk
    cases hk
    exact .inl hkowner

def ordersOf (ns : String) : Binding := { Reconcile.shopOrders with metadata.ns? := some ns }

def listing : World := World.run {}
  [.start (.reconcile Reconcile.twoGi (ordersOf "shop")), .advance 0, .advance 0,
    .start (.cleanup "orders" "shop")]

/-- The instance is deleted by hand, and its name is taken for the instance of another binding. -/
def overtaking : List Step :=
  [.delete ⟨systemNamespace, "orders"⟩,
    .start (.reconcile Reconcile.twoGi (ordersOf "bazaar")), .advance 2, .advance 2]

def overtaken : World := (listing.step (.advance 1)).run overtaking

theorem removes_listed_overtaken :
    (∃ i, listing.store.objects.get? ⟨systemNamespace, "orders"⟩ = some i ∧
      owner? i = some ⟨"shop", "orders"⟩) ∧
    ∃ events, overtaken.history = listing.history ++ events ∧
      .removed ⟨systemNamespace, "orders"⟩ ∈ events := by
  have hreachable : listing.Reachable := ⟨_, by simp [Step.Lawful], rfl⟩
  have hplaced : listing.store.Placed := by
    intro key i hget
    have hmem := listing.store.objects.get?_eq_some_iff.1 hget
    obtain ⟨rfl, rfl⟩ := Prod.mk.inj (List.mem_singleton.1 hmem)
    rfl
  have hget : overtaken.store.objects.get? ⟨systemNamespace, "orders"⟩ = some _ := rfl
  obtain ⟨hlisted, hkept⟩ := removes_listed hreachable hplaced rfl overtaking hget rfl
  refine ⟨hlisted, (hkept (by simp [overtaking, Step.KeepsOwners])).resolve_left ?_⟩
  intro howner
  exact absurd (Option.some.inj howner) (by decide)

theorem removes_stranger : overtaken.passes[1]?.map (·.job) = some (.cleanup "orders" "shop") ∧
    overtaken.Owned ⟨systemNamespace, "orders"⟩ "bazaar" ∧
    (overtaken.step (.advance 1)).store.objects.get? ⟨systemNamespace, "orders"⟩ = none :=
  ⟨rfl, ⟨_, rfl, rfl⟩, rfl⟩

end World

end MonitoringStack
