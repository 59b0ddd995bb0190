import MonitoringStack.Proofs.Interleaving.Consistency
import MonitoringStack.Proofs.Reconcile.Settled

namespace MonitoringStack

open Kube Ownership Store

/-- Others leave the identity of an instance and the operator's own labels alone, and make no
instances themselves. -/
def Step.KeepsOwners : Step → Prop
  | .modify _ change => ∀ i, Key.of (change i) = Key.of i ∧
      ∀ label ∈ Ownership.keys, (change i).metadata.label? label = i.metadata.label? label
  | .insert _ => False
  | _ => True

theorem Step.KeepsOwners.lawful {step : Step} (h : step.KeepsOwners) : step.Lawful := by
  cases step with
  | modify key change => exact fun i => (h i).1
  | insert i => exact h.elim
  | start | advance | assign | delete | inject => trivial

namespace World

variable {w w' : World} {key : Key} {owner : String}

def Owned (w : World) (key : Key) (owner : String) : Prop :=
  ∃ i, w.store.objects.get? key = some i ∧ ownerNs? i = some owner

def KeepsOwner (w w' : World) (key : Key) (owner : String) : Prop :=
  ∃ events, w'.history = w.history ++ events ∧ (.removed key ∈ events ∨ w'.Owned key owner)

/-- A step of a reconcile pass leaves every owner in place, and whatever belongs to another
namespace than the pass's untouched. -/
theorem advance_reconcile (hw : w.Consistent) {n : Nat} {build : SpecBuilder} {binding : Binding}
    {rest : Program (Except OperatorError Outcome)} {i : MonitoringInstance}
    (hn : w.passes[n]? = some ⟨.reconcile build binding, rest⟩)
    (hget : w.store.objects.get? key = some i) (howner : ownerNs? i = some owner) :
    ∃ j, (w.step (.advance n)).store.objects.get? key = some j ∧ ownerNs? j = some owner ∧
      (binding.ns ≠ owner → j = i) := by
  have hsame : ∀ s : Store MonitoringInstance, s.objects.get? key = some i →
      ∃ j, s.objects.get? key = some j ∧ ownerNs? j = some owner ∧ (binding.ns ≠ owner → j = i) :=
    fun s hs => ⟨i, hs, howner, fun _ => rfl⟩
  rw [World.step, hn]
  cases rest with
  | done result => exact hsame _ hget
  | call action next =>
    have hcalling := (hw.passes _ (List.mem_of_getElem? hn)).calling
    change ∃ j, (action.perform w.store).2.objects.get? key = some j ∧ _
    cases hcalling with
    | read hd => exact hsame _ (by rwa [StoreAction.perform, get_snd, objects_logged])
    | @create _ _ d hd =>
      rw [StoreAction.perform]
      rcases w.store.create_cases d.newInstance with ⟨e, -, h⟩ | ⟨hnone, -, h⟩
      · exact hsame _ (by rwa [h.objects])
      · refine hsame _ ?_
        rw [h.get?_objects, key_stampNew, if_neg]
        · exact hget
        · rintro rfl
          rw [hget] at hnone
          cases hnone
    | @update _ _ d j hd hkey hj hopen =>
      rw [StoreAction.perform]
      rcases hj.update_cases hw.stamped (d.key_settle j) rfl with ⟨e, -, h⟩ | ⟨hcurrent, -, h⟩
      · exact hsame _ (by rwa [h.objects])
      · -- the pass goes over what it has read, and it has read whose it is
        by_cases hk : key = Key.of j
        · obtain rfl : i = j := by
            rw [hk, hcurrent] at hget
            exact (Option.some.inj hget).symm
          have hns : owner = binding.ns := by rw [hopen owner howner, (d.ofBinding_eq hd).1]
          have hlaid : ownerNs? (w.store.stampNext i (d.settle i)) = some owner :=
            d.ownerNs?_settle_of_openTo hd hopen howner
          refine ⟨_, ?_, hlaid, fun hne => absurd hns.symm hne⟩
          rw [h.get?_objects, key_stampNext, d.key_settle, if_pos hk]
        · refine hsame _ ?_
          rw [h.get?_objects, key_stampNext, d.key_settle, if_neg hk]
          exact hget

theorem Owned.keepsOwner (h : w'.Owned key owner) {events : List Event}
    (hhistory : w'.history = w.history ++ events) : w.KeepsOwner w' key owner :=
  ⟨events, hhistory, .inr h⟩

theorem Owned.of_eq (h : w.Owned key owner) (hobjects : w'.store.objects = w.store.objects) :
    w'.Owned key owner := by
  rwa [Owned, hobjects]

theorem Owned.delete (h : w.Owned key owner) {key' : Key}
    (hstore : w'.store = (w.store.delete key').2)
    (hhistory : w'.history =
      w.history ++ StoreAction.events (.delete key') (w.store.delete key').1) :
    w.KeepsOwner w' key owner := by
  rcases w.store.delete_cases key' with ⟨e, hr, h'⟩ | ⟨hr, h', -, -⟩
  · exact (h.of_eq (hstore ▸ h'.objects)).keepsOwner hhistory
  · by_cases hkey : key = key'
    · refine ⟨_, hhistory, .inl ?_⟩
      rw [hr, hkey]
      exact List.mem_singleton.2 rfl
    · obtain ⟨i, hget, howner⟩ := h
      refine Owned.keepsOwner ⟨i, ?_, howner⟩ hhistory
      rw [hstore, h', KeyMap.get?_erase_of_ne _ hkey]
      exact hget

theorem Owned.change (h : w.Owned key owner) (hs : Stamped w.store) {key' : Key}
    {f : MonitoringInstance → MonitoringInstance} {event : Event}
    (hkey : ∀ i, Key.of (f i) = Key.of i) (howner : ∀ i, ownerNs? (f i) = ownerNs? i) :
    w.KeepsOwner (w.change key' f event) key owner := by
  refine Owned.keepsOwner ?_ rfl
  obtain ⟨i, hget, hi⟩ := h
  rcases w.store.modify_cases key' f with ⟨-, -, h'⟩ | ⟨j, hj, -, h'⟩
  · exact Owned.of_eq ⟨i, hget, hi⟩ h'.objects
  · obtain ⟨rfl, -⟩ := hs key' j hj
    have hwrote := h' (hkey j)
    by_cases hk : key = Key.of j
    · obtain rfl : i = j := by
        rw [hk, hj] at hget
        exact (Option.some.inj hget).symm
      refine ⟨withVersion (toString w.store.nextVersion) (f i), ?_, (howner i).trans hi⟩
      exact (hwrote.get?_objects key).trans (if_pos (by rw [key_withVersion, hkey, hk]))
    · refine ⟨i, ?_, hi⟩
      exact ((hwrote.get?_objects key).trans
        (if_neg (by rw [key_withVersion, hkey]; exact hk))).trans hget

theorem Owned.advance_cleanup (h : w.Owned key owner) (hw : w.Consistent) {n : Nat}
    {binding ns : String} {rest : Program (Except OperatorError Nat)}
    (hn : w.passes[n]? = some ⟨.cleanup binding ns, rest⟩) :
    w.KeepsOwner (w.step (.advance n)) key owner := by
  rw [World.step, hn]
  cases rest with
  | done result => exact h.keepsOwner (List.append_nil _).symm
  | call action next =>
    have hcalling := (hw.passes _ (List.mem_of_getElem? hn)).calling
    cases hcalling with
    | list => exact Owned.keepsOwner (h.of_eq (by simp [call, StoreAction.perform])) rfl
    | delete => exact h.delete rfl rfl

theorem step_keepsOwner (hw : w.Consistent) (h : w.Owned key owner) {step : Step}
    (hstep : step.KeepsOwners) : w.KeepsOwner (w.step step) key owner := by
  cases step with
  | start job => exact Owned.keepsOwner h (List.append_nil _).symm
  | advance n =>
    rcases hn : w.passes[n]? with _ | ⟨job, rest⟩
    · rw [World.step, hn]
      exact h.keepsOwner (List.append_nil _).symm
    · cases job with
      | reconcile build binding =>
        obtain ⟨i, hget, howner⟩ := h
        obtain ⟨j, hj, hjowner, -⟩ := advance_reconcile hw hn hget howner
        obtain ⟨events, hevents⟩ := w.step_history (.advance n)
        exact ⟨events, hevents, .inr ⟨j, hj, hjowner⟩⟩
      | cleanup binding ns => exact h.advance_cleanup hw hn
  | assign key' given =>
    apply h.change hw.stamped
    · intro i
      rfl
    · intro i
      rfl
  | modify key' f =>
    apply h.change hw.stamped
    · exact fun i => (hstep i).1
    · exact fun i => (hstep i).2 _ (by simp [keys])
  | insert i => exact hstep.elim
  | delete key' => exact h.delete rfl rfl
  | inject faults => exact Owned.keepsOwner h (List.append_nil _).symm

theorem run_keepsOwner (hw : w.Consistent) (h : w.Owned key owner) {steps : List Step}
    (hsteps : ∀ step ∈ steps, step.KeepsOwners) : w.KeepsOwner (w.run steps) key owner := by
  induction steps generalizing w with
  | nil => exact Owned.keepsOwner h (List.append_nil _).symm
  | cons step steps ih =>
    obtain ⟨hhd, htl⟩ := List.forall_mem_cons.1 hsteps
    obtain ⟨events, hevents, hremoved | howned⟩ := step_keepsOwner hw h hhd
    · -- what comes after the removal is of no interest
      obtain ⟨events', hevents'⟩ := (w.step step).run_history steps
      refine ⟨events ++ events', ?_, .inl (List.mem_append_left _ hremoved)⟩
      rw [run_cons, hevents', hevents, List.append_assoc]
    · obtain ⟨events', hevents', hor⟩ := ih (step_consistent hw hhd.lawful) howned htl
      refine ⟨events ++ events', ?_, ?_⟩
      · rw [run_cons, hevents', hevents, List.append_assoc]
      · exact hor.imp_left (List.mem_append_right events)

end World

end MonitoringStack
