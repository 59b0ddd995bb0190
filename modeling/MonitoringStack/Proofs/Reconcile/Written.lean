import MonitoringStack.Proofs.Reconcile.Pass

namespace MonitoringStack

open Kube Ownership Store

namespace Store

variable {s : Store MonitoringInstance} {i : MonitoringInstance}

/-- The states that a reconcile pass for an owner can leave a store in. -/
inductive Written (owner : Key) (s s' : Store MonitoringInstance) : Prop
  | nothing (objects : s'.objects = s.objects)
  | object {i : MonitoringInstance} (owned : owner? i = some owner)
      (objects : s'.objects = s.objects.insert (Key.of i) i)

namespace Written

variable {owner : Key} {s' : Store MonitoringInstance}

theorem owned (h : Written owner s s') {key : Key} (hget : s'.objects.get? key = some i)
    (hnew : s.objects.get? key ≠ some i) : owner? i = some owner := by
  cases h with
  | nothing objects =>
    rw [objects] at hget
    exact absurd hget hnew
  | object owned objects =>
    rw [objects, KeyMap.get?_insert] at hget
    split at hget
    · cases hget
      exact owned
    · exact absurd hget hnew

end Written

end Store

namespace Desired

variable {build : SpecBuilder} {binding : Binding} {d : Desired}

theorem owner?_newInstance (hd : ofBinding build binding = .ok d) :
    owner? d.newInstance = some ⟨binding.ns, binding.name⟩ := by
  obtain ⟨-, hlabels, -⟩ := d.ofBinding_eq hd
  have hname : d.newInstance.metadata.label? bindingLabel = some binding.name := by
    change d.labels.get? bindingLabel = some binding.name
    rw [hlabels, get?_bindingLabel]
  rw [owner?, hname, ownerNs?_newInstance hd]

theorem owner?_settle (hd : ofBinding build binding = .ok d) (hns : binding.ns ≠ "")
    (hname : binding.name ≠ "") (i : MonitoringInstance) :
    owner? (d.settle i) = some ⟨binding.ns, binding.name⟩ := by
  obtain ⟨-, hlabels, -⟩ := d.ofBinding_eq hd
  have hlabel : (d.settle i).metadata.label? bindingLabel = some binding.name := by
    change (laidOver d.labels (i.metadata.labels.getD ∅)).get? bindingLabel = _
    rw [get?_laidOver, hlabels, get?_bindingLabel]
    exact if_neg hname
  rw [owner?, hlabel, ownerNs?_settle hd, if_neg hns]

end Desired

namespace Reconcile

variable {s : Store MonitoringInstance} {binding : Binding}

theorem run_cases (build : SpecBuilder) (binding : Binding) (s : Store MonitoringInstance) :
    (run Store.access build binding s).2.objects = s.objects ∨
      ∃ d found decision, Desired.ofBinding build binding = .ok d ∧
        d.decide found = .ok decision ∧
        run Store.access build binding s =
          write Store.access decision (s.logged (.get d.instanceKey)) := by
  unfold run
  cases hd : Desired.ofBinding build binding with
  | error e => exact .inl rfl
  | ok d =>
    dsimp only
    rw [bind_apply, find_eq]
    cases s.lookup d.instanceKey with
    | error e => exact .inl rfl
    | ok found =>
      dsimp only
      cases hdecide : d.decide found with
      | error e => exact .inl rfl
      | ok decision => exact .inr ⟨d, found, decision, rfl, hdecide, rfl⟩

theorem run_written (build : SpecBuilder) (hns : binding.ns ≠ "") (hname : binding.name ≠ "")
    (s : Store MonitoringInstance) :
    Written ⟨binding.ns, binding.name⟩ s (run Store.access build binding s).2 := by
  rcases run_cases build binding s with hobjects | ⟨d, found, decision, hd, hdecide, hrun⟩
  · exact .nothing hobjects
  · rw [hrun]
    rcases d.decide_cases hdecide with
      ⟨-, rfl⟩ | ⟨i, -, -, ⟨-, rfl⟩ | ⟨-, rfl⟩⟩
    · rw [write_create_eq]
      rcases (s.logged (.get d.instanceKey)).create_cases d.newInstance with
        ⟨e, -, h⟩ | ⟨-, -, h⟩
      · exact .nothing h.objects
      · refine .object ?_ h.objects
        exact d.owner?_newInstance hd
    · exact .nothing rfl
    · rw [write_update_eq]
      rcases (s.logged (.get d.instanceKey)).update_cases (d.settle i) with
        ⟨e, -, h⟩ | ⟨current, -, -, -, h⟩
      · exact .nothing h.objects
      · refine .object ?_ h.objects
        exact d.owner?_settle hd hns hname i

end Reconcile

end MonitoringStack
