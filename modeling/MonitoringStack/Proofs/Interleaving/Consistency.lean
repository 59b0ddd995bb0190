import MonitoringStack.Proofs.Interleaving.World
import MonitoringStack.Proofs.Reconcile.Decision
import MonitoringStack.Proofs.Store.Versions

namespace MonitoringStack

open Kube Ownership Store

namespace StoreAction

theorem perform_evolves (action : StoreAction) (s : Store MonitoringInstance) :
    Evolves s (action.perform s).2 := by
  cases action with
  | get key => exact .of_subset (by simp [perform, logged]) (by simp [perform])
  | list ns? selector => exact .of_subset (by simp [perform, logged]) (by simp [perform])
  | create i => exact s.create_evolves i
  | update i => exact s.update_evolves i
  | delete key => exact s.delete_evolves key

end StoreAction

namespace Reconcile

def afterRead (d : Desired) (reply : Except StoreError MonitoringInstance) :
    Program (Except OperatorError Outcome) :=
  match ResourceStore.found reply with
  | .error e => .done (.error (.ofStoreError e))
  | .ok found =>
    match d.decide found with
    | .error e => .done (.error e)
    | .ok decision => write Program.access decision

def afterWrite (outcome : Outcome) (reply : Except StoreError MonitoringInstance) :
    Program (Except OperatorError Outcome) :=
  match reply with
  | .ok _ => .done (.ok outcome)
  | .error e => .done (.error (.ofStoreError e))

theorem program_of_error {build : SpecBuilder} {binding : Binding} {e : OperatorError}
    (h : Desired.ofBinding build binding = .error e) :
    run Program.access build binding = .done (.error e) := by
  unfold run
  rw [h]
  rfl

theorem program_of_ok {build : SpecBuilder} {binding : Binding} {d : Desired}
    (h : Desired.ofBinding build binding = .ok d) :
    run Program.access build binding = .call (.get d.instanceKey) (afterRead d) := by
  unfold run
  rw [h]
  rfl

theorem afterRead_get {s : Store MonitoringInstance} (hf : s.faults = []) (d : Desired)
    (key : Key) :
    afterRead d (s.get key).1 =
      match d.decide (s.objects.get? key) with
      | .error e => .done (.error e)
      | .ok decision => write Program.access decision := by
  rw [get_faultless hf, afterRead]
  cases s.objects.get? key <;> rfl

theorem write_create (i : MonitoringInstance) :
    write Program.access (.create i) = .call (.create i) (afterWrite .created) := rfl

theorem write_update (i : MonitoringInstance) :
    write Program.access (.update i) = .call (.update i) (afterWrite .updated) := rfl

end Reconcile

namespace Cleanup

def afterList (binding : String) (reply : Except StoreError (List MonitoringInstance)) :
    Program (Except OperatorError Nat) :=
  match reply with
  | .error e => .done (.error (.ofStoreError e))
  | .ok instances => deleteEach Program.access binding 0 instances

def afterDelete (binding : String) (deleted : Nat) (rest : List MonitoringInstance)
    (reply : Except StoreError Unit) : Program (Except OperatorError Nat) :=
  match reply with
  | .ok () => deleteEach Program.access binding (deleted + 1) rest
  | .error e =>
    if e.isNotFound then deleteEach Program.access binding deleted rest
    else if deleted = 0 then .done (.error (.ofStoreError e))
    else .done (.error (.partialFailure binding deleted (rest.length + 1) e))

end Cleanup

/-- A write of a pass that goes back to what the pass may have read from the store, lately or long
ago. -/
inductive Desired.Pending (d : Desired) (s : Store MonitoringInstance) : Decision → Prop
  | create : Pending d s (.create d.newInstance)
  | keep : Pending d s .keep
  | update {i : MonitoringInstance} (key : Key.of i = d.instanceKey) (snapshot : Snapshot s i)
      (openTo : OpenTo d.binding.ns i) : Pending d s (.update (d.settle i))

/-- What may be left of a pass in front of a store. -/
inductive Pass.Consistent (s : Store MonitoringInstance) : Pass → Prop
  | start (job : Job) : Consistent s (.ofJob job)
  | write {build : SpecBuilder} {binding : Binding} {d : Desired} {decision : Decision}
      (desired : Desired.ofBinding build binding = .ok d) (pending : d.Pending s decision) :
      Consistent s ⟨.reconcile build binding, Reconcile.write Program.access decision⟩
  | delete {binding ns : String} {deleted : Nat} {instances : List MonitoringInstance} :
      Consistent s ⟨.cleanup binding ns, Cleanup.deleteEach Program.access binding deleted instances⟩
  | done (job : Job) (result : job.Result) : Consistent s ⟨job, .done result⟩

inductive Pass.Calling (s : Store MonitoringInstance) : Pass → Prop
  | read {build : SpecBuilder} {binding : Binding} {d : Desired}
      (desired : Desired.ofBinding build binding = .ok d) :
      Calling s ⟨.reconcile build binding, .call (.get d.instanceKey) (Reconcile.afterRead d)⟩
  | create {build : SpecBuilder} {binding : Binding} {d : Desired}
      (desired : Desired.ofBinding build binding = .ok d) :
      Calling s ⟨.reconcile build binding,
        .call (.create d.newInstance) (Reconcile.afterWrite .created)⟩
  | update {build : SpecBuilder} {binding : Binding} {d : Desired} {i : MonitoringInstance}
      (desired : Desired.ofBinding build binding = .ok d) (key : Key.of i = d.instanceKey)
      (snapshot : Snapshot s i) (openTo : OpenTo d.binding.ns i) :
      Calling s ⟨.reconcile build binding,
        .call (.update (d.settle i)) (Reconcile.afterWrite .updated)⟩
  | list (binding ns : String) :
      Calling s ⟨.cleanup binding ns,
        .call (.list none (Cleanup.selectOwned binding ns)) (Cleanup.afterList binding)⟩
  | delete (binding ns : String) (deleted : Nat) (i : MonitoringInstance)
      (rest : List MonitoringInstance) :
      Calling s ⟨.cleanup binding ns,
        .call (.delete ⟨i.metadata.namespaceOrEmpty, i.metadata.nameOrStem⟩)
          (Cleanup.afterDelete binding deleted rest)⟩

namespace Pass.Consistent

variable {s s' : Store MonitoringInstance}

theorem mono (h : Evolves s s') {p : Pass} (hp : p.Consistent s) : p.Consistent s' := by
  cases hp with
  | start job => exact .start job
  | delete => exact .delete
  | done job result => exact .done job result
  | write hd hpending =>
    refine .write hd ?_
    cases hpending with
    | create => exact .create
    | keep => exact .keep
    | update hkey hsnapshot hopen => exact .update hkey (h.snapshot hsnapshot) hopen

/-- What the read of a pass leads to is a write that goes back to it. -/
theorem afterRead (hs : Stamped s) {build : SpecBuilder} {binding : Binding} {d : Desired}
    (hd : Desired.ofBinding build binding = .ok d) :
    Consistent s ⟨.reconcile build binding,
      Reconcile.afterRead d (s.get d.instanceKey).1⟩ := by
  unfold Reconcile.afterRead
  cases hfound : ResourceStore.found (s.get d.instanceKey).1 with
  | error e => exact .done (.reconcile build binding) _
  | ok found =>
    dsimp only
    cases hdecision : d.decide found with
    | error e => exact .done (.reconcile build binding) _
    | ok decision =>
      refine .write hd ?_
      rcases d.decide_cases hdecision with ⟨-, rfl⟩ | ⟨i, rfl, hopen, ⟨-, rfl⟩ | ⟨-, rfl⟩⟩
      · exact .create
      · exact .keep
      · have hget : s.objects.get? d.instanceKey = some i := by
          apply s.get_ok
          cases hr : (s.get d.instanceKey).1 with
          | ok j =>
            rw [hr] at hfound
            cases hfound
            rfl
          | error e =>
            rw [hr] at hfound
            cases e <;> simp [ResourceStore.found] at hfound
        exact .update (hs _ _ hget).1 (hs.snapshot hget) hopen

theorem afterWrite (build : SpecBuilder) (binding : Binding) (outcome : Outcome)
    (reply : Except StoreError MonitoringInstance) :
    Consistent s ⟨.reconcile build binding, Reconcile.afterWrite outcome reply⟩ := by
  cases reply with
  | ok j => exact .done (.reconcile build binding) _
  | error e => exact .done (.reconcile build binding) _

theorem afterList (binding ns : String) (reply : Except StoreError (List MonitoringInstance)) :
    Consistent s ⟨.cleanup binding ns, Cleanup.afterList binding reply⟩ := by
  cases reply with
  | ok instances => exact .delete
  | error e => exact .done (.cleanup binding ns) _

theorem afterDelete (binding ns : String) (deleted : Nat) (rest : List MonitoringInstance)
    (reply : Except StoreError Unit) :
    Consistent s ⟨.cleanup binding ns, Cleanup.afterDelete binding deleted rest reply⟩ := by
  unfold Cleanup.afterDelete
  cases reply with
  | ok => exact .delete
  | error e =>
    dsimp only
    split
    · exact .delete
    · split
      · exact .done (.cleanup binding ns) _
      · exact .done (.cleanup binding ns) _

theorem calling {job : Job} {action : StoreAction} {next : action.Reply → Program job.Result}
    (h : Consistent s ⟨job, .call action next⟩) : Calling s ⟨job, .call action next⟩ := by
  generalize hp : (⟨job, .call action next⟩ : Pass) = p at h ⊢
  -- a pass that has a call left is before its read, its write, its list or one of its deletions
  cases h with
  | start job' =>
    cases job' with
    | reconcile build binding =>
      cases hd : Desired.ofBinding build binding with
      | error e =>
        rw [ofJob, Job.program, Reconcile.program_of_error hd] at hp
        cases hp
      | ok d =>
        rw [ofJob, Job.program, Reconcile.program_of_ok hd]
        exact .read hd
    | cleanup binding ns => exact .list binding ns
  | write hd hpending =>
    cases hpending with
    | create => exact .create hd
    | keep => cases hp
    | update hkey hsnapshot hopen => exact .update hd hkey hsnapshot hopen
  | @delete binding ns deleted instances =>
    cases instances with
    | nil => cases hp
    | cons i rest => exact .delete binding ns deleted i rest
  | done job' result => cases hp

end Pass.Consistent

/-- What other writers leave alone: where an object is kept, and which versions are made. -/
def Step.Lawful : Step → Prop
  | .modify _ change => ∀ i, Key.of (change i) = Key.of i
  | .insert i => i.metadata.resourceVersion = none
  | _ => True

namespace World

/-- The stored objects carry versions of the store's own, and every pass goes back to what it may
have read. -/
structure Consistent (w : World) : Prop where
  stamped : Stamped w.store
  passes : ∀ p ∈ w.passes, p.Consistent w.store

theorem change_evolves {w : World} (hs : Stamped w.store) (key : Key)
    {f : MonitoringInstance → MonitoringInstance} (hf : ∀ i, Key.of (f i) = Key.of i)
    (event : Event) : Evolves w.store (w.change key f event).store :=
  modify_evolves hs key hf

theorem step_evolves {w : World} (hs : Stamped w.store) {step : Step} (h : step.Lawful) :
    Evolves w.store (w.step step).store := by
  cases step with
  | start job => exact .refl _
  | advance n =>
    rw [World.step]
    split
    · exact StoreAction.perform_evolves _ _
    · exact .refl _
  | assign key given =>
    apply change_evolves hs key
    intro i
    rfl
  | modify key f => exact change_evolves hs key h _
  | insert i => exact insert_evolves _ h
  | delete key => exact delete_evolves _ key
  | inject faults => exact .of_subset (Nat.le_refl _) fun _ _ ha => ha

theorem call_consistent {w : World} (hw : w.Consistent) {n : Nat} {job : Job}
    {action : StoreAction} {next : action.Reply → Program job.Result}
    (hn : w.passes[n]? = some ⟨job, .call action next⟩) : (w.call n job action next).Consistent := by
  have hevolves : Evolves w.store (w.call n job action next).store :=
    StoreAction.perform_evolves action w.store
  refine ⟨hevolves.stamped hw.stamped, fun p hp => ?_⟩
  rcases List.mem_or_eq_of_mem_set hp with hp | rfl
  · exact (hw.passes p hp).mono hevolves
  · have hcalling := (hw.passes _ (List.mem_of_getElem? hn)).calling
    cases hcalling with
    | read hd => exact (Pass.Consistent.afterRead hw.stamped hd).mono hevolves
    | create hd => exact .afterWrite _ _ _ _
    | update hd => exact .afterWrite _ _ _ _
    | list binding ns => exact .afterList binding ns _
    | delete binding ns deleted i rest => exact .afterDelete binding ns deleted rest _

theorem step_consistent {w : World} (hw : w.Consistent) {step : Step} (h : step.Lawful) :
    (w.step step).Consistent := by
  have hevolves := step_evolves hw.stamped h
  have hstamped := hevolves.stamped hw.stamped
  have hkept : ∀ p ∈ w.passes, p.Consistent (w.step step).store := fun p hp =>
    (hw.passes p hp).mono hevolves
  cases step with
  | start job =>
    refine ⟨hstamped, fun p hp => ?_⟩
    rcases List.mem_append.1 hp with hp | hp
    · exact hkept p hp
    · obtain rfl : p = .ofJob job := by simpa using hp
      exact .start job
  | advance n =>
    rw [World.step]
    split
    · exact call_consistent hw ‹_›
    · exact hw
  | assign | modify | insert | delete | inject => exact ⟨hstamped, hkept⟩

theorem consistent_nil : ({} : World).Consistent :=
  ⟨fun key a ha => by simp at ha, by simp⟩

theorem consistent_run {steps : List Step} (h : ∀ step ∈ steps, step.Lawful) :
    (World.run {} steps).Consistent := by
  apply run_induction Consistent Step.Lawful consistent_nil _ h
  intro w step hw hstep
  exact step_consistent hw hstep

/-- What lawful steps lead to, starting from an empty store. -/
def Reachable (w : World) : Prop := ∃ steps, (∀ step ∈ steps, step.Lawful) ∧ w = World.run {} steps

theorem Reachable.consistent {w : World} (hw : w.Reachable) : w.Consistent := by
  obtain ⟨steps, h, rfl⟩ := hw
  exact consistent_run h

end World

end MonitoringStack
