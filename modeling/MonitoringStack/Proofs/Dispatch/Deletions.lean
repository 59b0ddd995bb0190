import MonitoringStack.Proofs.Cleanup.Count
import MonitoringStack.Proofs.Dispatch.Rounds

namespace MonitoringStack

open Kube

theorem OperatorError.Outside.deletions {e : OperatorError} (h : e.Outside) : e.deletions = 0 := by
  cases h <;> rfl

namespace Dispatch

section Passed

variable {env : Environment (StateM (Store MonitoringInstance))} {b : Binding}

theorem storePart?_of_deleting (hgoes : b.metadata.deletionTimestamp ≠ none)
    {x : StateM (Store MonitoringInstance) (Except OperatorError Work)}
    (h : storePart? env b = some x) : x = cleanupPart env b := by
  cases hdeleted : b.metadata.deletionTimestamp with
  | none => exact absurd hdeleted hgoes
  | some deleted =>
    unfold storePart? at h
    rw [hdeleted] at h
    cases hindex : finalizerIndex? b <;> simp [hindex] at h
    exact h.2.2.symm

def told (result : Except OperatorError Action) : Nat :=
  match result with
  | .ok _ => 0
  | .error e => e.deletions

theorem told_of_outside {result : Except OperatorError Action}
    (h : ∀ e, result = .error e → e.Outside) : told result = 0 := by
  cases result with
  | ok action => rfl
  | error e => exact (h e rfl).deletions

theorem deletions_of_root {e e' : OperatorError} (h : e'.root = e.root) :
    e'.deletions = e.deletions := by
  rw [OperatorError.deletions, OperatorError.deletions, h]

/-- A deleting pass counts what it removes, or its error tells of it. -/
theorem Passed.counted {s s' : OperatorState} {w w' : Store MonitoringInstance}
    {result : Except OperatorError Action} (h : Passed env b id s w ((result, s'), w'))
    (hstore : env.instances = Store.access) (hgoes : b.metadata.deletionTimestamp ≠ none) :
    s'.metrics.instancesDeleted + .ofNat (told result) =
      s.metrics.instancesDeleted + .ofNat (w.removed w') := by
  have hpart : cleanupPart env b w =
      ((Cleanup.deleteOwned Store.access b.name b.ns w).1.map .cleaned,
        (Cleanup.deleteOwned Store.access b.name b.ns w).2) := by
    rw [← hstore]
    rfl
  have htold := Cleanup.told_deleteOwned b.name b.ns w
  rcases hrun : Cleanup.deleteOwned Store.access b.name b.ns w with ⟨reply, w₁⟩
  rw [hrun] at hpart htold
  cases h with
  | idle part outside leaves =>
    obtain rfl : w' = w := leaves
    rw [told_of_outside outside, Store.removed_of_objects_eq rfl]
  | @failed x e e' w' part error root leaves =>
    obtain rfl := storePart?_of_deleting hgoes part
    rw [hpart] at error leaves
    obtain rfl : w' = w₁ := leaves
    cases reply with
    | ok deleted => cases error
    | error e =>
      cases error
      rw [← htold]
      exact congrArg (_ + UInt64.ofNat ·) (deletions_of_root root)
  | @done x work elapsed result w' part ok outside leaves =>
    obtain rfl := storePart?_of_deleting hgoes part
    rw [hpart] at ok leaves
    obtain rfl : w' = w₁ := leaves
    cases reply with
    | error e => cases ok
    | ok deleted =>
      cases ok
      rw [told_of_outside outside, ← htold]
      exact UInt64.add_zero _

end Passed

end Dispatch

namespace Round

def removed (r : Round (Store MonitoringInstance)) : Nat := r.start.world.removed r.stop.world

def told {σ : Type} (r : Round σ) : Nat := (r.error?.map OperatorError.deletions).getD 0

def total {σ : Type} (f : Round σ → Nat) (rounds : List (Round σ)) : Nat :=
  rounds.foldr (fun r n => f r + n) 0

theorem total_cons {σ : Type} (f : Round σ → Nat) (r : Round σ) (rounds : List (Round σ)) :
    total f (r :: rounds) = f r + total f rounds := rfl

end Round

/-- A pass over a binding that is to go, with nobody else at the store. -/
structure Turn.Deletes (t : Turn (Store MonitoringInstance)) : Prop where
  instances : t.env.instances = Store.access
  alone : t.env.Leaves id
  goes : t.binding.metadata.deletionTimestamp ≠ none

def Scene.counter {σ : Type} (sc : Scene σ) : UInt64 := sc.operator.metrics.instancesDeleted

theorem Turn.Deletes.counted {t : Turn (Store MonitoringInstance)} (h : t.Deletes)
    (sc : Scene (Store MonitoringInstance)) :
    (t.play sc).stop.counter + .ofNat (t.play sc).told = sc.counter + .ofNat (t.play sc).removed := by
  rcases t.play_cases sc h.alone with ⟨hok, hpassed⟩ | ⟨e, s', herror, -, hoperator, hpassed⟩
  · have hcounted := hpassed.counted h.instances h.goes
    rw [Round.told, hok]
    exact hcounted
  · have hcounted := hpassed.counted h.instances h.goes
    rw [Round.told, herror, Scene.counter, hoperator]
    exact hcounted

namespace Scene

/-- The deletions that are counted and those that errors tell of make up what was removed. -/
theorem counter_after (sc : Scene (Store MonitoringInstance))
    {turns : List (Turn (Store MonitoringInstance))} (h : ∀ t ∈ turns, t.Deletes) :
    (sc.after turns).counter + .ofNat (Round.total Round.told (sc.rounds turns)) =
      sc.counter + .ofNat (Round.total Round.removed (sc.rounds turns)) := by
  induction turns generalizing sc with
  | nil => rfl
  | cons t turns ih =>
    obtain ⟨ht, hturns⟩ := List.forall_mem_cons.1 h
    have hrest := ih (t.play sc).stop hturns
    have hfirst := ht.counted sc
    rw [rounds, Round.total_cons, Round.total_cons, UInt64.ofNat_add, UInt64.ofNat_add]
    generalize UInt64.ofNat (t.play sc).told = told, UInt64.ofNat (t.play sc).removed = removed,
      UInt64.ofNat (Round.total Round.told ((t.play sc).stop.rounds turns)) = tolds,
      UInt64.ofNat (Round.total Round.removed ((t.play sc).stop.rounds turns)) = removeds
      at hfirst hrest ⊢
    calc (sc.after (t :: turns)).counter + (told + tolds)
        = ((t.play sc).stop.after turns).counter + tolds + told := by
          rw [UInt64.add_comm told, UInt64.add_assoc]
          rfl
      _ = (t.play sc).stop.counter + told + removeds := by
          rw [hrest, UInt64.add_assoc, UInt64.add_comm removeds, UInt64.add_assoc]
      _ = sc.counter + (removed + removeds) := by rw [hfirst, UInt64.add_assoc]

def guarded : Store MonitoringInstance where
  objects := KeyMap.ofList <|
    ["a", "b"].map fun place => (⟨place, "orders"⟩, Cleanup.ordersIn place "shop")
  faults := [(⟨.delete, some ⟨"b", "orders"⟩⟩, .unavailable "etcd timeout")]

def leaving : Binding :=
  { finalizedOrders "shop" with metadata.deletionTimestamp := some newYear }

/-- A pass over the binding that is to go, after the world was changed. The binding is not
released. -/
def sweep (meanwhile : Store MonitoringInstance → Store MonitoringInstance) :
    Turn (Store MonitoringInstance) where
  env := .answering (fun _ => .ok {}) ⟨503, ""⟩
  binding := leaving
  meanwhile

theorem sweep_deletes (meanwhile : Store MonitoringInstance → Store MonitoringInstance) :
    (sweep meanwhile).Deletes :=
  ⟨rfl, Environment.leaves_answering _ _, nofun⟩

theorem counter_after_sweeps :
    let rounds := beginning.rounds [sweep fun _ => guarded, sweep Store.clearFaults]
    rounds.map Round.told = [1, 0] ∧ rounds.map Round.removed = [1, 1] ∧
      (beginning.after [sweep fun _ => guarded, sweep Store.clearFaults]).counter = 1 := by
  have hdeletes : ∀ t ∈ [sweep fun _ => guarded, sweep Store.clearFaults], t.Deletes := by
    simp [sweep_deletes]
  have htold : Round.total Round.told
      (beginning.rounds [sweep fun _ => guarded, sweep Store.clearFaults]) = 1 := rfl
  have hremoved : Round.total Round.removed
      (beginning.rounds [sweep fun _ => guarded, sweep Store.clearFaults]) = 2 := rfl
  have hcounter := counter_after beginning hdeletes
  rw [htold, hremoved] at hcounter
  exact ⟨rfl, rfl, (UInt64.add_left_inj 1).1 hcounter⟩

theorem counter_misses :
    (beginning.rounds [sweep fun _ => guarded]).map Round.removed = [1] ∧
      (beginning.after [sweep fun _ => guarded]).counter = 0 :=
  ⟨rfl, rfl⟩

end Scene

end MonitoringStack
