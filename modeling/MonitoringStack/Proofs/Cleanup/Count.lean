import MonitoringStack.Proofs.Cleanup.Batch

namespace MonitoringStack

open Kube

/-- The deletions that an error tells of. -/
def OperatorError.deletions (e : OperatorError) : Nat :=
  match e.root with
  | .partialFailure _ deleted _ _ => deleted
  | _ => 0

namespace Cleanup

def told : Except OperatorError Nat → Nat
  | .ok deleted => deleted
  | .error e => e.deletions

theorem deletions_ofStoreError (e : StoreError) : (OperatorError.ofStoreError e).deletions = 0 := by
  cases e <;> rfl

theorem deletions_stopped (binding : String) (deleted remaining : Nat) (e : StoreError) :
    (stopped binding deleted remaining e).deletions = deleted := by
  unfold stopped
  split
  · rename_i hzero
    rw [deletions_ofStoreError, hzero]
  · rfl

/-- Every deletion is told of, whether the batch ends well or not. -/
theorem deleteEach_thinned (binding : String) (deleted : Nat) (instances : List MonitoringInstance)
    (s : Store MonitoringInstance) :
    s.Thinned (deleteEach Store.access binding deleted instances s).2 ∧
      told (deleteEach Store.access binding deleted instances s).1 +
        (deleteEach Store.access binding deleted instances s).2.objects.size =
          deleted + s.objects.size := by
  induction instances generalizing deleted s with
  | nil => exact ⟨.refl s, rfl⟩
  | cons i rest ih =>
    obtain ⟨hthinned, hsize⟩ := s.delete_thinned i.address
    rw [deleteEach_cons, bind_apply, Store.access_delete]
    rcases hdelete : s.delete i.address with ⟨reply, s'⟩
    rw [hdelete] at hthinned hsize
    have hrest (deleted' : Nat) (hcount : deleted' + s'.objects.size = deleted + s.objects.size) :
        s.Thinned (deleteEach Store.access binding deleted' rest s').2 ∧
          told (deleteEach Store.access binding deleted' rest s').1 +
            (deleteEach Store.access binding deleted' rest s').2.objects.size =
              deleted + s.objects.size := by
      obtain ⟨hthinned', hsize'⟩ := ih deleted' s'
      exact ⟨hthinned.trans hthinned', hsize'.trans hcount⟩
    cases reply with
    | ok =>
      apply hrest
      dsimp only at hsize
      omega
    | error e =>
      dsimp only at hsize ⊢
      split
      · apply hrest
        omega
      · refine ⟨hthinned, ?_⟩
        change (stopped binding deleted (rest.length + 1) e).deletions + s'.objects.size = _
        rw [deletions_stopped]
        omega

theorem told_deleteOwned (binding ns : String) (s : Store MonitoringInstance) :
    told (deleteOwned Store.access binding ns s).1 =
      s.removed (deleteOwned Store.access binding ns s).2 := by
  have hlogged : (s.list none (selectOwned binding ns)).2.objects = s.objects := by
    rw [Store.list_snd, Store.objects_logged]
  rw [deleteOwned, deleteSelected, bind_apply, Store.access_list]
  rcases hlist : s.list none (selectOwned binding ns) with ⟨reply, s'⟩
  rw [hlist] at hlogged
  cases reply with
  | error e => exact (deletions_ofStoreError e).trans (Store.removed_of_objects_eq hlogged).symm
  | ok instances =>
    obtain ⟨hthinned, hsize⟩ := deleteEach_thinned binding 0 instances s'
    have hremoved := ((Store.Thinned.of_objects_eq hlogged).trans hthinned).removed_add_size
    dsimp only at hlogged ⊢
    rw [hlogged] at hsize
    omega

end Cleanup

end MonitoringStack
