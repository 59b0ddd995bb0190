import MonitoringStack.Operator.Reconcile

namespace MonitoringStack

open Kube

/-- A translation of programs that keeps their structure and takes the calls of one store to those
of another. -/
structure Translates {m n : Type → Type} [Monad m] [Monad n] (φ : {β : Type} → m β → n β)
    (store : ResourceStore m MonitoringInstance) (store' : ResourceStore n MonitoringInstance) :
    Prop where
  pure : ∀ {β : Type} (b : β), φ (pure b) = pure b
  bind : ∀ {β γ : Type} (x : m β) (f : β → m γ), φ (x >>= f) = φ x >>= fun b => φ (f b)
  find : ∀ key, φ (store.find key) = store'.find key
  list : ∀ ns? selector, φ (store.list ns? selector) = store'.list ns? selector
  create : ∀ i, φ (store.create i) = store'.create i
  update : ∀ i, φ (store.update i) = store'.update i
  delete : ∀ key, φ (store.delete key) = store'.delete key

namespace Translates

variable {m n : Type → Type} [Monad m] [Monad n] {φ : {β : Type} → m β → n β}
  {store : ResourceStore m MonitoringInstance} {store' : ResourceStore n MonitoringInstance}
  (h : Translates φ store store')
include h

theorem write (decision : Decision) :
    φ (Reconcile.write store decision) = Reconcile.write store' decision := by
  cases decision with
  | keep => exact h.pure _
  | create i =>
    rw [Reconcile.write, h.bind, h.create, Reconcile.write]
    exact bind_congr fun reply => by cases reply <;> exact h.pure _
  | update i =>
    rw [Reconcile.write, h.bind, h.update, Reconcile.write]
    exact bind_congr fun reply => by cases reply <;> exact h.pure _

theorem reconcile (build : SpecBuilder) (binding : Binding) :
    φ (Reconcile.run store build binding) = Reconcile.run store' build binding := by
  unfold Reconcile.run
  cases Desired.ofBinding build binding with
  | error e => exact h.pure _
  | ok d =>
    dsimp only
    rw [h.bind, h.find]
    apply bind_congr
    intro found
    cases found with
    | error e => exact h.pure _
    | ok found =>
      dsimp only
      cases d.decide found with
      | error e => exact h.pure _
      | ok decision => exact h.write decision

theorem deleteEach (binding : String) (deleted : Nat) (instances : List MonitoringInstance) :
    φ (Cleanup.deleteEach store binding deleted instances) =
      Cleanup.deleteEach store' binding deleted instances := by
  induction instances generalizing deleted with
  | nil => exact h.pure _
  | cons i rest ih =>
    rw [Cleanup.deleteEach, h.bind, h.delete, Cleanup.deleteEach]
    apply bind_congr
    intro reply
    cases reply with
    | ok => exact ih (deleted + 1)
    | error e =>
      dsimp only
      split
      · exact ih deleted
      · split <;> exact h.pure _

theorem deleteOwned (binding ns : String) :
    φ (Cleanup.deleteOwned store binding ns) = Cleanup.deleteOwned store' binding ns := by
  unfold Cleanup.deleteOwned Cleanup.deleteSelected
  rw [h.bind, h.list]
  apply bind_congr
  intro reply
  cases reply with
  | error e => exact h.pure _
  | ok instances => exact h.deleteEach binding 0 instances

end Translates

end MonitoringStack
