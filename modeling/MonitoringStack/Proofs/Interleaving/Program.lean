import MonitoringStack.Proofs.Store.Translation
import MonitoringStack.Store.Basic

namespace MonitoringStack

open Kube

inductive StoreAction where
  | get (key : Key)
  | list (ns? : Option String) (selector : Selector)
  | create (i : MonitoringInstance)
  | update (i : MonitoringInstance)
  | delete (key : Key)

namespace StoreAction

def Reply : StoreAction → Type
  | .get _ | .create _ | .update _ => Except StoreError MonitoringInstance
  | .list .. => Except StoreError (List MonitoringInstance)
  | .delete _ => Except StoreError Unit

def perform : (action : StoreAction) → StateM (Store MonitoringInstance) action.Reply
  | .get key => Store.get key
  | .list ns? selector => Store.list ns? selector
  | .create i => Store.create i
  | .update i => Store.update i
  | .delete key => Store.delete key

end StoreAction

/-- What is left of a pass: a result, or the next call of the store and what follows each reply to
it. -/
inductive Program (α : Type) where
  | done (result : α)
  | call (action : StoreAction) (next : action.Reply → Program α)

namespace Program

variable {α β : Type}

def bind : Program α → (α → Program β) → Program β
  | .done a, f => f a
  | .call action next, f => .call action fun reply => (next reply).bind f

instance : Monad Program where
  pure := .done
  bind := bind

def access : ResourceStore Program MonitoringInstance where
  get key := .call (.get key) .done
  list ns? selector := .call (.list ns? selector) .done
  create i := .call (.create i) .done
  update i := .call (.update i) .done
  delete key := .call (.delete key) .done

def run : Program α → StateM (Store MonitoringInstance) α
  | .done a => pure a
  | .call action next => do
    let reply ← action.perform
    (next reply).run

theorem run_bind (p : Program α) (f : α → Program β) :
    (p >>= f).run = p.run >>= fun a => (f a).run := by
  induction p with
  | done a => rfl
  | call action next ih =>
    funext s
    exact congrFun (ih (action.perform s).1) (action.perform s).2

theorem translates_run : Translates run access Store.access where
  pure _ := rfl
  bind := run_bind
  find _ := rfl
  list _ _ := rfl
  create _ := rfl
  update _ := rfl
  delete _ := rfl

/-- A pass that nothing comes between is what the operator runs. -/
theorem run_reconcile (build : SpecBuilder) (binding : Binding) :
    (Reconcile.run access build binding).run = Reconcile.run Store.access build binding :=
  translates_run.reconcile build binding

theorem run_deleteOwned (binding ns : String) :
    (Cleanup.deleteOwned access binding ns).run = Cleanup.deleteOwned Store.access binding ns :=
  translates_run.deleteOwned binding ns

end Program

end MonitoringStack
