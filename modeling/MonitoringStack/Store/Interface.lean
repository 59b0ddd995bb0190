import MonitoringStack.Store.Error
import MonitoringStack.Kube.Object
import MonitoringStack.Kube.Selector

namespace MonitoringStack

open Kube

structure ResourceStore (m : Type → Type) (α : Type) where
  get : Key → m (Except StoreError α)
  list : Option String → Selector → m (Except StoreError (List α))
  create : α → m (Except StoreError α)
  /-- Replaces an object. One that carries a version token is written only if the token is
  current. -/
  update : α → m (Except StoreError α)
  delete : Key → m (Except StoreError Unit)

namespace ResourceStore

variable {m : Type → Type} [Monad m] {α : Type}

def found : Except StoreError α → Except StoreError (Option α)
  | .ok a => .ok (some a)
  | .error (.notFound _) => .ok none
  | .error e => .error e

def find (store : ResourceStore m α) (key : Key) : m (Except StoreError (Option α)) :=
  found <$> store.get key

def afterRead (store : ResourceStore m α) (step : m Unit) : ResourceStore m α :=
  { store with
    get := fun key => do let r ← store.get key; step; return r
    list := fun ns? selector => do let r ← store.list ns? selector; step; return r }

end ResourceStore

end MonitoringStack
