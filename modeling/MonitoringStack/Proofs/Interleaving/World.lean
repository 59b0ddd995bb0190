import MonitoringStack.Proofs.Interleaving.Program

namespace MonitoringStack

open Kube

inductive StoragePart where
  | grafana
  | prometheus
  | elasticsearch
deriving DecidableEq

abbrev StorageClaims := StoragePart → List String

namespace InstanceSpec

def claims (s : InstanceSpec) : StorageClaims
  | .grafana => s.grafana.storage.claims
  | .prometheus => s.prometheus.storage.claims
  | .elasticsearch => s.elasticsearch.storage.claims

def withClaims (s : InstanceSpec) (claims : StorageClaims) : InstanceSpec :=
  { s with
    grafana.storage.claims := claims .grafana
    prometheus.storage.claims := claims .prometheus
    elasticsearch.storage.claims := claims .elasticsearch }

@[simp] theorem claims_withClaims (s : InstanceSpec) (claims : StorageClaims) :
    (s.withClaims claims).claims = claims := by
  funext part
  cases part <;> rfl

end InstanceSpec

abbrev ClaimsGiven := StoragePart → Option (List String)

def ClaimsGiven.over (given : ClaimsGiven) (claims : StorageClaims) : StorageClaims :=
  fun part => (given part).getD (claims part)

inductive Job where
  | reconcile (build : SpecBuilder) (binding : Binding)
  | cleanup (binding ns : String)

namespace Job

def Result : Job → Type
  | .reconcile .. => Except OperatorError Outcome
  | .cleanup .. => Except OperatorError Nat

def program : (job : Job) → Program job.Result
  | .reconcile build binding => Reconcile.run Program.access build binding
  | .cleanup binding ns => Cleanup.deleteOwned Program.access binding ns

end Job

/-- A pass somewhere between its start and its end. -/
structure Pass where
  job : Job
  rest : Program job.Result

namespace Pass

def ofJob (job : Job) : Pass := ⟨job, job.program⟩

def action? (p : Pass) : Option StoreAction :=
  match p.rest with
  | .done _ => none
  | .call action _ => some action

end Pass

inductive Event where
  /-- A new object was set in its place. -/
  | placed (i : MonitoringInstance)
  /-- A pass put an object in place of a stored one. -/
  | replaced (i : MonitoringInstance)
  | assigned (key : Key) (given : ClaimsGiven)
  | changed (key : Key)
  | removed (key : Key)

def StoreAction.events : (action : StoreAction) → action.Reply → List Event
  | .create i, .ok _ => [.placed i]
  | .update i, .ok _ => [.replaced i]
  | .delete key, .ok _ => [.removed key]
  | _, _ => []

structure World where
  store : Store MonitoringInstance := {}
  passes : List Pass := []
  history : List Event := []

/-- One step of one of those who share the store. -/
inductive Step where
  | start (job : Job)
  | advance (n : Nat)
  | assign (key : Key) (given : ClaimsGiven)
  | modify (key : Key) (change : MonitoringInstance → MonitoringInstance)
  | insert (i : MonitoringInstance)
  | delete (key : Key)
  /-- From now on these faults are laid on the store. -/
  | inject (faults : List (FaultTarget × Fault))

namespace World

def call (w : World) (n : Nat) (job : Job) (action : StoreAction)
    (next : action.Reply → Program job.Result) : World :=
  let (reply, store) := action.perform w.store
  { store
    passes := w.passes.set n ⟨job, next reply⟩
    history := w.history ++ action.events reply }

def change (w : World) (key : Key) (f : MonitoringInstance → MonitoringInstance) (event : Event) :
    World :=
  let (there, store) := w.store.modify key f
  { w with store, history := w.history ++ if there then [event] else [] }

def step (w : World) : Step → World
  | .start job => { w with passes := w.passes ++ [.ofJob job] }
  | .advance n =>
    match w.passes[n]? with
    | some ⟨job, .call action next⟩ => w.call n job action next
    | _ => w
  | .assign key given =>
    w.change key (fun i => { i with spec := i.spec.withClaims (given.over i.spec.claims) })
      (.assigned key given)
  | .modify key f => w.change key f (.changed key)
  | .insert i => { w with store := (w.store.insert i).2, history := w.history ++ [.placed i] }
  | .delete key =>
    let (reply, store) := StoreAction.perform (.delete key) w.store
    { w with store, history := w.history ++ StoreAction.events (.delete key) reply }
  | .inject faults => { w with store := { w.store with faults } }

def run (w : World) (steps : List Step) : World := steps.foldl step w

@[simp] theorem run_cons (w : World) (step : Step) (steps : List Step) :
    w.run (step :: steps) = (w.step step).run steps := rfl

theorem run_append (w : World) (steps steps' : List Step) :
    w.run (steps ++ steps') = (w.run steps).run steps' :=
  List.foldl_append

theorem step_ended {w : World} {n : Nat} {job : Job} {result : job.Result}
    (hn : w.passes[n]? = some ⟨job, .done result⟩) : w.step (.advance n) = w := by
  rw [step, hn]

theorem step_call {w : World} {n : Nat} {job : Job} {action : StoreAction}
    {next : action.Reply → Program job.Result}
    (hn : w.passes[n]? = some ⟨job, .call action next⟩) :
    (w.step (.advance n)).passes = w.passes.set n ⟨job, next (action.perform w.store).1⟩ ∧
      (w.step (.advance n)).store = (action.perform w.store).2 := by
  rw [step, hn]
  exact ⟨rfl, rfl⟩

theorem getElem?_step_call {w : World} {n : Nat} {job : Job} {action : StoreAction}
    {next : action.Reply → Program job.Result}
    (hn : w.passes[n]? = some ⟨job, .call action next⟩) :
    (w.step (.advance n)).passes[n]? = some ⟨job, next (action.perform w.store).1⟩ := by
  rw [(step_call hn).1]
  exact List.getElem?_set_self (List.getElem?_eq_some_iff.1 hn).1

theorem passes_advance_of_ne (w : World) {m n : Nat} (hne : n ≠ m) :
    (w.step (.advance n)).passes[m]? = w.passes[m]? := by
  rw [step]
  split
  · exact List.getElem?_set_ne hne
  · rfl

theorem step_history (w : World) (step : Step) :
    ∃ events, (w.step step).history = w.history ++ events := by
  cases step with
  | advance n =>
    rw [World.step]
    split
    · exact ⟨_, rfl⟩
    · exact ⟨[], (List.append_nil _).symm⟩
  | start | inject => exact ⟨[], (List.append_nil _).symm⟩
  | assign | modify | insert | delete => exact ⟨_, rfl⟩

theorem run_history (w : World) (steps : List Step) :
    ∃ events, (w.run steps).history = w.history ++ events := by
  induction steps generalizing w with
  | nil => exact ⟨[], (List.append_nil _).symm⟩
  | cons step steps ih =>
    obtain ⟨events, hevents⟩ := w.step_history step
    obtain ⟨events', hevents'⟩ := ih (w.step step)
    exact ⟨events ++ events', by rw [run_cons, hevents', hevents, List.append_assoc]⟩

/-- What holds at first and is kept by every step that is allowed holds after every run of such
steps. -/
theorem run_induction (P : World → Prop) (allowed : Step → Prop) {w : World} (hw : P w)
    (hstep : ∀ w step, P w → allowed step → P (w.step step)) {steps : List Step}
    (h : ∀ step ∈ steps, allowed step) : P (w.run steps) := by
  induction steps generalizing w with
  | nil => exact hw
  | cons step steps ih =>
    obtain ⟨hhd, htl⟩ := List.forall_mem_cons.1 h
    exact ih (hstep w step hw hhd) htl

end World

end MonitoringStack
