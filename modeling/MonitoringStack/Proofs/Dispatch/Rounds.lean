import MonitoringStack.Proofs.Dispatch.Pass
import MonitoringStack.Store.Basic

namespace MonitoringStack

open Kube

/-- The errors that make a binding wait longer and longer. -/
def OperatorError.backsOff (e : OperatorError) : Bool :=
  match e.root with
  | .conflict _ | .invalidInput _ => false
  | _ => true

namespace Dispatch

section RetryAction

variable {e : OperatorError} (key : String) (t : BackoffTracker)

theorem retryAction_of_backsOff (h : e.backsOff = true) :
    retryAction e key t = (.requeue (t.nextDelay key).1, (t.nextDelay key).2) := by
  rw [OperatorError.backsOff] at h
  rw [retryAction]
  cases hroot : e.root with
  | conflict | invalidInput =>
    rw [hroot] at h
    cases h
  | kube | store | partialFailure | serialization | helm | invalidConfig | finalizer | metrics
  | watch | server => rfl

theorem retryAction_tracker (h : e.backsOff = false) : (retryAction e key t).2 = t := by
  rw [OperatorError.backsOff] at h
  rw [retryAction]
  cases hroot : e.root with
  | conflict | invalidInput => rfl
  | kube | store | partialFailure | serialization | helm | invalidConfig | finalizer | metrics
  | watch | server =>
    rw [hroot] at h
    cases h

end RetryAction

variable {σ : Type}

theorem run_eq (env : Environment (StateM σ)) (b : Binding) (s : OperatorState) (w : σ) :
    run env b s w = match (pass env b s w).1.1 with
      | .ok action => (((action, none), (pass env b s w).1.2), (pass env b s w).2)
      | .error e => ((((errorPolicy b e (pass env b s w).1.2).1, some e),
          (errorPolicy b e (pass env b s w).1.2).2), (pass env b s w).2) := by
  rw [run, bind_apply]
  rcases pass env b s w with ⟨⟨result, s'⟩, w'⟩
  cases result <;> rfl

end Dispatch

structure Turn (σ : Type) where
  env : Environment (StateM σ)
  binding : Binding
  meanwhile : σ → σ := id

structure Scene (σ : Type) where
  world : σ
  operator : OperatorState := {}

structure Round (σ : Type) where
  turn : Turn σ
  start : Scene σ
  stop : Scene σ
  action : Action
  error? : Option OperatorError

namespace Turn

variable {σ : Type} (t : Turn σ) (sc : Scene σ)

def start : Scene σ := { sc with world := t.meanwhile sc.world }

def result : ((Action × Option OperatorError) × OperatorState) × σ :=
  Dispatch.run t.env t.binding (t.start sc).operator (t.start sc).world

def play : Round σ where
  turn := t
  start := t.start sc
  stop := ⟨(t.result sc).2, (t.result sc).1.2⟩
  action := (t.result sc).1.1.1
  error? := (t.result sc).1.1.2

theorem play_world : (t.play sc).stop.world =
    (Dispatch.pass t.env t.binding (t.start sc).operator (t.start sc).world).2 := by
  change (Dispatch.run t.env t.binding (t.start sc).operator (t.start sc).world).2 = _
  rw [Dispatch.run_eq]
  cases (Dispatch.pass t.env t.binding (t.start sc).operator (t.start sc).world).1.1 <;> rfl

/-- A failed pass is followed by what the policy says. -/
theorem play_cases {β : Type} {view : σ → β} (henv : t.env.Leaves view) :
    ((t.play sc).error? = none ∧
      Dispatch.Passed t.env t.binding view sc.operator (t.start sc).world
        ((.ok (t.play sc).action, (t.play sc).stop.operator), (t.play sc).stop.world)) ∨
    ∃ e s', (t.play sc).error? = some e ∧
      (t.play sc).action = (Dispatch.errorPolicy t.binding e s').1 ∧
      (t.play sc).stop.operator = (Dispatch.errorPolicy t.binding e s').2 ∧
      Dispatch.Passed t.env t.binding view sc.operator (t.start sc).world
        ((.error e, s'), (t.play sc).stop.world) := by
  have hpassed := Dispatch.pass_passed t.binding henv sc.operator (t.start sc).world
  have hrun := Dispatch.run_eq t.env t.binding sc.operator (t.start sc).world
  rcases hpass : Dispatch.pass t.env t.binding sc.operator (t.start sc).world
    with ⟨⟨result, s'⟩, w'⟩
  rw [hpass] at hpassed hrun
  have hresult : t.result sc = _ := hrun
  unfold play
  rw [hresult]
  cases result with
  | ok action => exact .inl ⟨rfl, hpassed⟩
  | error e => exact .inr ⟨e, s', rfl, rfl, rfl, hpassed⟩

end Turn

namespace Scene

variable {σ : Type}

def after (sc : Scene σ) (turns : List (Turn σ)) : Scene σ :=
  turns.foldl (fun sc t => (t.play sc).stop) sc

def rounds (sc : Scene σ) : List (Turn σ) → List (Round σ)
  | [] => []
  | t :: turns => t.play sc :: rounds (t.play sc).stop turns

theorem after_concat (sc : Scene σ) (turns : List (Turn σ)) (t : Turn σ) :
    sc.after (turns ++ [t]) = (t.play (sc.after turns)).stop := by
  rw [after, List.foldl_append]
  rfl

theorem rounds_concat (sc : Scene σ) (turns : List (Turn σ)) (t : Turn σ) :
    sc.rounds (turns ++ [t]) = sc.rounds turns ++ [t.play (sc.after turns)] := by
  induction turns generalizing sc with
  | nil => rfl
  | cons t' turns ih =>
    rw [List.cons_append, rounds, ih]
    rfl

end Scene

section Samples

def newYear : Timestamp where
  year := 2024
  month := 1
  day := 1
  hour := 0
  minute := 0
  second := 0
  nanosecond := 0
  year_mem := by decide
  month_mem := by decide
  day_mem := by decide
  hour_lt := by decide
  minute_lt := by decide
  second_le := by decide
  nanosecond_lt := by decide

/-- An environment of nothing but a store, in which every request gets the same answer. -/
def Environment.answering (build : SpecBuilder) (reply : Reply) :
    Environment (StateM (Store MonitoringInstance)) where
  instances := Store.access
  server _ := pure (.ok reply)
  build
  elapsed := pure 0
  now := pure newYear

theorem Environment.leaves_answering (build : SpecBuilder) (reply : Reply) :
    (Environment.answering build reply).Leaves id :=
  ⟨fun _ _ => ⟨rfl, trivial⟩, fun _ => ⟨rfl, trivial⟩, fun _ => ⟨rfl, trivial⟩⟩

def Scene.beginning : Scene (Store MonitoringInstance) where
  world := {}

def finalizedOrders (ns : String) : Binding where
  metadata := { name := some "orders", ns? := some ns, finalizers := some [bindingFinalizer] }
  spec := {}

end Samples

end MonitoringStack
