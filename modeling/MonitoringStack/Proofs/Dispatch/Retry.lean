import MonitoringStack.Proofs.Dispatch.Streak

namespace MonitoringStack

open Dispatch

namespace OperatorError

/-- The error that is found when those of the finalizer are taken off, as long as they are of a pass
that failed inside. -/
inductive Innermost : OperatorError → OperatorError → Prop
  | bare {e : OperatorError} (applied : ∀ inner, e ≠ .finalizer (.applyFailed inner))
      (cleaned : ∀ inner, e ≠ .finalizer (.cleanupFailed inner)) : Innermost e e
  | applied {e core : OperatorError} (h : Innermost e core) :
      Innermost (.finalizer (.applyFailed e)) core
  | cleaned {e core : OperatorError} (h : Innermost e core) :
      Innermost (.finalizer (.cleanupFailed e)) core

theorem innermost_root (e : OperatorError) : Innermost e e.root := by
  fun_induction root e with
  | case1 e ih => exact .applied ih
  | case2 e ih => exact .cleaned ih
  | case3 e happlied hcleaned => exact .bare happlied hcleaned

theorem Innermost.root_eq {e core : OperatorError} (h : Innermost e core) : e.root = core := by
  induction h with
  | bare applied cleaned => rw [root] <;> assumption
  | applied h ih => rw [root, ih]
  | cleaned h ih => rw [root, ih]

/-- The error makes its binding wait longer and longer. -/
def Slows (e : OperatorError) : Prop :=
  ∃ core, Innermost e core ∧ (∀ detail, core ≠ .conflict detail) ∧
    ∀ detail, core ≠ .invalidInput detail

theorem slows_iff {e : OperatorError} : e.Slows ↔ e.backsOff = true := by
  have hslows : e.Slows ↔ (∀ detail, e.root ≠ .conflict detail) ∧
      ∀ detail, e.root ≠ .invalidInput detail := by
    constructor
    · rintro ⟨core, hcore, h⟩
      rwa [hcore.root_eq]
    · exact fun h => ⟨e.root, e.innermost_root, h⟩
  rw [hslows, backsOff]
  cases e.root <;> simp

instance (e : OperatorError) : Decidable e.Slows := decidable_of_iff _ slows_iff.symm

end OperatorError

inductive RetryCall where
  | retry (e : OperatorError) (key : String)
  | reset (key : String)

namespace RetryCall

def key : RetryCall → String
  | .retry _ key | .reset key => key

def Resets (key : String) : RetryCall → Prop
  | .retry .. => False
  | .reset l => l = key

def Slows (key : String) : RetryCall → Prop
  | .retry e l => l = key ∧ e.Slows
  | .reset _ => False

instance (key : String) : DecidablePred (Resets key)
  | .retry .. => inferInstanceAs (Decidable False)
  | .reset l => inferInstanceAs (Decidable (l = key))

instance (key : String) : DecidablePred (Slows key)
  | .retry e l => inferInstanceAs (Decidable (l = key ∧ e.Slows))
  | .reset _ => inferInstanceAs (Decidable False)

/-- The calls that made a key wait longer since it was last reset. -/
def failures (key : String) (calls : List RetryCall) : Nat :=
  (calls.reverse.takeWhile fun c => ¬ c.Resets key).countP (·.Slows key)

theorem failures_concat (key : String) (calls : List RetryCall) (c : RetryCall) :
    failures key (calls ++ [c]) =
      if c.Resets key then 0 else failures key calls + if c.Slows key then 1 else 0 := by
  rw [failures, List.reverse_append, List.reverse_singleton, List.singleton_append,
    List.takeWhile_cons]
  by_cases hresets : c.Resets key
  · simp [hresets]
  · simp [hresets, failures, List.countP_cons]

theorem failures_filter (key : String) (calls : List RetryCall) :
    failures key (calls.filter fun c => c.key = key) = failures key calls := by
  induction calls using List.reverseRecOn with
  | nil => rfl
  | append_singleton calls c ih =>
    rw [List.filter_append, failures_concat]
    by_cases hkey : c.key = key
    · simp [hkey, failures_concat, ih]
    · -- a call for another key neither ends the streak nor adds to it
      have hidle : ¬ c.Resets key ∧ ¬ c.Slows key := by
        cases c with
        | retry e l => exact ⟨id, fun h => hkey h.1⟩
        | reset l => exact ⟨hkey, id⟩
      simp [hkey, hidle, ih]

end RetryCall

namespace BackoffTracker

def called (t : BackoffTracker) : RetryCall → BackoffTracker
  | .retry e key => (retryAction e key t).2
  | .reset key => t.reset key

def after (calls : List RetryCall) : BackoffTracker := calls.foldl called ∅

theorem failures_called {t : BackoffTracker} {key : String} {n : Nat}
    (h : t.failures key = .after n) (c : RetryCall) :
    (t.called c).failures key =
      .after (if c.Resets key then 0 else n + if c.Slows key then 1 else 0) := by
  cases c with
  | reset l =>
    rw [called, failures_reset]
    by_cases hl : l = key
    · simp [RetryCall.Resets, hl]
    · simpa [RetryCall.Resets, RetryCall.Slows, hl, Ne.symm hl] using h
  | retry e l =>
    by_cases hl : l = key
    · subst hl
      simpa [called, RetryCall.Resets, RetryCall.Slows, OperatorError.slows_iff] using
        (retryAction_after h).1
    · rw [called, failures_retryAction_of_ne (Ne.symm hl)]
      simpa [RetryCall.Resets, RetryCall.Slows, hl] using h

theorem failures_after (calls : List RetryCall) (key : String) :
    (after calls).failures key = .after (RetryCall.failures key calls) := by
  induction calls using List.reverseRecOn with
  | nil => exact failures_empty key
  | append_singleton calls c ih =>
    rw [after, List.foldl_append, RetryCall.failures_concat]
    exact failures_called ih c

end BackoffTracker

namespace Dispatch

open BackoffTracker RetryCall

theorem retryAction_of_slows {e : OperatorError} (h : e.Slows) (key : String)
    (calls : List RetryCall) :
    (retryAction e key (after calls)).1 =
      .requeue (.ofNat (60 * min 10 (Nat.fib (failures key (calls ++ [.retry e key]))))) := by
  have hcount : failures key (calls ++ [.retry e key]) = failures key calls + 1 := by
    have hresets : ¬ Resets key (.retry e key) := id
    have hslows : Slows key (.retry e key) := ⟨rfl, h⟩
    rw [failures_concat, if_neg hresets, if_pos hslows]
  rw [hcount]
  exact (retryAction_after (failures_after calls key)).2 (OperatorError.slows_iff.1 h)

theorem retryAction_fst_congr {t t' : BackoffTracker} {key : String} {n : Nat} (e : OperatorError)
    (h : t.failures key = .after n) (h' : t'.failures key = .after n) :
    (retryAction e key t).1 = (retryAction e key t').1 := by
  rw [retryAction, retryAction, nextDelay_after _ _ h, nextDelay_after _ _ h']
  cases e.root <;> rfl

/-- After any calls for any keys, a lost race is run again soon, a binding that asks for nonsense
waits, and all else waits the longer the more of its kind there were since the last reset of its
key. What is called for other keys makes no difference. -/
theorem retryAction_decides (calls : List RetryCall) :
    (∀ e, ∃ core, OperatorError.Innermost e core) ∧
    (∀ e core key, OperatorError.Innermost e core →
      match core with
      | .conflict _ => retryAction e key (after calls) = (.requeue 5, after calls)
      | .invalidInput _ => retryAction e key (after calls) = (.awaitChange, after calls)
      | _ => (retryAction e key (after calls)).1 =
          .requeue (.ofNat (60 * min 10 (Nat.fib (failures key (calls ++ [.retry e key])))))) ∧
    (∀ key, (after calls).errorCount key = .ofNat (failures key calls)) ∧
    (∀ e key, (retryAction e key (after calls)).1 =
      (retryAction e key (after (calls.filter fun c => c.key = key))).1) ∧
    ∀ b c : Binding, b.Plain → c.Plain → (bindingKey b = bindingKey c ↔ b.key = c.key) := by
  refine ⟨fun e => ⟨e.root, e.innermost_root⟩, ?_, ?_, ?_, fun b c => bindingKey_inj⟩
  · intro e core key hcore
    have hroot := hcore.root_eq
    cases core with
    | conflict detail =>
      change retryAction e key (after calls) = (.requeue conflictDelay, after calls)
      rw [retryAction, hroot]
    | invalidInput detail =>
      change retryAction e key (after calls) = (.awaitChange, after calls)
      rw [retryAction, hroot]
    | kube | store | partialFailure | serialization | helm | invalidConfig | finalizer | metrics
    | watch | server => exact retryAction_of_slows ⟨_, hcore, by simp, by simp⟩ key calls
  · intro key
    rw [errorCount_eq, failures_after]
    rfl
  · intro e key
    apply retryAction_fst_congr e (failures_after calls key)
    rw [failures_after, failures_filter]

def wrapped (e : OperatorError) : OperatorError :=
  .finalizer (.applyFailed (.finalizer (.cleanupFailed e)))

def troubled : List RetryCall :=
  [.retry (wrapped (.watch "closed")) "shop/orders", .retry (.server "in use") "shop/orders",
    .retry (wrapped (.conflict "stale")) "shop/orders", .reset "shop/invoices",
    .retry (.finalizer .unnamedObject) "shop/invoices",
    .retry (.partialFailure "orders" 1 1 (.conflict "stale")) "shop/orders"]

theorem retryAction_decides_troubled :
    (retryAction (wrapped (.conflict "stale")) "shop/orders" (after troubled)) =
        (.requeue 5, after troubled) ∧
      (retryAction (wrapped (.serialization "no spec")) "shop/orders" (after troubled)).1 =
        .requeue 180 ∧
      (after troubled).errorCount "shop/orders" = 3 ∧
      (after troubled).errorCount "shop/invoices" = 1 ∧
      bindingKey (finalizedOrders "shop") ≠ bindingKey (finalizedOrders "bazaar") := by
  obtain ⟨-, hdecides, hcount, -, hkeys⟩ := retryAction_decides troubled
  have hlost : OperatorError.Innermost (wrapped (.conflict "stale")) (.conflict "stale") :=
    .applied (.cleaned (.bare (by simp) (by simp)))
  have hunread : OperatorError.Innermost (wrapped (.serialization "no spec"))
      (.serialization "no spec") := .applied (.cleaned (.bare (by simp) (by simp)))
  have hshop : (finalizedOrders "shop").Plain := (by decide : '/' ∉ "shop".toList)
  have hbazaar : (finalizedOrders "bazaar").Plain := (by decide : '/' ∉ "bazaar".toList)
  refine ⟨hdecides _ _ _ hlost, (hdecides _ _ _ hunread).trans ?_, (hcount _).trans ?_,
    (hcount _).trans ?_, fun heq => ?_⟩
  · decide
  · decide
  · decide
  · exact absurd ((hkeys _ _ hshop hbazaar).1 heq) (by decide)

end Dispatch

end MonitoringStack
