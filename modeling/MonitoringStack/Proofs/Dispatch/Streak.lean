import MonitoringStack.Proofs.Backoff
import MonitoringStack.Proofs.Dispatch.Rounds

namespace MonitoringStack

open Kube

theorem Environment.leaves_nothing {σ : Type} (env : Environment (StateM σ)) :
    env.Leaves fun _ => () :=
  ⟨fun _ _ => ⟨rfl, trivial⟩, fun _ => ⟨rfl, trivial⟩, fun _ => ⟨rfl, trivial⟩⟩

namespace Binding

def key (b : Binding) : Key := ⟨b.ns, b.name⟩

def Plain (b : Binding) : Prop := '/' ∉ b.ns.toList

end Binding

namespace Dispatch

theorem takeWhile_ne {c : Char} {l : List Char} (h : c ∉ l) (r : List Char) :
    (l ++ c :: r).takeWhile (· ≠ c) = l := by
  rw [List.takeWhile_append_of_pos]
  · simp
  · intro d hd
    exact decide_eq_true (ne_of_mem_of_not_mem hd h)

theorem append_slash_inj {a b x y : List Char} (ha : '/' ∉ a) (hb : '/' ∉ b)
    (h : a ++ '/' :: x = b ++ '/' :: y) : a = b ∧ x = y := by
  obtain rfl : a = b := by rw [← takeWhile_ne ha x, h, takeWhile_ne hb]
  exact ⟨rfl, (List.cons.inj (List.append_cancel_left h)).2⟩

theorem bindingKey_inj {b c : Binding} (hb : b.Plain) (hc : c.Plain) :
    bindingKey b = bindingKey c ↔ b.key = c.key := by
  have htoList (d : Binding) :
      (bindingKey d).toList = d.ns.toList ++ '/' :: d.name.toList := by
    simp [bindingKey]
  constructor
  · intro h
    have hlists := congrArg String.toList h
    rw [htoList, htoList] at hlists
    obtain ⟨hns, hname⟩ := append_slash_inj hb hc hlists
    rw [Binding.key, Binding.key, String.toList_inj.1 hns, String.toList_inj.1 hname]
  · intro h
    obtain ⟨hns, hname⟩ := Key.mk.inj h
    rw [bindingKey, bindingKey, hns, hname]

end Dispatch

namespace Dispatch

section Failures

variable {σ β : Type} {env : Environment (StateM σ)} {b : Binding} {view : σ → β}
  {s s' : OperatorState} {w w' : σ} {result : Except OperatorError Action} {n : Nat}

theorem Passed.failures_self (h : Passed env b view s w ((result, s'), w'))
    (hn : s.tracker.failures (bindingKey b) = .after n) :
    s'.tracker.failures (bindingKey b) = .after (if (work? env b w).isSome then 0 else n) := by
  rw [h.tracker]
  split
  · rw [BackoffTracker.failures_reset, if_pos rfl]
  · exact hn

theorem Passed.failures_of_ne (h : Passed env b view s w ((result, s'), w')) {key : String}
    (hne : key ≠ bindingKey b) : s'.tracker.failures key = s.tracker.failures key := by
  rw [h.tracker]
  split
  · rw [BackoffTracker.failures_reset, if_neg hne]
  · rfl

variable {e : OperatorError}

theorem failures_retryAction_of_ne {t : BackoffTracker} {key l : String} (hne : l ≠ key) :
    (retryAction e key t).2.failures l = t.failures l := by
  cases hback : e.backsOff with
  | false => rw [retryAction_tracker _ _ hback]
  | true =>
    rw [retryAction_of_backsOff _ _ hback]
    exact (BackoffTracker.failures_insert _ _ _ _).trans (if_neg hne)

theorem retryAction_after {t : BackoffTracker} {key : String} (hn : t.failures key = .after n) :
    (retryAction e key t).2.failures key = .after (n + if e.backsOff then 1 else 0) ∧
      (e.backsOff = true →
        (retryAction e key t).1 = .requeue (.ofNat (60 * min 10 (Nat.fib (n + 1))))) := by
  cases hback : e.backsOff with
  | false =>
    rw [retryAction_tracker _ _ hback]
    exact ⟨hn, nofun⟩
  | true =>
    rw [retryAction_of_backsOff _ _ hback, BackoffTracker.nextDelay_after _ _ hn]
    refine ⟨?_, fun _ => rfl⟩
    exact (BackoffTracker.failures_insert _ _ _ _).trans (if_pos rfl)

theorem failures_errorPolicy_of_ne {key : String} (hne : key ≠ bindingKey b) :
    (errorPolicy b e s).2.tracker.failures key = s.tracker.failures key :=
  failures_retryAction_of_ne hne

theorem errorPolicy_after (hn : s.tracker.failures (bindingKey b) = .after n) :
    (errorPolicy b e s).2.tracker.failures (bindingKey b) =
        .after (n + if e.backsOff then 1 else 0) ∧
      (e.backsOff = true →
        (errorPolicy b e s).1 = .requeue (.ofNat (60 * min 10 (Nat.fib (n + 1))))) :=
  retryAction_after hn

end Failures

end Dispatch

namespace Round

variable {σ : Type}

/-- The failures in a row of a binding after one more pass. The count begins anew with a pass whose
part at the store goes through, even if the pass fails afterwards. -/
def count (r : Round σ) (n : Nat) : Nat :=
  (if (Dispatch.work? r.turn.env r.turn.binding r.start.world).isSome then 0 else n) +
    if r.error?.any OperatorError.backsOff then 1 else 0

def streak (key : Key) (rounds : List (Round σ)) : Nat :=
  rounds.foldl (fun n r => if r.turn.binding.key = key then r.count n else n) 0

theorem streak_concat (key : Key) (rounds : List (Round σ)) (r : Round σ) :
    streak key (rounds ++ [r]) =
      if r.turn.binding.key = key then r.count (streak key rounds) else streak key rounds := by
  rw [streak, List.foldl_append]
  rfl

end Round

namespace Turn

open Dispatch

variable {σ : Type} (t : Turn σ) (sc : Scene σ) {n : Nat}

theorem failures_play_of_ne {key : String} (hne : key ≠ bindingKey t.binding) :
    (t.play sc).stop.operator.tracker.failures key = sc.operator.tracker.failures key := by
  rcases t.play_cases sc t.env.leaves_nothing with
    ⟨-, hpassed⟩ | ⟨e, s', -, -, hoperator, hpassed⟩
  · exact hpassed.failures_of_ne hne
  · rw [hoperator, failures_errorPolicy_of_ne hne, hpassed.failures_of_ne hne]

theorem failures_play_self (h : sc.operator.tracker.failures (bindingKey t.binding) = .after n) :
    (t.play sc).stop.operator.tracker.failures (bindingKey t.binding) =
        .after ((t.play sc).count n) ∧
      ∀ e, (t.play sc).error? = some e → e.backsOff = true → (t.play sc).action =
        .requeue (.ofNat (60 * min 10 (Nat.fib ((t.play sc).count n)))) := by
  rcases t.play_cases sc t.env.leaves_nothing with
    ⟨hok, hpassed⟩ | ⟨e, s', herror, haction, hoperator, hpassed⟩
  · have hfailures := hpassed.failures_self h
    rw [Round.count, hok]
    exact ⟨hfailures, nofun⟩
  · obtain ⟨hfailures, hdelay⟩ := errorPolicy_after (e := e) (hpassed.failures_self h)
    have hcount : (t.play sc).count n =
        (if (work? t.env t.binding (t.start sc).world).isSome then 0 else n) +
          if e.backsOff then 1 else 0 := by
      rw [Round.count, herror]
      rfl
    rw [hcount, haction, hoperator]
    refine ⟨hfailures, fun e' he' hback => ?_⟩
    obtain rfl : e = e' := Option.some.inj (herror.symm.trans he')
    rw [hdelay hback, if_pos hback]

end Turn

namespace Scene

open Dispatch

variable {σ : Type} {sc : Scene σ} {turns : List (Turn σ)}

theorem failures_after (hsc : sc.operator.tracker = ∅) (hturns : ∀ t ∈ turns, t.binding.Plain)
    {b : Binding} (hb : b.Plain) :
    (sc.after turns).operator.tracker.failures (bindingKey b) =
      .after (Round.streak b.key (sc.rounds turns)) := by
  induction turns using List.reverseRecOn with
  | nil =>
    change sc.operator.tracker.failures (bindingKey b) = .after 0
    rw [hsc, BackoffTracker.failures_empty]
  | append_singleton turns t ih =>
    obtain ⟨hinit, hlast⟩ := List.forall_mem_append.1 hturns
    have ht : t.binding.Plain := hlast t (List.mem_singleton_self t)
    have hbefore := ih hinit
    -- the pass moves the entry of its own binding, and the keys of two bindings differ
    have hbinding : (t.play (sc.after turns)).turn.binding = t.binding := rfl
    rw [after_concat, rounds_concat, Round.streak_concat, hbinding]
    by_cases hkey : t.binding.key = b.key
    · rw [if_pos hkey]
      rw [← (bindingKey_inj ht hb).2 hkey] at hbefore ⊢
      exact (t.failures_play_self _ hbefore).1
    · have hne : bindingKey b ≠ bindingKey t.binding := fun heq =>
        hkey ((bindingKey_inj ht hb).1 heq.symm)
      rw [if_neg hkey, t.failures_play_of_ne _ hne, hbefore]

/-- A failing pass that backs off is repeated after a delay that grows along the Fibonacci numbers
with the failures in a row of its binding, and of no other. -/
theorem requeue_streak (hsc : sc.operator.tracker = ∅) {t : Turn σ}
    (hplain : ∀ t' ∈ turns ++ [t], t'.binding.Plain) {e : OperatorError}
    (herror : (t.play (sc.after turns)).error? = some e) (hback : e.backsOff = true) {n : Nat}
    (hn : Round.streak t.binding.key (sc.rounds (turns ++ [t])) = n) :
    (t.play (sc.after turns)).action = .requeue (.ofNat (60 * min 10 (Nat.fib n))) ∧
      (sc.after (turns ++ [t])).operator.tracker.errorCount (bindingKey t.binding) =
        .ofNat n := by
  obtain ⟨hinit, hlast⟩ := List.forall_mem_append.1 hplain
  have ht : t.binding.Plain := hlast t (List.mem_singleton_self t)
  have hbinding : (t.play (sc.after turns)).turn.binding = t.binding := rfl
  have hcount : (t.play (sc.after turns)).count (Round.streak t.binding.key (sc.rounds turns)) =
      n := by
    rw [← hn, rounds_concat, Round.streak_concat, hbinding, if_pos rfl]
  constructor
  · rw [← hcount]
    exact (t.failures_play_self _ (failures_after hsc hinit ht)).2 e herror hback
  · rw [BackoffTracker.errorCount_eq, failures_after hsc hplain ht, hn]
    rfl

def unbuilt (ns : String) : Turn (Store MonitoringInstance) where
  env := .answering (fun _ => .error (.serialization "no template")) ⟨200, ""⟩
  binding := finalizedOrders ns

theorem requeue_streak_unbuilt :
    let before := [unbuilt "shop", unbuilt "bazaar", unbuilt "shop"]
    ((unbuilt "shop").play (beginning.after before)).action = .requeue 120 ∧
      (beginning.after (before ++ [unbuilt "shop"])).operator.tracker.errorCount "shop/orders" =
        3 := by
  have hshop : (finalizedOrders "shop").Plain := (by decide : '/' ∉ "shop".toList)
  have hbazaar : (finalizedOrders "bazaar").Plain := (by decide : '/' ∉ "bazaar".toList)
  have hplain : ∀ t ∈ [unbuilt "shop", unbuilt "bazaar", unbuilt "shop"] ++ [unbuilt "shop"],
      t.binding.Plain := by
    simp [unbuilt, hshop, hbazaar]
  have hsc : beginning.operator.tracker = ∅ := rfl
  have herror : ((unbuilt "shop").play (beginning.after
      [unbuilt "shop", unbuilt "bazaar", unbuilt "shop"])).error? = some _ := rfl
  have hn : Round.streak (finalizedOrders "shop").key (beginning.rounds
      ([unbuilt "shop", unbuilt "bazaar", unbuilt "shop"] ++ [unbuilt "shop"])) = 3 := rfl
  have hdelay : UInt64.ofNat (60 * min 10 (Nat.fib 3)) = 120 := by decide
  obtain ⟨haction, hcount⟩ := requeue_streak hsc hplain herror rfl hn
  exact ⟨haction.trans (congrArg Action.requeue hdelay), hcount⟩

/-- A pass that does its work and cannot say so in the status. -/
def unpatched : Turn (Store MonitoringInstance) where
  env := .answering (fun _ => .ok {}) ⟨503, ""⟩
  binding := finalizedOrders "shop"

theorem requeue_unpatched :
    ((beginning.rounds [unpatched, unpatched, unpatched]).map fun r =>
        (r.action, r.error?.map (·.kind))) =
        [(.requeue 60, some "kube"), (.requeue 60, some "kube"), (.requeue 60, some "kube")] ∧
      (beginning.after [unpatched, unpatched, unpatched]).operator.tracker.errorCount "shop/orders" =
        1 := by
  constructor
  · rfl
  · rfl

end Scene

end MonitoringStack
