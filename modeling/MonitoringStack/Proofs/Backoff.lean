import Mathlib.Data.Nat.Fib.Basic
import MonitoringStack.Backoff
import MonitoringStack.Proofs.KeyMap

namespace MonitoringStack

namespace FibonacciBackoff

/-- The closed form of the `n`th delay, counted from one. The first is not capped. -/
def minutes (least most n : Nat) : Nat := if n = 1 then least else min most (Nat.fib n * least)

theorem minutes_le (least most n : Nat) : minutes least most n ≤ max least most := by
  unfold minutes
  split <;> omega

theorem minutes_of_ne_one {least most n : Nat} (h : n ≠ 1) :
    minutes least most n = min most (Nat.fib n * least) := if_neg h

theorem minutes_add_two (least most n : Nat) :
    minutes least most (n + 2) = min (minutes least most n + minutes least most (n + 1)) most := by
  have hcap (a b : Nat) : min most (a + b) = min (min most a + min most b) most := by omega
  rw [minutes_of_ne_one (by omega : n + 2 ≠ 1), Nat.fib_add_two, Nat.add_mul]
  match n with
  | 0 => simp [minutes, Nat.min_comm]
  | 1 =>
    -- the first delay may be above the cap, the sum is cut to it all the same
    have hone : minutes least most 1 = least := rfl
    have htwo : minutes least most 2 = min most least := by simp [minutes]
    rw [hone, htwo, Nat.fib_one, Nat.fib_two, Nat.one_mul]
    omega
  | n + 2 =>
    rw [minutes_of_ne_one (by omega : n + 2 ≠ 1), minutes_of_ne_one (by omega : n + 2 + 1 ≠ 1),
      hcap]

section Monotone

variable {least most : Nat}

theorem minutes_of_le (h : least ≤ most) (n : Nat) :
    minutes least most n = min most (Nat.fib n * least) := by
  by_cases hone : n = 1
  · rw [hone, minutes, if_pos rfl, Nat.fib_one, Nat.one_mul, Nat.min_eq_right h]
  · exact minutes_of_ne_one hone

theorem minutes_mono (h : least ≤ most) {m n : Nat} (hmn : m ≤ n) :
    minutes least most m ≤ minutes least most n := by
  rw [minutes_of_le h, minutes_of_le h]
  have hfib : Nat.fib m * least ≤ Nat.fib n * least := Nat.mul_le_mul_right _ (Nat.fib_mono hmn)
  exact min_le_min_left most hfib

end Monotone

def after (least most : UInt64) (n : Nat) : FibonacciBackoff where
  least
  previous := .ofNat (minutes least.toNat most.toNat n)
  current := .ofNat (minutes least.toNat most.toNat (n + 1))
  most

variable (least most : UInt64) (n : Nat)

theorem new_eq_after : new least most = after least most 0 := by
  simp [new, after, minutes]

theorem reset_after : (after least most n).reset = after least most 0 := by
  rw [← new_eq_after]
  rfl

theorem next_after (hleast : 60 * least.toNat < UInt64.size)
    (hmost : 60 * most.toNat < UInt64.size) :
    (after least most n).next =
      (.ofNat (60 * minutes least.toNat most.toNat (n + 1)), after least most (n + 1)) := by
  have hdelay : UInt64.ofNat (minutes least.toNat most.toNat (n + 1)) * 60 =
      .ofNat (60 * minutes least.toNat most.toNat (n + 1)) := by
    rw [Nat.mul_comm, UInt64.ofNat_mul]
    rfl
  have hcurrent : min (UInt64.ofNat (minutes least.toNat most.toNat n) +
        UInt64.ofNat (minutes least.toNat most.toNat (n + 1))) most =
      .ofNat (minutes least.toNat most.toNat (n + 2)) := by
    have hle := minutes_le least.toNat most.toNat n
    have hle' := minutes_le least.toNat most.toNat (n + 1)
    rw [minutes_add_two, ← UInt64.ofNat_add]
    apply UInt64.toNat_inj.1
    rw [UInt64.toNat_min, UInt64.toNat_ofNat_of_lt' (by omega),
      UInt64.toNat_ofNat_of_lt' (by omega)]
  rw [next, after, after, hdelay, hcurrent]

/-- The sum and the product that the next delay takes fit into a word. -/
structure Fits (b : FibonacciBackoff) : Prop where
  product : b.current.toNat * 60 < UInt64.size
  sum : b.previous.toNat + b.current.toNat < UInt64.size

inductive Call where
  | next
  | reset
deriving DecidableEq

def called (b : FibonacciBackoff) : Call → FibonacciBackoff
  | .next => b.next.2
  | .reset => b.reset

def run (b : FibonacciBackoff) (calls : List Call) : FibonacciBackoff := calls.foldl called b

/-- The delays that were given since the last reset. -/
def given (calls : List Call) : Nat := (calls.reverse.takeWhile (· ≠ .reset)).length

theorem given_concat (calls : List Call) (c : Call) :
    given (calls ++ [c]) = if c = .reset then 0 else given calls + 1 := by
  rw [given, List.reverse_append, List.reverse_singleton, List.singleton_append,
    List.takeWhile_cons]
  cases c <;> simp [given]

theorem given_append_replicate (calls : List Call) (n : Nat) :
    given (calls ++ List.replicate n .next) = given calls + n := by
  induction n with
  | zero => rw [List.replicate_zero, List.append_nil, Nat.add_zero]
  | succ n ih =>
    rw [List.replicate_succ', ← List.append_assoc, given_concat, ih]
    rfl

section Run

variable {least most : UInt64} (hleast : 60 * least.toNat < UInt64.size)
  (hmost : 60 * most.toNat < UInt64.size)
include hleast hmost

/-- A backoff is known by how many delays it gave since the last reset. -/
theorem run_new (calls : List Call) :
    (new least most).run calls = after least most (given calls) := by
  induction calls using List.reverseRecOn with
  | nil => exact new_eq_after least most
  | append_singleton calls c ih =>
    rw [run, List.foldl_append, given_concat]
    change called ((new least most).run calls) c = _
    rw [ih]
    cases c with
    | next => exact congrArg Prod.snd (next_after least most _ hleast hmost)
    | reset => exact reset_after least most _

theorem toNat_ofNat_minutes (n : Nat) :
    (UInt64.ofNat (60 * minutes least.toNat most.toNat n)).toNat =
        60 * minutes least.toNat most.toNat n ∧
      (UInt64.ofNat (minutes least.toNat most.toNat n)).toNat =
        minutes least.toNat most.toNat n := by
  have hle := minutes_le least.toNat most.toNat n
  exact ⟨UInt64.toNat_ofNat_of_lt' (by omega), UInt64.toNat_ofNat_of_lt' (by omega)⟩

theorem fits_after (n : Nat) : (after least most n).Fits := by
  have hle := minutes_le least.toNat most.toNat n
  have hle' := minutes_le least.toNat most.toNat (n + 1)
  have hprevious := (toNat_ofNat_minutes hleast hmost n).2
  have hcurrent := (toNat_ofNat_minutes hleast hmost (n + 1)).2
  constructor
  · change (UInt64.ofNat (minutes least.toNat most.toNat (n + 1))).toNat * 60 < _
    omega
  · change (UInt64.ofNat (minutes least.toNat most.toNat n)).toNat +
      (UInt64.ofNat (minutes least.toNat most.toNat (n + 1))).toNat < _
    omega

theorem delay_run (calls : List Call) : ((new least most).run calls).next.1.toNat =
    60 * minutes least.toNat most.toNat (given calls + 1) := by
  rw [run_new hleast hmost, next_after least most _ hleast hmost]
  exact (toNat_ofNat_minutes hleast hmost _).1

/-- However a backoff is called, it computes without overflow, and its delays are the Fibonacci
multiples of the least, up to the most, counted from the last reset. If the least is no more than
the most, they never pass the most or fall, and stay at the most once they are there. -/
theorem next_run (calls : List Call) :
    ((new least most).run calls).Fits ∧
      (∀ n, given calls + 1 = n → ((new least most).run calls).next.1.toNat =
        if n = 1 then 60 * least.toNat else 60 * min most.toNat (Nat.fib n * least.toNat)) ∧
      (least ≤ most → ((new least most).run calls).next.1.toNat ≤ 60 * most.toNat ∧
        ∀ more, let later := (new least most).run (calls ++ List.replicate more .next)
          ((new least most).run calls).next.1 ≤ later.next.1 ∧
            (((new least most).run calls).next.1.toNat = 60 * most.toNat →
              later.next.1.toNat = 60 * most.toNat)) := by
  refine ⟨?_, ?_, ?_⟩
  · rw [run_new hleast hmost]
    exact fits_after hleast hmost _
  · rintro n rfl
    rw [delay_run hleast hmost, minutes]
    split <;> rfl
  · intro hle
    have hcap (calls : List Call) :
        ((new least most).run calls).next.1.toNat ≤ 60 * most.toNat := by
      have hminutes := minutes_le least.toNat most.toNat (given calls + 1)
      rw [Nat.max_eq_right (UInt64.le_iff_toNat_le.1 hle)] at hminutes
      rw [delay_run hleast hmost]
      exact Nat.mul_le_mul_left 60 hminutes
    refine ⟨hcap calls, fun more => ?_⟩
    have hgrows : ((new least most).run calls).next.1.toNat ≤
        ((new least most).run (calls ++ List.replicate more .next)).next.1.toNat := by
      rw [delay_run hleast hmost, delay_run hleast hmost, given_append_replicate]
      apply Nat.mul_le_mul_left
      exact minutes_mono (UInt64.le_iff_toNat_le.1 hle) (by omega)
    refine ⟨UInt64.le_iff_toNat_le.2 hgrows, fun hthere => ?_⟩
    exact Nat.le_antisymm (hcap _) (hthere ▸ hgrows)

end Run

def resumed : List Call :=
  List.replicate 3 .next ++ .reset :: List.replicate 5 .next

theorem next_run_resumed :
    ((new 3 20).run resumed).Fits ∧ ((new 3 20).run resumed).next.1.toNat = 1200 ∧
      ((new 3 20).run (resumed ++ List.replicate 4 .next)).next.1.toNat = 1200 ∧
      ((new 30 20).run resumed).next.1.toNat = 1200 ∧
      ((new 30 20).run [.next, .reset]).next.1.toNat = 1800 := by
  obtain ⟨hfits, hdelay, hbounded⟩ :=
    @next_run 3 20 (by decide) (by decide) resumed
  have hat : ((new 3 20).run resumed).next.1.toNat = 1200 := (hdelay 6 rfl).trans (by decide)
  have hlater := ((hbounded (by decide)).2 4).2 hat
  have hsteep := @next_run 30 20 (by decide) (by decide)
  exact ⟨hfits, hat, hlater, ((hsteep resumed).2.1 6 rfl).trans (by decide),
    ((hsteep [.next, .reset]).2.1 1 rfl).trans (by decide)⟩

end FibonacciBackoff

/-- What is remembered of a key after `n` failures in a row. -/
def Failures.after (n : Nat) : Failures := ⟨.after 1 10 n, .ofNat n⟩

namespace BackoffTracker

open FibonacciBackoff

def failures (t : BackoffTracker) (key : String) : Failures := (t.get? key).getD {}

variable (t : BackoffTracker) (key : String)

theorem failures_empty : failures ∅ key = .after 0 :=
  congrArg (Failures.mk · 0) (new_eq_after 1 10)

theorem errorCount_eq : t.errorCount key = (t.failures key).count := by
  rw [errorCount, failures]
  cases t.get? key <;> rfl

theorem failures_reset (l : String) :
    (t.reset key).failures l = if l = key then .after 0 else t.failures l := by
  by_cases h : l = key
  · rw [if_pos h, h, failures, reset, KeyMap.get?_erase_self]
    exact failures_empty key
  · rw [if_neg h, failures, reset, KeyMap.get?_erase_of_ne _ h]
    rfl

theorem nextDelay_after {n : Nat} (h : t.failures key = .after n) :
    t.nextDelay key = (.ofNat (60 * min 10 (Nat.fib (n + 1))), t.insert key (.after (n + 1))) := by
  have hminutes : minutes 1 10 (n + 1) = min 10 (Nat.fib (n + 1)) := by
    unfold minutes
    split
    · rename_i hone
      rw [hone]
      rfl
    · rw [Nat.mul_one]
  have hnext : (t.failures key).backoff.next =
      (.ofNat (60 * min 10 (Nat.fib (n + 1))), .after 1 10 (n + 1)) := by
    rw [h, ← hminutes]
    exact next_after 1 10 n (by decide) (by decide)
  have hcount : (t.failures key).count + 1 = .ofNat (n + 1) := by
    rw [h, UInt32.ofNat_add]
    rfl
  have hnextDelay : t.nextDelay key = ((t.failures key).backoff.next.1,
      t.insert key ⟨(t.failures key).backoff.next.2, (t.failures key).count + 1⟩) := rfl
  rw [hnextDelay, hnext, hcount]
  rfl

theorem failures_insert (f : Failures) (l : String) :
    failures (t.insert key f) l = if l = key then f else t.failures l := by
  rw [failures, KeyMap.get?_insert]
  split <;> rfl

theorem errorCount_nextDelay : (t.nextDelay key).2.errorCount key = t.errorCount key + 1 := by
  have hinsert : (t.nextDelay key).2 = t.insert key
      ⟨(t.failures key).backoff.next.2, (t.failures key).count + 1⟩ := rfl
  rw [errorCount_eq, errorCount_eq, hinsert, failures_insert, if_pos rfl]

end BackoffTracker

end MonitoringStack
