import MonitoringStack.KeyMap

namespace MonitoringStack

/-- Delays in minutes that grow along the Fibonacci numbers up to a cap. The first delay is not
capped. -/
structure FibonacciBackoff where
  least : UInt64
  previous : UInt64
  current : UInt64
  most : UInt64
deriving DecidableEq

namespace FibonacciBackoff

def new (least most : UInt64) : FibonacciBackoff := ⟨least, 0, least, most⟩

def next (b : FibonacciBackoff) : UInt64 × FibonacciBackoff :=
  (b.current * 60,
    { b with previous := b.current, current := min (b.previous + b.current) b.most })

def reset (b : FibonacciBackoff) : FibonacciBackoff :=
  { b with previous := 0, current := b.least }

end FibonacciBackoff

structure Failures where
  backoff : FibonacciBackoff := .new 1 10
  count : UInt32 := 0

abbrev BackoffTracker := KeyMap String Failures

namespace BackoffTracker

def nextDelay (t : BackoffTracker) (key : String) : UInt64 × BackoffTracker :=
  let failures := (t.get? key).getD {}
  let (delay, backoff) := failures.backoff.next
  (delay, t.insert key ⟨backoff, failures.count + 1⟩)

def errorCount (t : BackoffTracker) (key : String) : UInt32 :=
  ((t.get? key).map (·.count)).getD 0

def reset (t : BackoffTracker) (key : String) : BackoffTracker := t.erase key

end BackoffTracker

end MonitoringStack
