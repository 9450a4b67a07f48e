import TargetRegistrar.Duration
import TargetRegistrar.Table

/-!
# Fibonacci backoff

A sequence of delays in which each is the sum of the two before it, up to a bound.

The controller keeps one such sequence per resource. A failure takes the next delay, a success
starts the sequence again, and a resource that is gone is forgotten.
-/

namespace TargetRegistrar.Backoff

/-! ## The sequence of delays -/

/-- A place in the sequence of delays. -/
structure Fibonacci where
  /-- The first delay, before the bound is applied. -/
  min : Duration
  /-- The delay before the current one; zero at the start. -/
  previous : Duration
  current : Duration
  max : Duration
  deriving DecidableEq, Repr

namespace Fibonacci

/-- The start of the sequence. -/
def start (min max : Duration) : Fibonacci :=
  ⟨min, .zero, min.min max, max⟩

/-- The next delay and the place after it. -/
def next (b : Fibonacci) : Duration × Fibonacci :=
  (b.current, { b with previous := b.current, current := (b.previous.add b.current).min b.max })

/-- The start of the same sequence. -/
def reset (b : Fibonacci) : Fibonacci :=
  start b.min b.max

end Fibonacci

/-! ## Delays of resources -/

/-- The delay after the first failure. -/
def firstDelay : Duration := .ofSeconds 5

/-- No delay is longer. -/
def longestDelay : Duration := .ofSeconds 300

/-- The failures in a row of one resource. -/
structure Account where
  failures : Nat
  delays : Fibonacci
  deriving DecidableEq, Repr

/-- The account of a resource without failures. -/
def Account.new : Account :=
  ⟨0, .start firstDelay longestDelay⟩

/-- The accounts by the key of the resource. -/
structure Ledger where
  /-- The accounts; a resource that never failed has none. -/
  accounts : Table String Account := {}
  deriving DecidableEq, Repr

namespace Ledger

/-- The account of a key. -/
def account (l : Ledger) (key : String) : Account :=
  (l.accounts.get? key).getD .new

/-- The number of failures in a row. -/
def failures (l : Ledger) (key : String) : Nat :=
  (l.account key).failures

/-- Counts a failure and takes the delay that follows it. -/
def fail (l : Ledger) (key : String) : Duration × Ledger :=
  let a := l.account key
  (a.delays.next.1, ⟨l.accounts.insert key ⟨a.failures + 1, a.delays.next.2⟩⟩)

/-- Starts the sequence again after a success, if there was a failure since the last start. -/
def succeed (l : Ledger) (key : String) : Ledger :=
  match l.accounts.get? key with
  | some a => if 0 < a.failures then ⟨l.accounts.insert key ⟨0, a.delays.reset⟩⟩ else l
  | none => l

/-- Drops the account of a resource that is gone. -/
def forget (l : Ledger) (key : String) : Ledger :=
  ⟨l.accounts.erase key⟩

end Ledger

end TargetRegistrar.Backoff
