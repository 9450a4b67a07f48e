import TargetRegistrar.Table

/-!
# Counters

What the controller counts: passes and how long they took, failed passes, remote operations, and
scheduled repetitions.
-/

namespace TargetRegistrar

/-- How many observed values lie below certain bounds. -/
structure Histogram where
  /-- For each bound in increasing order, how many values lie between it and the one before. -/
  buckets : List (Float × Nat)
  sum : Float
  count : Nat

namespace Histogram

/-- A histogram without values. -/
def empty (bounds : List Float) : Histogram :=
  ⟨bounds.map fun b => (b, 0), 0, 0⟩

/-- Counts a value in the first bucket that admits it. -/
def place (value : Float) : List (Float × Nat) → List (Float × Nat)
  | [] => []
  | (bound, n) :: rest =>
    if value ≤ bound then (bound, n + 1) :: rest else (bound, n) :: place value rest

/-- Adds a value. -/
def observe (h : Histogram) (value : Float) : Histogram :=
  ⟨place value h.buckets, h.sum + value, h.count + 1⟩

/-- For each bound, how many values are not above it. -/
def cumulative (below : Nat) : List (Float × Nat) → List (Float × Nat)
  | [] => []
  | (bound, n) :: rest => (bound, below + n) :: cumulative (below + n) rest

end Histogram

/-- The counters of the controller. -/
structure Metrics where
  passes : Nat := 0
  /-- How long the passes took, in seconds. -/
  durations : Histogram := .empty [0.1, 0.5, 1, 2, 5, 10, 30, 60]
  /-- The failed passes, by label of the error. -/
  errors : Table String Nat := {}
  /-- The remote operations, by operation and outcome. -/
  calls : Table (String × String) Nat := {}
  /-- The scheduled repetitions, by reason. -/
  requeues : Table String Nat := {}

namespace Metrics

/-- A table of counts with one of them one higher; a count that was not there starts from zero. -/
def increment {κ : Type} [DecidableEq κ] (t : Table κ Nat) (k : κ) : Table κ Nat :=
  t.insert k ((t.get? k).getD 0 + 1)

/-- Counts a pass that took that many seconds. -/
def countPass (m : Metrics) (seconds : Float) : Metrics :=
  { m with passes := m.passes + 1, durations := m.durations.observe seconds }

/-- Counts a failed pass. -/
def countError (m : Metrics) (label : String) : Metrics :=
  { m with errors := increment m.errors label }

/-- The word for how a remote operation ended. -/
def outcome (success : Bool) : String :=
  if success then "success" else "error"

/-- Counts a remote operation. -/
def countCall (m : Metrics) (operation : String) (success : Bool) : Metrics :=
  { m with calls := increment m.calls (operation, outcome success) }

/-- Counts a scheduled repetition. -/
def countRequeue (m : Metrics) (reason : String) : Metrics :=
  { m with requeues := increment m.requeues reason }

/-- What registering the counters a second time is answered with. -/
def alreadyRegistered : String := "Duplicate metrics collector registration attempted"

end Metrics

end TargetRegistrar
