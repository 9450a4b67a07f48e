import Mathlib.Data.Nat.Fib.Basic
import Mathlib.Tactic.Common
import TargetRegistrar.Backoff.Fibonacci

/-!
# Places in a sequence of delays

A sequence of delays keeps two terms, both cut off at the bound, and their sum is cut off twice: at
the longest duration, and at the bound.  Every place is told by its number all the same, because
that comes to the same as cutting off the exact multiple of the first delay once
(`after_current`).  To start the sequence again leads back to the place with the number zero.  So
the delay after any moves is told by the number of delays taken since the last restart, and
`next_delay_exact` is the law.
-/

namespace TargetRegistrar.Backoff.Fibonacci

/-- The place after a number of delays. -/
def after (min max : Duration) : Nat → Fibonacci
  | 0 => start min max
  | n + 1 => (after min max n).next.2

section Places

variable (min max : Duration) (n : Nat)

@[simp] lemma after_min : (after min max n).min = min := by
  induction n with
  | zero => rfl
  | succ n ih => exact ih

@[simp] lemma after_max : (after min max n).max = max := by
  induction n with
  | zero => rfl
  | succ n ih => exact ih

/-- The two delays that a place keeps are multiples of the first one, up to the bound. -/
lemma after_terms :
    (after min max n).previous.nanos = Min.min max.nanos (Nat.fib n * min.nanos) ∧
      (after min max n).current.nanos = Min.min max.nanos (Nat.fib (n + 1) * min.nanos) := by
  induction n with
  | zero => simp [after, start, Duration.zero, Nat.min_comm]
  | succ n ih =>
    obtain ⟨hprevious, hcurrent⟩ := ih
    refine ⟨hcurrent, ?_⟩
    -- no sum of two delays below the bound is cut off at the longest duration before the bound is
    have hmax : max.nanos ≤ maxDurationNanos := max.nanos_le
    have hfib : Nat.fib (n + 2) * min.nanos =
        Nat.fib n * min.nanos + Nat.fib (n + 1) * min.nanos := by
      rw [Nat.fib_add_two, Nat.add_mul]
    have hnext : (after min max (n + 1)).current.nanos =
        Min.min (Min.min ((after min max n).previous.nanos + (after min max n).current.nanos)
          maxDurationNanos) max.nanos := by
      simp [after, next]
    rw [hnext, hprevious, hcurrent, hfib]
    omega

/-- The delay at a place is exact up to the bound, whatever the first delay and the bound are. -/
lemma after_current :
    (after min max n).next.1.nanos = Min.min max.nanos (Nat.fib (n + 1) * min.nanos) :=
  (after_terms min max n).2

@[simp] lemma after_reset : (after min max n).reset = after min max 0 := by
  simp [reset, after]

/-- Later places have no shorter delays. -/
lemma after_current_mono {m n : Nat} (hmn : m ≤ n) :
    (after min max m).next.1.nanos ≤ (after min max n).next.1.nanos := by
  have hfib : Nat.fib (m + 1) ≤ Nat.fib (n + 1) := Nat.fib_mono (by omega)
  have hmul : Nat.fib (m + 1) * min.nanos ≤ Nat.fib (n + 1) * min.nanos :=
    Nat.mul_le_mul_right _ hfib
  rw [after_current, after_current]
  omega

end Places

/-! ## Moves -/

/-- What can be done with a sequence of delays. -/
inductive Move where
  /-- To take the next delay. -/
  | next
  /-- To start again. -/
  | reset
  deriving DecidableEq, Repr

/-- The place after a move. -/
def move (b : Fibonacci) : Move → Fibonacci
  | .next => b.next.2
  | .reset => b.reset

/-- The place after some moves from the start, the last one first. -/
def afterMoves (min max : Duration) : List Move → Fibonacci
  | [] => start min max
  | m :: earlier => (afterMoves min max earlier).move m

/-- How many delays have been taken since the last restart. -/
def taken (moves : List Move) : Nat :=
  (moves.takeWhile (· = .next)).length

/-- Only the moves since the last restart matter. -/
lemma afterMoves_eq_after (min max : Duration) (moves : List Move) :
    afterMoves min max moves = after min max (taken moves) := by
  induction moves with
  | nil => rfl
  | cons m earlier ih =>
    cases m with
    | next =>
      have htaken : taken (.next :: earlier) = taken earlier + 1 := by simp [taken]
      rw [afterMoves, ih, htaken]
      rfl
    | reset =>
      rw [afterMoves, ih]
      exact after_reset min max (taken earlier)

lemma taken_le_append {later : List Move} (h : .reset ∉ later) (moves : List Move) :
    taken moves ≤ taken (later ++ moves) := by
  have hnext : ∀ m ∈ later, decide (m = .next) = true := by
    intro m hm
    cases m with
    | next => rfl
    | reset => exact absurd hm h
  rw [taken, taken, List.takeWhile_append_of_pos hnext, List.length_append]
  exact Nat.le_add_left ..

/-- Whatever has been done with a sequence of delays, the next delay is the first one times the
Fibonacci number of its place since the last restart, computed exactly, but the bound at most.  So
as long as the sequence is not started again, no delay is shorter than one before. -/
theorem next_delay_exact (min max : Duration) (moves : List Move) :
    (afterMoves min max moves).next.1.nanos =
        Min.min max.nanos (Nat.fib (taken moves + 1) * min.nanos) ∧
      ∀ later : List Move, .reset ∉ later →
        (afterMoves min max moves).next.1.nanos ≤
          (afterMoves min max (later ++ moves)).next.1.nanos := by
  refine ⟨?_, fun later hlater => ?_⟩
  · rw [afterMoves_eq_after, after_current]
  · rw [afterMoves_eq_after, afterMoves_eq_after]
    exact after_current_mono min max (taken_le_append hlater moves)

/-- A bound that is no multiple of the first delay is reached, and a restart leads back. -/
example : [[], [.next], [.next, .next], [.next, .next, .next], [.reset, .next, .next, .next]].map
      (fun moves => (afterMoves (.ofSeconds 5) (.ofSeconds 12) moves).next.1) =
    [5, 5, 10, 12, 5].map .ofSeconds := by decide +kernel

end TargetRegistrar.Backoff.Fibonacci
