import Mathlib.Algebra.Group.Nat.Defs
import TargetRegistrar.Controller.Retrying

/-!
# The waits of a policy

Each wait of a schedule is the one before it times the factor, and every product is cut off twice:
at the longest duration, and at the bound.  Nothing of that shows.  The bound is a duration itself,
and to cut off the factors of a product comes to the same as cutting off the product
(`min_mul_of_capped`), so that a wait is the exact power of the factor in units of the first wait,
cut off once (`wait_nanos`).  `schedule_closed_form` is the law.
-/

namespace TargetRegistrar.Gateway.RetryPolicy

/-- A product with a number that is cut off before it is multiplied and again afterwards.  Where the
number is cut off, so is the product, unless it is zero. -/
lemma min_mul_of_capped (bound a k : Nat) : min bound (min bound a * k) = min bound (a * k) := by
  obtain rfl | hk := Nat.eq_zero_or_pos k
  · simp
  · have hbound : bound ≤ bound * k := Nat.le_mul_of_pos_right bound hk
    rw [← Nat.mul_min_mul_right, ← Nat.min_assoc, Nat.min_eq_left hbound]

variable (p : RetryPolicy)

/-- The wait before a repetition, the first of which has the number zero. -/
def wait : Nat → Duration
  | 0 => p.firstBackoff
  | i + 1 => p.nextBackoff (wait i)

lemma nextBackoff_nanos (current : Duration) :
    (p.nextBackoff current).nanos = min p.maxBackoff.nanos (current.nanos * p.multiplier) := by
  have hmax : p.maxBackoff.nanos ≤ maxDurationNanos := p.maxBackoff.nanos_le
  simp only [nextBackoff, Duration.nanos_min, Duration.nanos_scale]
  omega

/-- A wait is exact up to the bound, whatever the first wait, the bound and the factor are. -/
lemma wait_nanos (i : Nat) : (p.wait i).nanos =
    min p.maxBackoff.nanos (p.initialBackoff.nanos * p.multiplier ^ i) := by
  induction i with
  | zero => simp [wait, firstBackoff, Nat.min_comm]
  | succ i ih =>
    rw [wait, nextBackoff_nanos, ih, min_mul_of_capped, Nat.pow_succ, Nat.mul_assoc]

/-- Without a factor that is zero, later waits are no shorter. -/
lemma wait_mono (hk : 1 ≤ p.multiplier) {i j : Nat} (hij : i ≤ j) :
    (p.wait i).nanos ≤ (p.wait j).nanos := by
  have hpow : p.multiplier ^ i ≤ p.multiplier ^ j := Nat.pow_le_pow_right hk hij
  have hmul : p.initialBackoff.nanos * p.multiplier ^ i ≤
      p.initialBackoff.nanos * p.multiplier ^ j := Nat.mul_le_mul_left _ hpow
  rw [wait_nanos, wait_nanos]
  omega

lemma waitsFrom_wait (n i : Nat) : p.waitsFrom n (p.wait i) = (List.range' i n).map p.wait := by
  induction n generalizing i with
  | zero => rfl
  | succ n ih =>
    rw [waitsFrom, List.range'_succ, List.map_cons, ← ih (i + 1)]
    rfl

/-- The schedule lists the waits in their order. -/
lemma schedule_eq : p.schedule = (List.range p.maxRetries).map p.wait := by
  rw [List.range_eq_range']
  exact p.waitsFrom_wait p.maxRetries 0

/-- A schedule has one wait for each repetition.  The `i`-th is the first one times the `i`-th power
of the factor, computed exactly, but the bound at most; so no wait is longer than the bound, and
unless the factor is zero none is shorter than the one before. -/
theorem schedule_closed_form :
    p.schedule.length = p.maxRetries ∧
      (∀ (i : Nat) (hi : i < p.schedule.length), p.schedule[i].nanos =
        min p.maxBackoff.nanos (p.initialBackoff.nanos * p.multiplier ^ i)) ∧
      (∀ w ∈ p.schedule, w.nanos ≤ p.maxBackoff.nanos) ∧
      (1 ≤ p.multiplier → p.schedule.Pairwise (·.nanos ≤ ·.nanos)) := by
  rw [schedule_eq]
  refine ⟨by simp, fun i hi => ?_, fun w hw => ?_, fun hk => ?_⟩
  · rw [List.getElem_map, List.getElem_range, wait_nanos]
  · obtain ⟨i, -, rfl⟩ := List.mem_map.mp hw
    rw [wait_nanos]
    exact Nat.min_le_left ..
  · rw [List.pairwise_map]
    exact List.pairwise_lt_range.imp fun hij => p.wait_mono hk (Nat.le_of_lt hij)

/-- The waits double until the bound is reached. -/
example : ({ standard with maxRetries := 7 } : RetryPolicy).schedule =
    [1, 2, 4, 8, 16, 30, 30].map .ofSeconds := by decide +kernel

end TargetRegistrar.Gateway.RetryPolicy
