/-!
# Durations

Spans of time in whole nanoseconds, up to the largest one that 64 bits of seconds can hold. Sums
and products that would exceed it stop there; the laws say that below it they are exact.
-/

namespace TargetRegistrar

/-- The nanoseconds in a second. -/
def nanosPerSecond : Nat := 1000000000

/-- The nanoseconds of the longest duration: one less than 2^64 seconds. -/
def maxDurationNanos : Nat := 18446744073709551616 * nanosPerSecond - 1

/-- A span of time. -/
@[ext] structure Duration where
  nanos : Nat
  /-- No duration is longer than the longest one. -/
  nanos_le : nanos ≤ maxDurationNanos
  deriving DecidableEq, Repr

namespace Duration

/-- The duration of that many nanoseconds, or the longest one if that is shorter. -/
def ofNanos (n : Nat) : Duration :=
  ⟨min n maxDurationNanos, Nat.min_le_right ..⟩

/-- The duration of that many seconds, or the longest one if that is shorter. -/
def ofSeconds (s : Nat) : Duration :=
  ofNanos (s * nanosPerSecond)

/-- The duration of that many milliseconds, or the longest one if that is shorter. -/
def ofMillis (ms : Nat) : Duration :=
  ofNanos (ms * 1000000)

/-- No time at all. -/
def zero : Duration := ofNanos 0

instance : Inhabited Duration := ⟨zero⟩

/-- The shorter of two durations. -/
def min (a b : Duration) : Duration :=
  if a.nanos ≤ b.nanos then a else b

/-- The sum, at most the longest duration. -/
def add (a b : Duration) : Duration :=
  ofNanos (a.nanos + b.nanos)

/-- The product with a number, at most the longest duration. -/
def scale (a : Duration) (k : Nat) : Duration :=
  ofNanos (a.nanos * k)

/-- The whole milliseconds, a started one counted as a whole one. -/
def ceilMillis (a : Duration) : Nat :=
  (a.nanos + 999999) / 1000000

@[simp] theorem nanos_ofNanos (n : Nat) : (ofNanos n).nanos = Min.min n maxDurationNanos := rfl

@[simp] theorem nanos_min (a b : Duration) : (a.min b).nanos = Min.min a.nanos b.nanos := by
  unfold min
  split <;> omega

@[simp] theorem nanos_add (a b : Duration) :
    (a.add b).nanos = Min.min (a.nanos + b.nanos) maxDurationNanos := rfl

@[simp] theorem nanos_scale (a : Duration) (k : Nat) :
    (a.scale k).nanos = Min.min (a.nanos * k) maxDurationNanos := rfl

end Duration

end TargetRegistrar
