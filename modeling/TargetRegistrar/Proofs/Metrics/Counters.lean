import Mathlib.Algebra.GroupWithZero.Nat
import TargetRegistrar.Controller.Program
import TargetRegistrar.Metrics

/-!
# What the counters show

A counter that has not been touched is not in its table, so a count is read off a table with zero as
the default.  To increment a count raises it by one, leaves the others alone, and raises the sum of
the table by one, whether or not the count was there.

`Metrics.after` is what becomes of the counters with each question.
-/

namespace TargetRegistrar

open Controller

/-! ## Words -/

lemma Gateway.Operation.label_inj {operation operation' : Gateway.Operation} :
    operation.label = operation'.label ↔ operation = operation' := by
  cases operation <;> cases operation' <;> decide

lemma Metrics.outcome_inj {success success' : Bool} :
    Metrics.outcome success = Metrics.outcome success' ↔ success = success' := by
  cases success <;> cases success' <;> decide

/-! ## Tables of counts -/

namespace Metrics

section Tables

variable {κ : Type}

/-- The sum of all counts. -/
def total (t : Table κ Nat) : Nat :=
  (t.entries.map (·.2)).sum

variable [DecidableEq κ]

/-- The count under a key; one that is not there is zero. -/
def countOf (t : Table κ Nat) (k : κ) : Nat :=
  (t.get? k).getD 0

lemma countOf_increment (t : Table κ Nat) (k k' : κ) :
    countOf (increment t k) k' = countOf t k' + if k = k' then 1 else 0 := by
  unfold countOf increment
  rw [Table.get?_insert]
  by_cases h : k = k'
  · simp [h]
  · simp [h, Ne.symm h]

lemma sum_put (entries : List (κ × Nat)) (k : κ) :
    ((Table.put k ((Table.find k entries).getD 0 + 1) entries).map (·.2)).sum =
      (entries.map (·.2)).sum + 1 := by
  induction entries with
  | nil => rfl
  | cons e entries ih =>
    by_cases h : e.1 = k
    · simp only [Table.put, Table.find, h, if_true, Option.getD_some, List.map_cons, List.sum_cons]
      omega
    · simp only [Table.put, Table.find, h, if_false, List.map_cons, List.sum_cons, ih]
      omega

lemma total_increment (t : Table κ Nat) (k : κ) : total (increment t k) = total t + 1 :=
  sum_put t.entries k

end Tables

/-- The counters after a question. -/
def after (seconds : Float) (m : Metrics) : Query → Metrics
  | .countCall operation success => m.countCall operation.label success
  | .countPass => m.countPass seconds
  | .countError label => m.countError label
  | .countRequeue reason => m.countRequeue reason
  | _ => m

end Metrics

end TargetRegistrar
