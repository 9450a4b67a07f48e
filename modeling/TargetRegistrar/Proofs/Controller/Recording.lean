import Mathlib.Tactic.Common
import TargetRegistrar.Controller.StatusWrite
import TargetRegistrar.Registration.Build

/-!
# What a change of status records

A status tells which target is recorded, which generation was last acted on, in which state the
target was last seen, and whether that has been announced.  The lemmas `_applyTo` say what becomes
of each of these in a change, and the lemmas `_written` what a resource has once that is stored.
`Tracks` is what all changes of a pass keep once a target is recorded.
-/

namespace TargetRegistrar

open Gateway

/-- The verdict of a condition is the new one, whatever it replaces. -/
lemma Condition.verdict_succeeding (old new : Condition) :
    (Condition.succeeding old new).verdict = new.verdict := by
  unfold Condition.succeeding
  split <;> rfl

namespace Controller

variable {r r' : Resource} {generation : Option Int} {target : CreatedTarget} {state : TargetState}
  {condition : Condition} {targetId : String} {now : Timestamp}

/-! ## Part by part -/

lemma recordedTarget?_congr (h : r'.status = r.status) :
    r'.recordedTarget? = r.recordedTarget? := by
  rw [Resource.recordedTarget?, Resource.recordedTarget?, h]

lemma observedGeneration_congr (h : r'.status = r.status) :
    r'.observedGeneration = r.observedGeneration := by
  rw [Resource.observedGeneration, Resource.observedGeneration, h]

lemma ne_empty_of_recordedTarget? (h : r.recordedTarget? = some targetId) : targetId ≠ "" := by
  obtain ⟨status, -, hrecorded⟩ := Option.bind_eq_some_iff.mp h
  exact of_decide_eq_true (Option.filter_eq_some_iff.mp hrecorded).2

/-- A write records what has been created, and leaves the record as it is otherwise. -/
lemma recordedTarget?_applyTo (change : StatusChange) (now : Timestamp) (r : Resource) :
    (change.applyTo now r).recordedTarget? =
      match change with
      | .created _ target => Registration.nonEmpty (some target.targetId)
      | _ => r.recordedTarget? := by
  obtain ⟨_, _, status⟩ := r
  cases change with
  | created generation target => rfl
  | observed generation state => cases status <;> rfl
  | condition condition => cases status <;> rfl

/-- A write acknowledges the generation that it reports, and leaves it as it is otherwise. -/
lemma observedGeneration_applyTo (change : StatusChange) (now : Timestamp) (r : Resource) :
    (change.applyTo now r).observedGeneration =
      match change with
      | .created generation _ => generation
      | .observed generation _ => generation
      | .condition _ => r.observedGeneration := by
  obtain ⟨_, _, status⟩ := r
  cases change with
  | created generation target => rfl
  | observed generation state => rfl
  | condition condition => cases status <;> rfl

/-- A resource whose status has been written records the target that the write does. -/
lemma recordedTarget?_written {change : StatusChange} :
    r'.status = some (change.applyTo now r) →
      r'.recordedTarget? =
        match change with
        | .created _ target => Registration.nonEmpty (some target.targetId)
        | _ => r.recordedTarget? := by
  intro h
  rw [Resource.recordedTarget?, h, Option.bind_some, recordedTarget?_applyTo]

lemma observedGeneration_written {change : StatusChange} :
    r'.status = some (change.applyTo now r) →
      r'.observedGeneration =
        match change with
        | .created generation _ => generation
        | .observed generation _ => generation
        | .condition _ => r.observedGeneration := by
  intro h
  rw [Resource.observedGeneration, h, Option.bind_some, observedGeneration_applyTo]

/-- A target is settled when it was last seen ready and the condition on readiness holds. -/
lemma isSettled_iff {status : Status} : status.isSettled ↔
    status.targetStatus = some targetReady ∧
      ∃ ready, status.ready? = some ready ∧ ready.verdict = .holds := by
  simp [Status.isSettled, Status.isTargetReady, Option.any_eq_true]

/-- After a condition is put, it is found among the conditions of its type. -/
lemma exists_find?_set (new : Condition) (cs : List Condition) :
    ∃ found, Condition.find? new.type (Condition.set new cs) = some found ∧
      found.verdict = new.verdict ∧ found.observedGeneration = new.observedGeneration := by
  rw [Condition.find?_set_self]
  cases Condition.find? new.type cs with
  | none => exact ⟨new, rfl, rfl, rfl⟩
  | some old =>
    refine ⟨Condition.succeeding old new, rfl, Condition.verdict_succeeding old new, ?_⟩
    unfold Condition.succeeding
    split <;> rfl

/-- A target that was last seen ready is settled once that is announced. -/
lemma isSettled_applyTo (htype : condition.type = Condition.readyType)
    (hholds : condition.verdict = .holds) (hready : r.status.any Status.isTargetReady) :
    ((StatusChange.condition condition).applyTo now r).isSettled := by
  obtain ⟨status, hstatus, hseen⟩ := (Option.any_eq_true _ _).mp hready
  obtain ⟨ready, hfound, hverdict, -⟩ := exists_find?_set condition status.conditions
  rw [htype] at hfound
  rw [StatusChange.applyTo, hstatus]
  exact isSettled_iff.mpr ⟨of_decide_eq_true hseen, ready, hfound, hverdict.trans hholds⟩

/-! ## A recorded target -/

/-- A target is recorded for a resource, and what is recorded of it belongs to the present
generation. -/
structure Tracks (r : Resource) (targetId : String) : Prop where
  recorded : r.recordedTarget? = some targetId
  current : r.metadata.generation = r.observedGeneration

lemma Tracks.congr (h : Tracks r targetId) (hstatus : r'.status = r.status)
    (hgen : r'.metadata.generation = r.metadata.generation) : Tracks r' targetId where
  recorded := (recordedTarget?_congr hstatus).trans h.recorded
  current := by
    rw [hgen, observedGeneration_congr hstatus]
    exact h.current

lemma tracks_of_created (hne : target.targetId ≠ "")
    (hgen : r'.metadata.generation = generation)
    (hstatus : r'.status = some ((StatusChange.created generation target).applyTo now r)) :
    Tracks r' target.targetId := by
  constructor
  · rw [recordedTarget?_written hstatus]
    simp [Registration.nonEmpty, hne]
  · rw [observedGeneration_written hstatus, hgen]

lemma tracks_of_observed (hrec : r.recordedTarget? = some targetId)
    (hgen : r'.metadata.generation = generation)
    (hstatus : r'.status = some ((StatusChange.observed generation state).applyTo now r)) :
    Tracks r' targetId := by
  constructor
  · rw [recordedTarget?_written hstatus]
    exact hrec
  · rw [observedGeneration_written hstatus, hgen]

lemma Tracks.of_condition (h : Tracks r targetId)
    (hgen : r'.metadata.generation = r.metadata.generation)
    (hstatus : r'.status = some ((StatusChange.condition condition).applyTo now r)) :
    Tracks r' targetId := by
  constructor
  · rw [recordedTarget?_written hstatus]
    exact h.recorded
  · rw [observedGeneration_written hstatus, hgen]
    exact h.current

end Controller

end TargetRegistrar
