import Mathlib.Tactic.Common
import TargetRegistrar.Controller.Reconcile

/-!
# The branches of a pass

What a pass does with a copy is decided by a few facts about the copy.  For each step that decides,
there is a lemma that says which parts it may come to, and what is known of the copy where it comes
to them (`reconcileCopy_cases`, `advance_cases`, `deleteStep_cases`).  What is proved of every pass
is proved of the parts, and these lemmas put it together.

What comes of an error that stops a pass is decided without any question: `surface`.  With it
`run_reconcile` says how a pass begins and how it ends.
-/

namespace TargetRegistrar.Controller

open Gateway Registration

/-! ## What comes of a stop -/

/-- What a pass results in when its work on the latest copy has ended. -/
def surface (c : Config) : Except Error Directive → Except Error Directive
  | .ok directive => .ok directive
  | .error e =>
    if e.isConflict then .ok .requeueNow
    else if e.isCancelled then .ok (.requeueAfter c.pollInterval)
    else .error e

/-- An error either stays, or it is turned into a directive to look again. -/
lemma surface_error (c : Config) (e : Error) :
    surface c (.error e) = .error e ∨
      ∃ directive : Directive, directive ≠ .done ∧ surface c (.error e) = .ok directive := by
  by_cases hconflict : e.isConflict = true
  · exact .inr ⟨.requeueNow, by simp, if_pos hconflict⟩
  · by_cases hcancelled : e.isCancelled = true
    · exact .inr ⟨.requeueAfter c.pollInterval, by simp, by simp [surface, hconflict, hcancelled]⟩
    · exact .inl (by simp [surface, hconflict, hcancelled])

/-- A refusal of the store stays, unless another writer was first. -/
lemma surface_store (c : Config) (e : Store.Error) :
    surface c (.error (.store e)) =
      if e.isConflict then .ok .requeueNow else .error (.store e) := rfl

lemma surface_eq_done {c : Config} {ending : Except Error Directive}
    (h : surface c ending = .ok .done) : ending = .ok .done := by
  cases ending with
  | ok directive => exact h
  | error e =>
    obtain herror | ⟨directive, hne, hdirective⟩ := surface_error c e
    · cases herror.symm.trans h
    · exact absurd (Except.ok.inj (hdirective.symm.trans h)) hne

lemma run_absorb (c : Config) (e : Error) : (absorb c e).run = .done (surface c (.error e)) := by
  simp only [absorb, surface]
  by_cases hconflict : e.isConflict = true
  · simp only [hconflict, if_true]
    rfl
  · by_cases hcancelled : e.isCancelled = true
    · simp only [hconflict, hcancelled, if_true]
      rfl
    · simp only [hconflict, hcancelled]
      rfl

/-- A pass works on the latest copy, unless it is cancelled beforehand. -/
lemma run_reconcile (c : Config) (ns name : String) :
    (reconcile c ns name).run = .ask .isCancelled fun cancelled =>
      match cancelled with
      | true => .done (.ok (.requeueAfter c.pollInterval))
      | false => (reconcileLatest c ns name (ns ++ "/" ++ name)).run.bind fun ending =>
        .done (surface c ending) := by
  refine congrArg (Program.ask .isCancelled) (funext fun cancelled => ?_)
  cases cancelled with
  | true => rfl
  | false =>
    refine congrArg (reconcileLatest c ns name _).run.bind (funext ?_)
    rintro (e | directive)
    · exact run_absorb c e
    · rfl

/-! ## Parts that several steps have in common -/

/-- What follows an operation that has succeeded: it is counted and recorded before anything else is
done. -/
def afterSuccess (operation : Operation) (r : Resource) (change : StatusChange) (key : String)
    (rest : Pass Error Directive) : Pass Error Directive := do
  Pass.query (.countCall operation true)
  let _ ← Pass.ofStore (applyChange r change)
  Pass.query (.succeed key)
  rest

/-- What follows an operation that has failed: it is counted, unless it was cancelled. -/
def afterFailure (c : Config) (operation : Operation) (e : Gateway.Error)
    (rest : Pass Error Directive) : Pass Error Directive :=
  if e.isCancelled then return .requeueAfter c.pollInterval
  else do
    Pass.query (.countCall operation false)
    rest

/-- The deletion of a target that is recorded, and what follows it. -/
def deleteRecorded (c : Config) (r : Resource) (gatewayId targetId key : String) :
    Pass Error Directive := do
  match ← Pass.lift (deleteTarget c.policy gatewayId targetId) with
  | .ok () =>
    Pass.query (.countCall .delete true)
    removeFinalizer r key
  | .error e => afterFailure c .delete e (backOff key)

/-- What follows the finding that nothing is left to do. -/
def letRest (key : String) : Pass Error Directive := do
  Pass.query (.succeed key)
  return .done

/-! ## Branches -/

section Branches

variable {c : Config} {r : Resource} {v : Validated} {key : String}
  {motive : Pass Error Directive → Prop}

/-- What a copy that is marked for deletion may come to. -/
lemma deleteStep_cases (resigned : r.hasFinalizer finalizer = false → motive (pure .done))
    (released : r.hasFinalizer finalizer = true → r.recordedTarget? = none →
      motive (removeFinalizer r key))
    (unreachable : ∀ {targetId e}, r.hasFinalizer finalizer = true →
      r.recordedTarget? = some targetId → resolveGateway c.defaultGateway r.spec = .error e →
      motive (pure .stop))
    (deleting : ∀ {targetId gatewayId}, r.hasFinalizer finalizer = true →
      r.recordedTarget? = some targetId → resolveGateway c.defaultGateway r.spec = .ok gatewayId →
      motive (deleteRecorded c r gatewayId targetId key)) : motive (deleteStep c r key) := by
  unfold deleteStep
  cases hfin : r.hasFinalizer finalizer with
  | false => exact resigned hfin
  | true =>
    cases hrec : r.recordedTarget? with
    | none => exact released hfin hrec
    | some targetId =>
      cases hgw : resolveGateway c.defaultGateway r.spec with
      | error e => exact unreachable hfin hrec hgw
      | ok gatewayId => exact deleting hfin hrec hgw

/-- What a valid copy with the finalizer may come to. -/
lemma advance_cases (create : r.recordedTarget? = none → motive (createStep c r v key))
    (update : ∀ {targetId}, r.recordedTarget? = some targetId →
      r.metadata.generation ≠ r.observedGeneration → motive (updateStep c r v targetId key))
    (settled : ∀ {targetId}, r.recordedTarget? = some targetId →
      r.metadata.generation = r.observedGeneration → r.isSettled = true → motive (letRest key))
    (poll : ∀ {targetId}, r.recordedTarget? = some targetId →
      r.metadata.generation = r.observedGeneration → r.isSettled = false →
      motive (pollStep c r v targetId key)) : motive (advance c r v key) := by
  unfold advance
  cases hrec : r.recordedTarget? with
  | none => exact create hrec
  | some targetId =>
    by_cases hgen : r.metadata.generation = r.observedGeneration
    · simp only [hgen, ne_eq, not_true_eq_false, if_false]
      cases hsettled : r.isSettled with
      | true => exact settled hrec hgen hsettled
      | false => exact poll hrec hgen hsettled
    · simp only [hgen, ne_eq, not_false_eq_true, if_true]
      exact update hrec hgen

/-- What a copy may come to. -/
lemma reconcileCopy_cases (deleted : r.isBeingDeleted = true → motive (deleteStep c r key))
    (invalid : ∀ {e}, r.isBeingDeleted = false → validate c.defaultGateway r = .error e →
      motive (do
        let _ ← Pass.ofStore (setNotReady r "ValidationError" e.message)
        return .stop))
    (guarded : ∀ {v}, r.isBeingDeleted = false → validate c.defaultGateway r = .ok v →
      r.hasFinalizer finalizer = true → motive (advance c r v key))
    (unguarded : ∀ {v}, r.isBeingDeleted = false → validate c.defaultGateway r = .ok v →
      r.hasFinalizer finalizer = false → motive (do advance c (← addFinalizer r) v key)) :
    motive (reconcileCopy c r key) := by
  unfold reconcileCopy
  cases hdel : r.isBeingDeleted with
  | true => exact deleted hdel
  | false =>
    cases hv : validate c.defaultGateway r with
    | error e => exact invalid hdel hv
    | ok v =>
      cases hfin : r.hasFinalizer finalizer with
      | true => exact guarded hdel hv hfin
      | false => exact unguarded hdel hv hfin

end Branches

end TargetRegistrar.Controller
