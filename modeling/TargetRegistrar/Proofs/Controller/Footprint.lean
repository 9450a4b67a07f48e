import Mathlib.Tactic.Common
import TargetRegistrar.Proofs.Controller.Branches

/-!
# What a pass may ask at all

Some properties of the questions of a pass do not depend on what it has been answered: every account
of failures that it touches is that of its own resource, and every status that it writes is the
latest one with a change in which no condition occurs but the one on readiness.

`Program.Asks` says of all questions that a program can come to that they have a property.  It is
proved part by part, and `asks_reconcile` is the result for a whole pass.
-/

namespace TargetRegistrar.Controller

open Gateway Registration

/-- Every question that the program can come to is as `P` says. -/
def Program.Asks {α : Type} (P : Query → Prop) : Program α → Prop
  | .done _ => True
  | .ask q next => P q ∧ ∀ answer, (next answer).Asks P

section Parts

variable {ε α β : Type} {P : Query → Prop}

lemma Program.Asks.bind {p : Program α} {f : α → Program β} (hp : p.Asks P)
    (hf : ∀ a, (f a).Asks P) : (p.bind f).Asks P := by
  induction p with
  | done a => exact hf a
  | ask q next ih => exact ⟨hp.1, fun answer => ih answer (hp.2 answer)⟩

/-- What nothing can stop is followed by the rest of the pass. -/
lemma Pass.run_lift_bind (p : Program α) (f : α → Pass ε β) :
    (Pass.lift p >>= f).run = p.bind fun a => (f a).run :=
  Program.bind_assoc p _ _

/-- A part of a pass asks only what is as `P` says. -/
abbrev Pass.Asks (P : Query → Prop) (p : Pass ε α) : Prop :=
  Program.Asks P p.run

lemma Pass.asks_pure (a : α) : Pass.Asks P (pure a : Pass ε α) := trivial

lemma Pass.asks_throw (e : ε) : Pass.Asks P (throw e : Pass ε α) := trivial

lemma Pass.asks_query {q : Query} (hq : P q) : Pass.Asks P (Pass.query q : Pass ε q.Answer) :=
  ⟨hq, fun _ => trivial⟩

lemma Pass.asks_store {request : Store.Request} (hq : P (.store request)) :
    (Pass.store request).Asks P :=
  ⟨hq, fun _ => trivial⟩

lemma Pass.asks_bind {p : Pass ε α} {f : α → Pass ε β} (hp : p.Asks P)
    (hf : ∀ a, (f a).Asks P) : (p >>= f).Asks P := by
  refine Program.Asks.bind hp ?_
  rintro (e | a)
  · exact trivial
  · exact hf a

lemma Pass.asks_lift {p : Program α} {f : α → Pass ε β} (hp : p.Asks P)
    (hf : ∀ a, (f a).Asks P) : (Pass.lift p >>= f).Asks P := by
  rw [Pass.Asks, Pass.run_lift_bind]
  exact Program.Asks.bind hp hf

lemma Pass.asks_ofStore {p : Pass Store.Error α} (hp : p.Asks P) : (Pass.ofStore p).Asks P :=
  Program.Asks.bind hp fun _ => trivial

lemma Pass.asks_orElse {p : Pass ε α} {instead : ε → Pass ε α} (hp : p.Asks P)
    (hinstead : ∀ e, (instead e).Asks P) : (p.orElse instead).Asks P := by
  refine Program.Asks.bind hp ?_
  rintro (e | a)
  · exact hinstead e
  · exact trivial

lemma Pass.asks_ite {c : Prop} [Decidable c] {p q : Pass ε α} (hp : p.Asks P)
    (hq : q.Asks P) : (if c then p else q).Asks P := by
  by_cases h : c
  · rwa [if_pos h]
  · rwa [if_neg h]

end Parts

/-! ## Status writes and remote operations -/

section Generic

variable {P : Query → Prop} {change : StatusChange}

lemma asks_writeLatest {ns name k : String} {refused : Store.Error → Pass Store.Error Resource}
    (hget : P (.store (.get ns name))) (hnow : P .now)
    (hput : ∀ latest now, P (.store (.replaceStatus latest (change.applyTo now latest))))
    (h : ∀ e, (refused e).Asks P) : (writeLatest ns name k change refused).Asks P := by
  refine Pass.asks_bind (Pass.asks_store hget) ?_
  rintro (_ | latest)
  · exact Pass.asks_throw _
  · refine Pass.asks_bind (Pass.asks_query hnow) fun now => ?_
    exact Pass.asks_ite (Pass.asks_pure latest)
      (Pass.asks_orElse (Pass.asks_store (hput latest now)) h)

lemma asks_writeChange {ns name : String} (k : String) (hget : P (.store (.get ns name)))
    (hnow : P .now)
    (hput : ∀ latest now, P (.store (.replaceStatus latest (change.applyTo now latest))))
    (left : Nat) : (writeChange ns name k change left).Asks P := by
  induction left with
  | zero => exact asks_writeLatest hget hnow hput Pass.asks_throw
  | succ left ih =>
    exact asks_writeLatest hget hnow hput fun e => Pass.asks_ite ih (Pass.asks_throw e)

lemma asks_applyChange (r : Resource) (hget : ∀ ns name, P (.store (.get ns name)))
    (hnow : P .now)
    (hput : ∀ latest now, P (.store (.replaceStatus latest (change.applyTo now latest)))) :
    (applyChange r change).Asks P := by
  unfold applyChange
  cases r.metadata.ns with
  | none => exact Pass.asks_throw _
  | some ns =>
    cases r.metadata.name with
    | none => exact Pass.asks_throw _
    | some name => exact asks_writeChange _ (hget ns name) hnow hput _

lemma asks_callOnce {call : Call} (hcall : P (.gateway call)) : (callOnce call).Asks P := by
  refine ⟨hcall, fun raced => ?_⟩
  cases raced <;> trivial

lemma asks_repeatCall {call : Call} (hcall : P (.gateway call)) (hwait : ∀ delay, P (.wait delay))
    (policy : RetryPolicy) (left made : Nat) (backoff : Duration) :
    (repeatCall policy call left made backoff).Asks P := by
  induction left generalizing made backoff with
  | zero =>
    refine Program.Asks.bind (asks_callOnce hcall) ?_
    rintro (e | reply) <;> trivial
  | succ left ih =>
    refine Program.Asks.bind (asks_callOnce hcall) ?_
    rintro (e | reply)
    · by_cases hretry : e.isRetryable = true
      · simp only [hretry, if_true]
        refine ⟨hwait backoff, fun waited => ?_⟩
        cases waited with
        | cancelled => trivial
        | finished _ => exact ih ..
      · simp only [hretry]
        trivial
    · trivial

lemma asks_createTarget (hcall : ∀ request, P (.gateway (.create request)))
    (hwait : ∀ delay, P (.wait delay)) (htoken : P .freshToken) (policy : RetryPolicy)
    (request : CreateRequest) : (createTarget policy request).Asks P := by
  unfold createTarget
  cases request.clientToken with
  | some _ => exact asks_repeatCall (hcall _) hwait ..
  | none => exact ⟨htoken, fun _ => asks_repeatCall (hcall _) hwait ..⟩

lemma asks_afterFailure {c : Config} {operation : Operation} {p : Pass Error Directive}
    (hcount : P (.countCall operation false)) (e : Gateway.Error) (hp : p.Asks P) :
    (afterFailure c operation e p).Asks P :=
  Pass.asks_ite (Pass.asks_pure _) (Pass.asks_bind (Pass.asks_query hcount) fun _ => hp)

end Generic

/-! ## The questions of a pass -/

/-- Whether a change concerns no condition but the one on readiness. -/
def StatusChange.IsOwn : StatusChange → Prop
  | condition c => c.type = Condition.readyType
  | _ => True

/-- What a pass may ask whose accounts are kept under a key. -/
def Query.IsOwn (key : String) : Query → Prop
  | fail k => k = key
  | succeed k => k = key
  | forget k => k = key
  | store (.replaceStatus latest status) =>
    ∃ change : StatusChange, ∃ now, change.IsOwn ∧ status = change.applyTo now latest
  | _ => True

/-- The property holds of all that a pass may ask besides what concerns its operation, if its
accounts are kept under a key. -/
structure Household (P : Query → Prop) (key : String) : Prop where
  get : ∀ ns name, P (.store (.get ns name))
  now : P .now
  replaceStatus : ∀ (change : StatusChange) (latest : Resource) (now : Timestamp), change.IsOwn →
    P (.store (.replaceStatus latest (change.applyTo now latest)))
  fail : P (.fail key)
  succeed : P (.succeed key)
  forget : P (.forget key)

namespace Household

variable {P : Query → Prop} {key : String} {r : Resource} {change : StatusChange}

lemma asks_applyOwn (h : Household P key) (r : Resource) (hown : change.IsOwn) :
    (applyChange r change).Asks P :=
  asks_applyChange r h.get h.now fun latest now => h.replaceStatus change latest now hown

lemma asks_setReadiness (h : Household P key) (r : Resource) (verdict : Verdict)
    (reason message : String) : (setReadiness r verdict reason message).Asks P :=
  Pass.asks_bind (Pass.asks_query h.now) fun _ => h.asks_applyOwn r rfl

lemma asks_backOff (h : Household P key) : (backOff key).Asks P :=
  Pass.asks_bind (Pass.asks_query h.fail) fun _ => Pass.asks_pure _

lemma asks_reportBuildError (h : Household P key) (r : Resource) (e : BuildError) :
    (reportBuildError r e).Asks P :=
  Pass.asks_bind (Pass.asks_ofStore (h.asks_setReadiness ..)) fun _ => Pass.asks_pure _

lemma asks_reportFailure (h : Household P key) (r : Resource) (reason context : String)
    (e : Gateway.Error) : (reportFailure r key reason context e).Asks P := by
  refine Pass.asks_bind (Pass.asks_ofStore (h.asks_setReadiness ..)) fun _ => ?_
  exact Pass.asks_ite h.asks_backOff (Pass.asks_pure _)

lemma asks_removeFinalizer (h : Household P key)
    (hdetach : ∀ finalizers, P (.store (.replaceFinalizers r finalizers))) :
    (removeFinalizer r key).Asks P := by
  refine Pass.asks_bind (Pass.asks_ofStore (Pass.asks_store (hdetach _))) fun _ => ?_
  exact Pass.asks_bind (Pass.asks_query h.forget) fun _ => Pass.asks_pure _

/-- What comes of a successful operation is recorded before anything else is done. -/
lemma asks_recording (h : Household P key) {p : Pass Error Directive} (hown : change.IsOwn)
    (hp : p.Asks P) : Pass.Asks P (do
        let _ ← Pass.ofStore (applyChange r change)
        Pass.query (.succeed key)
        p) := by
  refine Pass.asks_bind (Pass.asks_ofStore (h.asks_applyOwn r hown)) fun _ => ?_
  exact Pass.asks_bind (Pass.asks_query h.succeed) fun _ => hp

lemma asks_afterSuccess (h : Household P key) {operation : Operation} {p : Pass Error Directive}
    (hcount : P (.countCall operation true)) (hown : change.IsOwn) (hp : p.Asks P) :
    (afterSuccess operation r change key p).Asks P :=
  Pass.asks_bind (Pass.asks_query hcount) fun _ => h.asks_recording hown hp

lemma asks_letRest (h : Household P key) : (letRest key).Asks P :=
  Pass.asks_bind (Pass.asks_query h.succeed) fun _ => Pass.asks_pure _

end Household

section Own

variable {c : Config} {key : String} {r : Resource} {v : Validated}

lemma household_isOwn : Household (Query.IsOwn key) key where
  get _ _ := trivial
  now := trivial
  replaceStatus change _ now hown := ⟨change, now, hown, rfl⟩
  fail := rfl
  succeed := rfl
  forget := rfl

/-! ### Remote operations -/

lemma asks_createStep : (createStep c r v key).Asks (Query.IsOwn key) := by
  unfold createStep
  cases v.createRequest with
  | error e => exact household_isOwn.asks_reportBuildError r e
  | ok request =>
    have hcreate := asks_createTarget (P := Query.IsOwn key) (fun _ => trivial) (fun _ => trivial)
      trivial c.policy { request with clientToken := createToken r }
    refine Pass.asks_lift hcreate fun outcome => ?_
    cases outcome with
    | ok created => exact household_isOwn.asks_afterSuccess trivial trivial (Pass.asks_pure _)
    | error e => exact asks_afterFailure trivial e (household_isOwn.asks_reportFailure ..)

lemma asks_updateStep (targetId : String) :
    (updateStep c r v targetId key).Asks (Query.IsOwn key) := by
  unfold updateStep
  cases v.updateRequest targetId with
  | error e => exact household_isOwn.asks_reportBuildError r e
  | ok request =>
    refine Pass.asks_lift (asks_repeatCall trivial (fun _ => trivial) ..) fun outcome => ?_
    cases outcome with
    | ok state => exact household_isOwn.asks_afterSuccess trivial trivial (Pass.asks_pure _)
    | error e => exact asks_afterFailure trivial e (household_isOwn.asks_reportFailure ..)

lemma asks_pollStep (targetId : String) :
    (pollStep c r v targetId key).Asks (Query.IsOwn key) := by
  refine Pass.asks_lift (asks_callOnce trivial) fun outcome => ?_
  cases outcome with
  | ok state =>
    refine household_isOwn.asks_afterSuccess trivial trivial (Pass.asks_ite ?_ (Pass.asks_pure _))
    refine Pass.asks_bind (Pass.asks_ofStore ?_) fun _ => Pass.asks_pure _
    exact household_isOwn.asks_setReadiness ..
  | error e => exact asks_afterFailure trivial e household_isOwn.asks_backOff

lemma asks_deleteRecorded (gatewayId targetId : String) :
    (deleteRecorded c r gatewayId targetId key).Asks (Query.IsOwn key) := by
  refine Pass.asks_lift (asks_repeatCall trivial (fun _ => trivial) ..) fun outcome => ?_
  cases outcome with
  | ok _ =>
    refine Pass.asks_bind (Pass.asks_query trivial) fun _ => ?_
    exact household_isOwn.asks_removeFinalizer fun _ => trivial
  | error e => exact asks_afterFailure trivial e household_isOwn.asks_backOff

/-! ### Whole passes -/

lemma asks_advance : (advance c r v key).Asks (Query.IsOwn key) :=
  advance_cases (motive := Pass.Asks (Query.IsOwn key)) (fun _ => asks_createStep)
    (fun _ _ => asks_updateStep _) (fun _ _ _ => household_isOwn.asks_letRest)
    fun _ _ _ => asks_pollStep _

lemma asks_deleteStep : (deleteStep c r key).Asks (Query.IsOwn key) :=
  deleteStep_cases (motive := Pass.Asks (Query.IsOwn key)) (fun _ => Pass.asks_pure _)
    (fun _ _ => household_isOwn.asks_removeFinalizer fun _ => trivial)
    (fun _ _ _ => Pass.asks_pure _) fun _ _ _ => asks_deleteRecorded ..

lemma asks_reconcileCopy : (reconcileCopy c r key).Asks (Query.IsOwn key) := by
  refine reconcileCopy_cases (motive := Pass.Asks (Query.IsOwn key)) (fun _ => asks_deleteStep)
    ?invalid (fun _ _ _ => asks_advance) ?unguarded
  case invalid =>
    intro e _ _
    refine Pass.asks_bind (Pass.asks_ofStore ?_) fun _ => Pass.asks_pure _
    exact household_isOwn.asks_setReadiness ..
  case unguarded =>
    intro v _ _ _
    exact Pass.asks_bind (Pass.asks_ofStore (Pass.asks_store trivial)) fun _ => asks_advance

/-- Whatever a pass is answered, it touches no account of failures but that of its own resource, and
writes no condition but the one on readiness. -/
theorem asks_reconcile (c : Config) (ns name : String) :
    (reconcile c ns name).Asks (Query.IsOwn (ns ++ "/" ++ name)) := by
  refine Pass.asks_bind (Pass.asks_query trivial) fun cancelled => ?_
  refine Pass.asks_ite (Pass.asks_pure _) (Pass.asks_orElse ?_ fun e => ?_)
  · refine Pass.asks_bind (Pass.asks_ofStore (Pass.asks_store trivial)) fun found => ?_
    cases found with
    | none => exact Pass.asks_bind (Pass.asks_query rfl) fun _ => Pass.asks_pure _
    | some r => exact asks_reconcileCopy
  · exact Pass.asks_ite (Pass.asks_pure _) (Pass.asks_ite (Pass.asks_pure _) (Pass.asks_throw e))

end Own

end TargetRegistrar.Controller
