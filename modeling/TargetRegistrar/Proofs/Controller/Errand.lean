import TargetRegistrar.Proofs.Controller.Course

/-!
# The remote operation of a pass

A pass has one errand at the gateway, or none.  Which one it is depends on the object that it works
on: `Demands` says which call an object of the store calls for, `Due` which call a copy calls for
that has been validated and carries the finalizer.  The call may be repeated, except for a look at a
target, which is made once.

`Stage` is how far a pass has come with its errand, and `Paces` says which questions each stage asks
as far as they concern the gateway or the finalizers; everything else is quiet.  The main statement
is `reconcile_paces`: every pass, whatever it is answered, keeps to `Paces`, and it does not end
before an errand that it has come to is begun.
-/

namespace TargetRegistrar.Controller

open Gateway Registration

/-! ## Quiet programs -/

/-- Whether a question neither calls the gateway nor writes finalizers. -/
def Query.isQuiet : Query → Bool
  | gateway _ => false
  | store (.replaceFinalizers ..) => false
  | _ => true

lemma Query.isQuiet_of_isIdle {q : Query} (hq : q.isIdle) : q.isQuiet := by
  cases q with
  | store request => cases hq
  | gateway call => cases hq
  | _ => rfl

/-- The program never calls the gateway and never writes finalizers. -/
abbrev Program.Quiet {α : Type} (p : Program α) : Prop :=
  p.Asks fun q => q.isQuiet

/-- A part of a pass that is quiet. -/
abbrev Pass.Quiet {ε α : Type} (p : Pass ε α) : Prop :=
  Program.Quiet p.run

lemma household_isQuiet (key : String) : Household (fun q => q.isQuiet) key where
  get _ _ := rfl
  now := rfl
  replaceStatus _ _ _ _ := rfl
  fail := rfl
  succeed := rfl
  forget := rfl

lemma quiet_setReadiness (r : Resource) (verdict : Verdict) (reason message : String) :
    (Pass.ofStore (setReadiness r verdict reason message)).Quiet :=
  Pass.asks_ofStore ((household_isQuiet r.key).asks_setReadiness ..)

lemma quiet_reportBuildError (r : Resource) (e : BuildError) : (reportBuildError r e).Quiet :=
  (household_isQuiet r.key).asks_reportBuildError r e

lemma quiet_reportFailure (r : Resource) (key reason context : String) (e : Gateway.Error) :
    (reportFailure r key reason context e).Quiet :=
  (household_isQuiet key).asks_reportFailure ..

/-! ## Errands -/

/-- The call that a copy calls for which has been validated and carries the finalizer. -/
inductive Due (r : Resource) (v : Validated) : Call → Prop where
  | create {request : CreateRequest} (hrec : r.recordedTarget? = none)
      (hreq : v.createRequest = .ok { request with clientToken := none }) :
      Due r v (.create request)
  | update {request : UpdateRequest} (hrec : r.recordedTarget? = some request.targetId)
      (hgen : r.metadata.generation ≠ r.observedGeneration)
      (hreq : v.updateRequest request.targetId = .ok request) : Due r v (.update request)
  | poll {targetId : String} (hrec : r.recordedTarget? = some targetId)
      (hgen : r.metadata.generation = r.observedGeneration) (hset : r.isSettled = false) :
      Due r v (.get v.gatewayId targetId)

/-- The call that an object of the store calls for. -/
inductive Demands (c : Config) (r : Resource) : Call → Prop where
  | delete {gatewayId targetId : String} (hdel : r.isBeingDeleted)
      (hfin : r.hasFinalizer finalizer) (hrec : r.recordedTarget? = some targetId)
      (hgw : resolveGateway c.defaultGateway r.spec = .ok gatewayId) :
      Demands c r (.delete gatewayId targetId)
  | advance {v : Validated} {call : Call} (hdel : r.isBeingDeleted = false)
      (hv : validate c.defaultGateway r = .ok v) (hdue : Due r v call) : Demands c r call

/-- How far a pass has come with its errand. -/
inductive Stage where
  /-- Nothing has been read. -/
  | opening
  /-- The copy is valid, but carries no finalizer yet. -/
  | unguarded (copy : Resource) (v : Validated)
  /-- The copy is valid and carries the finalizer. -/
  | guarded (copy : Resource) (v : Validated)
  /-- A token has been drawn for the target of the copy. -/
  | drawn (copy : Resource) (v : Validated) (token : CreateToken)
  /-- A target is to be deleted. -/
  | deleting (gatewayId targetId : String)
  /-- The call has been made, and may be repeated. -/
  | calling (call : Call)
  /-- The finalizer may be detached without a call. -/
  | releasing
  /-- Neither a call nor a write of finalizers is to come. -/
  | resting

namespace Stage

/-- The stage in which an object is taken up. -/
inductive Opens (c : Config) (r : Resource) : Stage → Prop where
  | unguarded {v : Validated} (hdel : r.isBeingDeleted = false)
      (hv : validate c.defaultGateway r = .ok v) (hfin : r.hasFinalizer finalizer = false) :
      Opens c r (.unguarded r v)
  | guarded {v : Validated} (hdel : r.isBeingDeleted = false)
      (hv : validate c.defaultGateway r = .ok v) (hfin : r.hasFinalizer finalizer) :
      Opens c r (.guarded r v)
  | deleting {gatewayId targetId : String} (hdel : r.isBeingDeleted)
      (hfin : r.hasFinalizer finalizer) (hrec : r.recordedTarget? = some targetId)
      (hgw : resolveGateway c.defaultGateway r.spec = .ok gatewayId) :
      Opens c r (.deleting gatewayId targetId)
  | releasing (hdel : r.isBeingDeleted) (hrec : r.recordedTarget? = none) : Opens c r .releasing
  | resting (h : ∀ call, ¬ Demands c r call) : Opens c r .resting

/-- The stages in which a pass may end: no call is due. -/
def Finished : Stage → Prop
  | opening => True
  | unguarded _ _ => False
  | guarded r v => ∀ call, ¬ Due r v call
  | drawn _ _ _ => False
  | deleting _ _ => False
  | calling _ => True
  | releasing => True
  | resting => True

end Stage

/-- What a pass on the resource with a name in a namespace asks in each stage, and the stage that
follows the answer. -/
inductive Paces (c : Config) (ns name : String) :
    Stage → (q : Query) → q.Answer → Stage → Prop where
  | opened (cancelled : Bool) : Paces c ns name .opening .isCancelled cancelled .opening
  | read {r : Resource} {st : Stage} (h : st.Opens c r) :
      Paces c ns name .opening (.store (.get ns name)) (.ok (some r)) st
  | readNothing {outcome : Except Store.Error (Option Resource)}
      (h : ∀ r, outcome ≠ .ok (some r)) :
      Paces c ns name .opening (.store (.get ns name)) outcome .resting
  | quiet {st : Stage} {q : Query} (answer : q.Answer) (hst : st ≠ .opening) (hq : q.isQuiet) :
      Paces c ns name st q answer st
  | attach {r r' : Resource} {v : Validated} :
      Paces c ns name (.unguarded r v)
        (.store (.replaceFinalizers r (r.finalizers ++ [finalizer]))) (.ok r') (.guarded r' v)
  | attachRefused {r : Resource} {v : Validated} {e : Store.Error} :
      Paces c ns name (.unguarded r v)
        (.store (.replaceFinalizers r (r.finalizers ++ [finalizer]))) (.error e) .resting
  | draw {r : Resource} {v : Validated} (token : CreateToken) (htoken : createToken r = none) :
      Paces c ns name (.guarded r v) .freshToken token (.drawn r v token)
  | create {r : Resource} {v : Validated} {request : CreateRequest} {token : CreateToken}
      (raced : Raced (Call.create request).Outcome) (hdue : Due r v (.create request))
      (htoken : createToken r = some token) (hreq : request.clientToken = some token) :
      Paces c ns name (.guarded r v) (.gateway (.create request)) raced
        (.calling (.create request))
  | createDrawn {r : Resource} {v : Validated} {request : CreateRequest} {token : CreateToken}
      (raced : Raced (Call.create request).Outcome) (hdue : Due r v (.create request))
      (hreq : request.clientToken = some token) :
      Paces c ns name (.drawn r v token) (.gateway (.create request)) raced
        (.calling (.create request))
  | update {r : Resource} {v : Validated} {request : UpdateRequest}
      (raced : Raced (Call.update request).Outcome) (hdue : Due r v (.update request)) :
      Paces c ns name (.guarded r v) (.gateway (.update request)) raced
        (.calling (.update request))
  | poll {r : Resource} {v : Validated} {gatewayId targetId : String}
      (raced : Raced (Call.get gatewayId targetId).Outcome)
      (hdue : Due r v (.get gatewayId targetId)) :
      Paces c ns name (.guarded r v) (.gateway (.get gatewayId targetId)) raced .resting
  | delete {gatewayId targetId : String} (raced : Raced (Call.delete gatewayId targetId).Outcome) :
      Paces c ns name (.deleting gatewayId targetId) (.gateway (.delete gatewayId targetId)) raced
        (.calling (.delete gatewayId targetId))
  | again {call : Call} (raced : Raced call.Outcome) :
      Paces c ns name (.calling call) (.gateway call) raced (.calling call)
  | detach {st : Stage} {r : Resource} {finalizers : List String}
      (outcome : Except Store.Error Resource)
      (hst : st = .releasing ∨ ∃ gatewayId targetId, st = .calling (.delete gatewayId targetId)) :
      Paces c ns name st (.store (.replaceFinalizers r finalizers)) outcome st

/-! ## Parts of a pass -/

section Parts

variable {ε α β : Type} {c : Config} {ns name key : String} {st : Stage}

/-- A program keeps to the paces, and ends where it may. -/
abbrev Program.Paced (c : Config) (ns name : String) (p : Program α) (st : Stage) : Prop :=
  p.Follows (Paces c ns name) (fun _ st' => st'.Finished) st

/-- A quiet part of a pass may come wherever the pass may end. -/
lemma Pass.paced_of_quiet {p : Pass ε α} (hp : p.Quiet) (hst : st ≠ .opening) (hfin : st.Finished) :
    p.run.Paced c ns name st :=
  Program.Follows.weaken (fun _ _ hst' => hst' ▸ hfin)
    (Program.Asks.follows hp fun answer hq => .quiet answer hst hq)

/-- A part of a pass goes on after a program that the store cannot stop. -/
lemma Pass.paced_lift {post : α → Stage → Prop} {p : Program α} {f : α → Pass ε β}
    (hp : p.Follows (Paces c ns name) post st)
    (hf : ∀ a st', post a st' → (f a).run.Paced c ns name st') :
    (Pass.lift p >>= f).run.Paced c ns name st := by
  rw [Pass.run_lift_bind]
  exact Program.Follows.bind (Program.Follows.weaken hf hp)

lemma paces_callOnce {call : Call} {st' : Stage}
    (hcall : ∀ raced, Paces c ns name st (.gateway call) raced st') :
    (callOnce call).Follows (Paces c ns name) (fun _ st'' => st'' = st') st := by
  intro raced
  refine ⟨st', hcall raced, ?_⟩
  cases raced <;> rfl

/-- However often a call is repeated, it is the same call. -/
lemma paces_repeatCall {call : Call}
    (hcall : ∀ raced, Paces c ns name st (.gateway call) raced (.calling call))
    (policy : RetryPolicy) (left made : Nat) (backoff : Duration) :
    (repeatCall policy call left made backoff).Follows (Paces c ns name)
      (fun _ st' => st' = .calling call) st := by
  induction left generalizing st made backoff with
  | zero =>
    refine Program.Follows.bind (Program.Follows.weaken ?_ (paces_callOnce hcall))
    rintro (e | reply) _ rfl <;> rfl
  | succ left ih =>
    refine Program.Follows.bind (Program.Follows.weaken ?_ (paces_callOnce hcall))
    rintro (e | reply) _ rfl
    · by_cases hretry : e.isRetryable = true
      · simp only [hretry, if_true]
        intro waited
        refine ⟨.calling call, .quiet waited (by simp) rfl, ?_⟩
        cases waited with
        | cancelled => rfl
        | finished _ => exact ih .again _ _
      · simp only [hretry]
        rfl
    · rfl

variable {r : Resource} {v : Validated}

/-! ### Errands of guarded copies -/

lemma paces_createTarget {request : CreateRequest} (hrec : r.recordedTarget? = none)
    (hreq : v.createRequest = .ok request) (policy : RetryPolicy) :
    (createTarget policy { request with clientToken := createToken r }).Follows (Paces c ns name)
      (fun _ st' => ∃ request, st' = .calling (.create request)) (.guarded r v) := by
  obtain ⟨config, -, rfl⟩ := createRequest_eq_ok hreq
  have hdue : ∀ token, Due r v (.create ⟨v.gatewayId, config, some token⟩) :=
    fun _ => .create hrec hreq
  unfold createTarget
  cases htoken : createToken r with
  | some token =>
    have hcalls : (callRetrying policy (.create ⟨v.gatewayId, config, some token⟩)).Follows
        (Paces c ns name) _ (.guarded r v) :=
      paces_repeatCall (fun raced => .create raced (hdue token) htoken rfl) _ _ _ _
    exact Program.Follows.weaken (fun _ _ hst' => ⟨_, hst'⟩) hcalls
  | none =>
    intro token
    have hcalls : (callRetrying policy (.create ⟨v.gatewayId, config, some token⟩)).Follows
        (Paces c ns name) _ (.drawn r v token) :=
      paces_repeatCall (fun raced => .createDrawn raced (hdue token) rfl) _ _ _ _
    exact ⟨_, .draw token htoken, Program.Follows.weaken (fun _ _ hst' => ⟨_, hst'⟩) hcalls⟩

lemma quiet_afterFailure {operation : Operation} {e : Gateway.Error} {p : Pass Error Directive}
    (hp : p.Quiet) : (afterFailure c operation e p).Quiet :=
  asks_afterFailure (P := fun q => q.isQuiet) rfl e hp

lemma quiet_afterSuccess {operation : Operation} {change : StatusChange}
    {p : Pass Error Directive} (hp : p.Quiet) :
    (afterSuccess operation r change key p).Quiet := by
  refine Pass.asks_bind (Pass.asks_query rfl) fun _ => Pass.asks_bind ?_ fun _ => ?_
  · exact Pass.asks_ofStore (asks_applyChange r (fun _ _ => rfl) rfl fun _ _ => rfl)
  · exact Pass.asks_bind (Pass.asks_query rfl) fun _ => hp

/-- What follows a successful look at a target is quiet. -/
lemma quiet_observing (state : TargetState) :
    (afterSuccess .get r (.observed r.metadata.generation state) key (do
      if state.status = targetReady then
        let _ ← Pass.ofStore (setReady r)
        return .done
      else return .requeueAfter c.pollInterval)).Quiet := by
  refine quiet_afterSuccess (Pass.asks_ite ?_ (Pass.asks_pure _))
  exact Pass.asks_bind (quiet_setReadiness ..) fun _ => Pass.asks_pure _

lemma paced_createStep (hrec : r.recordedTarget? = none) :
    (createStep c r v key).run.Paced c ns name (.guarded r v) := by
  unfold createStep
  cases hreq : v.createRequest with
  | error e =>
    have hnone : ∀ call, ¬ Due r v call := by
      rintro _ (⟨-, hok⟩ | ⟨hsome, -, -⟩ | ⟨hsome, -, -⟩)
      · cases hreq.symm.trans hok
      · cases hrec.symm.trans hsome
      · cases hrec.symm.trans hsome
    exact Pass.paced_of_quiet (quiet_reportBuildError r e) (by simp) hnone
  | ok request =>
    refine Pass.paced_lift (paces_createTarget hrec hreq c.policy) ?_
    rintro outcome _ ⟨request, rfl⟩
    refine Pass.paced_of_quiet ?_ (by simp) trivial
    cases outcome with
    | ok created => exact quiet_afterSuccess (Pass.asks_pure _)
    | error e => exact quiet_afterFailure (quiet_reportFailure ..)

lemma paced_updateStep {targetId : String} (hrec : r.recordedTarget? = some targetId)
    (hgen : r.metadata.generation ≠ r.observedGeneration) :
    (updateStep c r v targetId key).run.Paced c ns name (.guarded r v) := by
  unfold updateStep
  cases hreq : v.updateRequest targetId with
  | error e =>
    have hnone : ∀ call, ¬ Due r v call := by
      rintro _ (⟨hnone, -⟩ | ⟨hsome, -, hok⟩ | ⟨-, hsame, -⟩)
      · cases hrec.symm.trans hnone
      · cases hrec.symm.trans hsome
        cases hreq.symm.trans hok
      · exact hgen hsame
    exact Pass.paced_of_quiet (quiet_reportBuildError r e) (by simp) hnone
  | ok request =>
    have hid : request.targetId = targetId := by
      obtain ⟨config, -, rfl⟩ := updateRequest_eq_ok hreq
      rfl
    subst hid
    have hdue : Due r v (.update request) := .update hrec hgen hreq
    have hcalls : (updateTarget c.policy request).Follows (Paces c ns name) _ (.guarded r v) :=
      paces_repeatCall (fun raced => .update raced hdue) _ _ _ _
    refine Pass.paced_lift hcalls ?_
    rintro outcome _ rfl
    refine Pass.paced_of_quiet ?_ (by simp) trivial
    cases outcome with
    | ok state => exact quiet_afterSuccess (Pass.asks_pure _)
    | error e => exact quiet_afterFailure (quiet_reportFailure ..)

lemma paced_pollStep {targetId : String} (hrec : r.recordedTarget? = some targetId)
    (hgen : r.metadata.generation = r.observedGeneration) (hset : r.isSettled = false) :
    (pollStep c r v targetId key).run.Paced c ns name (.guarded r v) := by
  have hdue : Due r v (.get v.gatewayId targetId) := .poll hrec hgen hset
  refine Pass.paced_lift (paces_callOnce fun raced => .poll raced hdue) ?_
  rintro outcome _ rfl
  refine Pass.paced_of_quiet ?_ (by simp) trivial
  cases outcome with
  | ok state => exact quiet_observing state
  | error e => exact quiet_afterFailure (household_isQuiet key).asks_backOff

/-- A guarded copy has its errand run. -/
lemma paced_advance : (advance c r v key).run.Paced c ns name (.guarded r v) := by
  refine advance_cases (motive := fun p => p.run.Paced c ns name (.guarded r v)) paced_createStep
    paced_updateStep ?settled paced_pollStep
  case settled =>
    intro targetId hrec hgen hsettled
    have hnone : ∀ call, ¬ Due r v call := by
      rintro _ (⟨hnone, -⟩ | ⟨-, hmoved, -⟩ | ⟨-, -, hunset⟩)
      · cases hrec.symm.trans hnone
      · exact hmoved hgen
      · cases hsettled.symm.trans hunset
    exact Pass.paced_of_quiet (household_isQuiet key).asks_letRest (by simp) hnone

/-! ### Deletion -/

lemma paced_removeFinalizer (hst : st = .releasing ∨
    ∃ gatewayId targetId, st = .calling (.delete gatewayId targetId)) :
    (removeFinalizer r key).run.Paced c ns name st := by
  have hfin : st ≠ .opening ∧ st.Finished := by
    obtain rfl | ⟨_, _, rfl⟩ := hst
    · exact ⟨by simp, trivial⟩
    · exact ⟨by simp, trivial⟩
  intro outcome
  refine ⟨st, .detach outcome hst, ?_⟩
  cases outcome with
  | error e => exact hfin.2
  | ok r' => exact fun _ => ⟨st, .quiet _ hfin.1 rfl, hfin.2⟩

lemma paced_deleteRecorded (gatewayId targetId : String) :
    (deleteRecorded c r gatewayId targetId key).run.Paced c ns name
      (.deleting gatewayId targetId) := by
  have hcalls : (deleteTarget c.policy gatewayId targetId).Follows (Paces c ns name) _
      (.deleting gatewayId targetId) := paces_repeatCall .delete _ _ _ _
  refine Pass.paced_lift hcalls ?_
  rintro outcome _ rfl
  cases outcome with
  | ok _ =>
    intro _
    exact ⟨_, .quiet _ (by simp) rfl, paced_removeFinalizer (.inr ⟨_, _, rfl⟩)⟩
  | error e =>
    exact Pass.paced_of_quiet (quiet_afterFailure (household_isQuiet key).asks_backOff) (by simp)
      trivial

lemma not_demands_of_deleted {call : Call} (hdel : r.isBeingDeleted)
    (hgone : ∀ gatewayId targetId, r.hasFinalizer finalizer → r.recordedTarget? = some targetId →
      resolveGateway c.defaultGateway r.spec ≠ .ok gatewayId) : ¬ Demands c r call := by
  rintro (⟨-, hfin, hrec, hgw⟩ | ⟨hkept, -, -⟩)
  · exact hgone _ _ hfin hrec hgw
  · cases hdel.symm.trans hkept

/-- A copy that is marked for deletion is taken up. -/
lemma exists_opens_deleted (hdel : r.isBeingDeleted) :
    ∃ st, Stage.Opens c r st ∧ (deleteStep c r key).run.Paced c ns name st := by
  refine deleteStep_cases (motive := fun p => ∃ st, Stage.Opens c r st ∧ p.run.Paced c ns name st)
    ?resigned (fun _ hrec => ⟨.releasing, .releasing hdel hrec, paced_removeFinalizer (.inl rfl)⟩)
    ?unreachable fun hfin hrec hgw => ⟨_, .deleting hdel hfin hrec hgw, paced_deleteRecorded ..⟩
  case resigned =>
    intro hfin
    have hnone : ∀ call, ¬ Demands c r call :=
      fun _ => not_demands_of_deleted hdel fun _ _ h => nomatch hfin.symm.trans h
    exact ⟨.resting, .resting hnone, trivial⟩
  case unreachable =>
    intro _ _ _ _ hgw
    have hnone : ∀ call, ¬ Demands c r call :=
      fun _ => not_demands_of_deleted hdel fun _ _ _ _ h => nomatch hgw.symm.trans h
    exact ⟨.resting, .resting hnone, trivial⟩

/-! ### Whole passes -/

/-- A copy is taken up in a stage that depends on nothing but the copy. -/
lemma exists_opens_paced (r : Resource) :
    ∃ st, Stage.Opens c r st ∧ (reconcileCopy c r key).run.Paced c ns name st := by
  refine reconcileCopy_cases
    (motive := fun p => ∃ st, Stage.Opens c r st ∧ p.run.Paced c ns name st)
    exists_opens_deleted ?invalid
    (fun hdel hv hfin => ⟨_, .guarded hdel hv hfin, paced_advance⟩) ?unguarded
  case invalid =>
    intro e hdel hv
    have hnone : ∀ call, ¬ Demands c r call := by
      rintro _ (⟨hdel', -, -, -⟩ | ⟨-, hok, -⟩)
      · cases hdel.symm.trans hdel'
      · cases hv.symm.trans hok
    refine ⟨.resting, .resting hnone, Pass.paced_of_quiet ?_ (by simp) trivial⟩
    exact Pass.asks_bind (quiet_setReadiness ..) fun _ => Pass.asks_pure _
  case unguarded =>
    intro v hdel hv hfin
    refine ⟨_, .unguarded hdel hv hfin, fun outcome => ?_⟩
    cases outcome with
    | error e => exact ⟨.resting, .attachRefused, trivial⟩
    | ok r' => exact ⟨_, .attach, paced_advance⟩

lemma paced_reconcileLatest : (reconcileLatest c ns name key).run.Paced c ns name .opening := by
  intro outcome
  rcases outcome with e | _ | r
  · exact ⟨.resting, .readNothing (fun _ h => nomatch h), trivial⟩
  · refine ⟨.resting, .readNothing (fun _ h => nomatch h), Pass.paced_of_quiet ?_ (by simp) trivial⟩
    exact Pass.asks_bind (Pass.asks_query rfl) fun _ => Pass.asks_pure _
  · obtain ⟨st, hopens, hpaced⟩ :
        ∃ st, Stage.Opens c r st ∧ (reconcileCopy c r key).run.Paced c ns name st :=
      exists_opens_paced r
    exact ⟨st, .read hopens, hpaced⟩

end Parts

/-- Every pass keeps to its errand, whatever it is answered. -/
theorem reconcile_paces (c : Config) (ns name : String) :
    (reconcile c ns name).run.Paced c ns name .opening := by
  rw [run_reconcile]
  intro cancelled
  refine ⟨.opening, .opened cancelled, ?_⟩
  cases cancelled with
  | true => exact trivial
  | false =>
    exact Program.Follows.bind (Program.Follows.weaken (fun _ _ hend => hend) paced_reconcileLatest)

end TargetRegistrar.Controller
