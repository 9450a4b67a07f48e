import TargetRegistrar.Proofs.Controller.Bookkeeping
import TargetRegistrar.Proofs.Controller.Quiescence
import TargetRegistrar.Proofs.Registration.Acceptance

/-!
# A failed operation stays outstanding

A create or an update that fails must not count as done: the status goes on naming the generation
and the target that it named before, so that the next pass finds the same work.  What a pass does
instead is to blame the failure in the condition on readiness (`Blames`), and to wait it out if it
may pass (`Resolves`).

Three things are followed through the parts of a pass: which call it makes (`Asked`), what it leaves
of the status, and what it books.  The first does not depend on how the calls end, so that the pass
after the failure is covered by the same lemma as the one that failed.
-/

namespace TargetRegistrar

namespace Gateway.Error

/-- Why the last attempt failed, below all operations that were exhausted by it. -/
def rootCause : Error → Error
  | retriesExhausted _ _ last => last.rootCause
  | e => e

/-- Exhausted operations fail like their innermost cause. -/
lemma errorClass_rootCause (e : Error) : e.rootCause.errorClass = e.errorClass := by
  induction e with
  | retriesExhausted _ _ last ih => exact ih
  | _ => rfl

end Gateway.Error

/-- A condition that is put is found, with all that it says but the time of its transition. -/
lemma Condition.exists_said (new : Condition) (cs : List Condition) :
    ∃ time, Condition.find? new.type (Condition.set new cs) =
      some { new with lastTransition := time } := by
  rw [Condition.find?_set_self]
  cases Condition.find? new.type cs with
  | none => exact ⟨new.lastTransition, rfl⟩
  | some old =>
    by_cases hverdict : old.verdict = new.verdict
    · exact ⟨old.lastTransition, by simp [Condition.succeeding, hverdict]⟩
    · exact ⟨new.lastTransition, by simp [Condition.succeeding, hverdict]⟩

namespace Controller

open Gateway Registration

/-! ## What is outstanding -/

/-- The target of a resource is to be created or updated; the reason and the context are those with
which a failure of the operation is announced. -/
inductive Outstanding (r : Resource) : Operation → (reason context : String) → Prop where
  | create (hrec : r.recordedTarget? = none) :
      Outstanding r .create "CreationError" "Failed to create gateway target"
  | update {targetId : String} (hrec : r.recordedTarget? = some targetId)
      (hgen : r.metadata.generation ≠ r.observedGeneration) :
      Outstanding r .update "UpdateError" "Failed to update gateway target"

/-- The call for which a resource is due that has to be created or updated, if it can be built. -/
def mutation (r : Resource) (v : Validated) : Except BuildError Call :=
  match r.recordedTarget? with
  | none => v.createRequest.map fun request =>
      .create { request with clientToken := createToken r }
  | some targetId => (v.updateRequest targetId).map .update

/-- A call as it is made: a create without a token has been given one. -/
inductive CarriesOut : Call → Call → Prop where
  | asIs {call : Call} (h : ∀ request, call = .create request → request.clientToken ≠ none) :
      CarriesOut call call
  | drawn {request : CreateRequest} (token : CreateToken) (h : request.clientToken = none) :
      CarriesOut (.create request) (.create { request with clientToken := some token })

/-- A call has been made, perhaps again and again, and no other one. -/
def Asked (call : Call) (trail : List Exchange) : Prop :=
  ∃ made, CarriesOut call made ∧ calls trail ≠ [] ∧ ∀ call' ∈ calls trail, call' = made

/-- Every pass that finds a resource as it is here makes a call, and no other one. -/
def AsksAnew (c : Config) (ns name : String) (r : Resource) (call : Call) : Prop :=
  ∀ s s' outcome trail, s.store.current ns name = some r →
    Play (reconcile c ns name).run s (.done outcome) s' trail → Asked call trail

/-- A failure has been put into the condition on readiness, and the status is otherwise as it
was. -/
structure Blames (r r' : Resource) (reason message : String) : Prop extends Renewed r r' where
  status : ∃ began, r'.status = some { r.status.getD {} with
    conditions := Condition.set (failureCondition r reason message began)
      (r.status.getD {}).conditions }
  ready : ∃ time, (r'.status.getD {}).ready? =
    some ⟨Condition.readyType, .fails, reason, message, time, r.metadata.generation⟩

/-- What follows from a failure: it is waited out if it may pass, and otherwise the pass stops and
books nothing. -/
structure Resolves (key : String) (mayPass : Prop) (ledger : Backoff.Ledger)
    (outcome : Except Error Directive) (ledger' : Backoff.Ledger) : Prop where
  waits : mayPass → outcome = .ok (.requeueAfter (ledger.fail key).1) ∧
    ledger' = (ledger.fail key).2
  stops : ¬ mayPass → outcome = .ok .stop ∧ ledger' = ledger

variable {α β : Type} {c : Config} {ns name key reason message context : String}
  {r r' r'' : Resource} {v : Validated} {operation : Operation} {call : Call}
  {s s' : Scene} {trail trail' : List Exchange}

lemma Outstanding.congr (h : Outstanding r operation reason context)
    (hrec : r'.recordedTarget? = r.recordedTarget?)
    (hgen : r'.metadata.generation = r.metadata.generation)
    (hobs : r'.observedGeneration = r.observedGeneration) :
    Outstanding r' operation reason context := by
  cases h with
  | create hnone => exact .create (hrec.trans hnone)
  | update hsome hmoved =>
    refine .update (hrec.trans hsome) ?_
    rwa [hgen, hobs]

lemma mutation_congr (hrenewed : Renewed r r') (hrec : r'.recordedTarget? = r.recordedTarget?) :
    mutation r' v = mutation r v := by
  rw [mutation, mutation, hrec, hrenewed.createToken]

/-- A valid resource with a name for its target has a call to make. -/
lemma exists_mutation {targetName : String} (hv : validate c.defaultGateway r = .ok v)
    (hnames : Names r targetName) : ∃ call, mutation r v = .ok call := by
  obtain ⟨config, hconfig⟩ := exists_config_of_names hv hnames
  unfold mutation
  cases hrec : r.recordedTarget? with
  | none =>
    rw [createRequest_eq, hconfig]
    exact ⟨_, rfl⟩
  | some targetId =>
    dsimp only
    rw [updateRequest_eq v (ne_empty_of_recordedTarget? hrec), hconfig]
    exact ⟨_, rfl⟩

/-- Blame says nothing of the target. -/
lemma Blames.akin (h : Blames r r' reason message) : Akin r r' := by
  obtain ⟨began, hstatus⟩ := h.status
  have hwritten : r'.status = some ((StatusChange.condition
    (failureCondition r reason message began)).applyTo began r) := hstatus
  exact ⟨h.toRenewed, recordedTarget?_written hwritten, observedGeneration_written hwritten⟩

/-- A condition that has been put on readiness is all that a written status says anew. -/
lemma blames_of_written {began now : Timestamp} (hrenewed : Renewed r r')
    (hstatus : r'.status = some ((StatusChange.condition
      (failureCondition r reason message began)).applyTo now r)) : Blames r r' reason message where
  toRenewed := hrenewed
  status := ⟨began, hstatus⟩
  ready := by
    rw [hstatus]
    exact Condition.exists_said (failureCondition r reason message began) _

/-- What is written to a copy that differs by the finalizer blames the resource itself. -/
lemma Blames.of_renewed (hrenewed : Renewed r r') (hstatus : r'.status = r.status)
    (h : Blames r' r'' reason message) : Blames r r'' reason message where
  toRenewed := hrenewed.trans h.toRenewed
  status := by
    obtain ⟨began, hwritten⟩ := h.status
    refine ⟨began, ?_⟩
    rw [hwritten, hstatus, failureCondition, hrenewed.generation]
    rfl
  ready := by
    rw [← hrenewed.generation]
    exact h.ready

/-! ## Which call is made -/

/-- A program that makes no call leaves the calls as they are. -/
lemma Program.Quiet.ensures_calls {p : Program α} (hp : p.Quiet) :
    p.Ensures (fun _ _ trail' => calls trail' = calls trail) s trail :=
  .of_asks hp (fun hq _ h => (calls_quiet hq).trans h) rfl

lemma Asked.of_calls_eq (h : Asked call trail) (hsame : calls trail' = calls trail) :
    Asked call trail' := by
  rw [Asked, hsame]
  exact h

/-- A call that is made once more is still the only one. -/
lemma made_again {made : List Call} (h : ∀ call' ∈ made, call' = call) :
    call :: made ≠ [] ∧ ∀ call' ∈ call :: made, call' = call :=
  ⟨by simp, List.forall_mem_cons.mpr ⟨rfl, h⟩⟩

/-- However often a call is repeated, it is made, and no other one. -/
lemma ensures_made_repeatCall (policy : RetryPolicy) (call : Call) (left made : Nat)
    (backoff : Duration) (h : ∀ call' ∈ calls trail, call' = call) :
    (repeatCall policy call left made backoff).Ensures
      (fun _ _ trail' => calls trail' ≠ [] ∧ ∀ call' ∈ calls trail', call' = call) s trail := by
  induction left generalizing s trail made backoff with
  | zero =>
    refine Program.Ensures.bind (ensures_callOnce fun time => ?_)
    cases settle call (s.gateway.serve time call).1 with
    | ok reply => exact made_again h
    | error e => exact made_again h
  | succ left ih =>
    refine Program.Ensures.bind (ensures_callOnce fun time => ?_)
    cases settle call (s.gateway.serve time call).1 with
    | ok reply => exact made_again h
    | error e =>
      by_cases hretry : e.isRetryable = true
      · simp only [hretry, if_true]
        rintro waited s' ⟨rfl, rfl⟩
        exact ih _ _ (made_again h).2
      · simp only [hretry]
        exact made_again h

lemma ensures_asked_callRetrying (policy : RetryPolicy) (hcalls : calls trail = [])
    (hcarries : CarriesOut call call) :
    (callRetrying policy call).Ensures (fun _ _ trail' => Asked call trail') s trail :=
  (ensures_made_repeatCall policy call _ _ _ (by simp [hcalls])).weaken
    fun _ _ _ h => ⟨call, hcarries, h⟩

/-- A create without a token is made with the one that was drawn for it. -/
lemma ensures_asked_createTarget (policy : RetryPolicy) (request : CreateRequest)
    (hcalls : calls trail = []) :
    (createTarget policy request).Ensures (fun _ _ trail' => Asked (.create request) trail') s
      trail := by
  unfold createTarget
  cases htoken : request.clientToken with
  | some token =>
    have hcarries : CarriesOut (.create request) (.create request) := by
      refine .asIs ?_
      rintro _ ⟨⟩ hnone
      cases htoken.symm.trans hnone
    exact ensures_asked_callRetrying policy hcalls hcarries
  | none =>
    rintro token s₁ -
    have hdrawn : calls (⟨.freshToken, token, s.store⟩ :: trail) = [] := hcalls
    refine (ensures_made_repeatCall policy (.create { request with clientToken := some token })
      _ _ _ ?_).weaken fun _ _ _ h => ⟨_, .drawn token htoken, h⟩
    simp [hdrawn]

/-- What follows an operation makes no call. -/
lemma ensures_asked_of_quiet {p : Program α} {f : α → Pass Error β}
    (hp : p.Ensures (fun _ _ trail' => Asked call trail') s trail)
    (hquiet : ∀ outcome, (f outcome).Quiet) :
    (Pass.lift p >>= f).Ensures (fun _ _ trail' => Asked call trail') s trail :=
  Pass.ensures_lift hp fun outcome _ _ hasked =>
    (hquiet outcome).ensures_calls.weaken fun _ _ _ => hasked.of_calls_eq

/-- A resource that lacks an operation is due for it. -/
lemma ensures_asked_advance (hout : Outstanding r operation reason context)
    (hcall : mutation r v = .ok call) (hcalls : calls trail = []) :
    (advance c r v key).Ensures (fun _ _ trail' => Asked call trail') s trail := by
  cases hout with
  | create hrec =>
    simp only [mutation, hrec] at hcall
    simp only [advance, hrec, createStep]
    cases hreq : v.createRequest with
    | error e => simp [hreq, Except.map] at hcall
    | ok request =>
      obtain rfl : Call.create _ = call := by simpa [hreq, Except.map] using hcall
      refine ensures_asked_of_quiet (ensures_asked_createTarget c.policy _ hcalls) ?_
      rintro (e | created)
      · exact quiet_afterFailure (quiet_reportFailure ..)
      · exact quiet_afterSuccess (Pass.asks_pure _)
  | @update targetId hrec hgen =>
    simp only [mutation, hrec] at hcall
    simp only [advance, hrec, if_pos hgen, updateStep]
    cases hreq : v.updateRequest targetId with
    | error e => simp [hreq, Except.map] at hcall
    | ok request =>
      obtain rfl : Call.update _ = call := by simpa [hreq, Except.map] using hcall
      have hcarries : CarriesOut (.update request) (.update request) := .asIs (by simp)
      refine ensures_asked_of_quiet (p := updateTarget c.policy request)
        (ensures_asked_callRetrying c.policy hcalls hcarries) ?_
      rintro (e | state)
      · exact quiet_afterFailure (quiet_reportFailure ..)
      · exact quiet_afterSuccess (Pass.asks_pure _)

/-- Without a call that can be made none is. -/
lemma ensures_unasked_advance {e : BuildError} (hout : Outstanding r operation reason context)
    (hnone : mutation r v = .error e) :
    (advance c r v key).Ensures (fun _ _ trail' => calls trail' = calls trail) s trail := by
  cases hout with
  | create hrec =>
    simp only [mutation, hrec] at hnone
    simp only [advance, hrec, createStep]
    cases hreq : v.createRequest with
    | error e' => exact (quiet_reportBuildError r e').ensures_calls
    | ok request => simp [hreq, Except.map] at hnone
  | @update targetId hrec hgen =>
    simp only [mutation, hrec] at hnone
    simp only [advance, hrec, if_pos hgen, updateStep]
    cases hreq : v.updateRequest targetId with
    | error e' => exact (quiet_reportBuildError r e').ensures_calls
    | ok request => simp [hreq, Except.map] at hnone

/-! ## What is left and booked -/

/-- What books nothing leaves the accounts as they are. -/
lemma Scene.Answers.ledger_eq {q : Query} {answer : q.Answer} (ha : s.Answers q answer s')
    (hq : q.booking? = none) : s'.ledger = s.ledger := by
  cases q with
  | fail key => cases hq
  | succeed key => cases hq
  | forget key => cases hq
  | store request => exact ha.2 ▸ rfl
  | gateway call =>
    obtain ⟨time, -, rfl⟩ := ha
    rfl
  | wait delay => exact ha.2 ▸ rfl
  | isCancelled => exact ha.2 ▸ rfl
  | freshToken => exact ha.2 ▸ rfl
  | _ =>
    obtain rfl : s' = s := ha
    rfl

lemma Program.Asks.ensures_ledger {p : Program α} (hp : p.Asks (·.booking? = none)) :
    p.Ensures (fun _ s' _ => s'.ledger = s.ledger) s trail :=
  .of_asks hp (fun hq ha h => (ha.ledger_eq hq).trans h) rfl

/-- A status that a trail writes. -/
def WritesStatus (trail : List Exchange) (status : Status) : Prop :=
  ∃ copy, .replaceStatus copy status ∈ writes trail

/-- A failure has been announced, nothing else has been written to the status, and the finalizer is
in place. -/
def Announcing (r : Resource) (reason message : String) (s' : Scene) (trail' : List Exchange) :
    Prop :=
  ∃ r', s'.store.objects.get? (Store.location r) = some r' ∧ r'.hasFinalizer finalizer ∧
    Blames r r' reason message ∧ ∀ status, WritesStatus trail' status → r'.status = some status

/-- What a pass without refusals comes to whose operation has failed. -/
def Fallen (key : String) (r : Resource) (reason message : String) (mayPass : Prop)
    (ledger : Backoff.Ledger) (outcome : Except Error Directive) (s' : Scene)
    (trail' : List Exchange) : Prop :=
  Unrefused trail' →
    Announcing r reason message s' trail' ∧ Resolves key mayPass ledger outcome s'.ledger

lemma Announcing.idled (h : Announcing r reason message s trail)
    (hidled : Idled s trail s' trail') : Announcing r reason message s' trail' := by
  obtain ⟨r', hstored, hfin, hblames, honly⟩ := h
  refine ⟨r', by rw [hidled.store, hstored], hfin, hblames, fun status hwritten => honly status ?_⟩
  rwa [WritesStatus, hidled.writes] at hwritten

/-- A failure is announced in one write, if it has not been announced before. -/
lemma ensures_setNotReady_announcing (hr : s.store.objects.get? (Store.location r) = some r)
    (hplaced : ¬ Unplaced r) (hfin : r.hasFinalizer finalizer)
    (hunwritten : ∀ status, ¬ WritesStatus trail status) :
    (setNotReady r reason message).Ensures (fun outcome s' trail' => Unrefused trail' →
      (∃ written, outcome = .ok written) ∧ Announcing r reason message s' trail') s trail := by
  intro began s₁ htimed
  obtain rfl : s₁ = s := htimed
  refine ensures_applyChange_of (fun _ hunplaced => absurd hunplaced hplaced) ?_
  intro ns name hplace _
  refine ensures_writeLatest_of hplace (hplace ▸ hr) ?_ ?_ ?_
  · intro now hsame _
    refine ⟨⟨r, rfl⟩, r, hr, hfin, blames_of_written (.refl r) hsame, ?_⟩
    exact fun status hwritten => absurd hwritten (hunwritten status)
  · intro now written s' _ _ hstored _
    have hstatus : written.status = some ((StatusChange.condition
        (failureCondition r reason message began)).applyTo now r) := by
      rw [hstored.result]
      rfl
    have hrenewed : Renewed r written := renewed_of_statusWritten hstored
    refine ⟨⟨written, rfl⟩, written, hstored.get?_self, hrenewed.guard hfin,
      blames_of_written hrenewed hstatus, ?_⟩
    rintro status ⟨copy, hwritten⟩
    obtain hnew | hearlier := List.mem_cons.mp hwritten
    · cases hnew
      exact hstatus
    · exact absurd ⟨copy, hearlier⟩ (hunwritten status)
  · intro now e s' _ _ _ _
    refine (ensures_refused fun h => ?_).weaken fun _ _ _ h h' => absurd h' h
    cases h _ List.mem_cons_self

lemma asks_unbooked_setNotReady : (setNotReady r reason message).Asks (·.booking? = none) :=
  asks_unbooked_setReadiness ..

/-- A failed operation is announced, and then waited out or given up. -/
lemma ensures_fallen_reportFailure {e : Gateway.Error}
    (hr : s.store.objects.get? (Store.location r) = some r) (hplaced : ¬ Unplaced r)
    (hfin : r.hasFinalizer finalizer) (hunwritten : ∀ status, ¬ WritesStatus trail status) :
    (reportFailure r key reason context e).Ensures
      (Fallen key r reason (context ++ ": " ++ e.message) e.isRetryable s.ledger) s trail := by
  refine Pass.ensures_ofStore ((ensures_setNotReady_announcing hr hplaced hfin hunwritten).and
    (asks_unbooked_setNotReady.ensures_ledger)) ?_ ?_
  · rintro written s₁ trail₁ ⟨hannounced, hledger⟩
    by_cases hretry : e.isRetryable = true
    · rw [if_pos hretry]
      rintro delay s₂ hbooked hunrefused
      have hidled : Idled s₁ trail₁ s₂ (⟨.fail key, delay, s₁.store⟩ :: trail₁) :=
        .asked rfl hbooked
      obtain ⟨rfl, rfl⟩ := hbooked
      refine ⟨(hannounced hunrefused.of_cons).2.idled hidled, ?_⟩
      exact ⟨fun _ => ⟨by rw [hledger], by rw [hledger]⟩, fun hnot => absurd hretry hnot⟩
    · rw [if_neg hretry]
      intro hunrefused
      exact ⟨(hannounced hunrefused).2, fun hyes => absurd hyes hretry, fun _ => ⟨rfl, hledger⟩⟩
  · rintro e' s₁ trail₁ ⟨hannounced, -⟩ hunrefused
    obtain ⟨⟨written, hok⟩, -⟩ := hannounced hunrefused
    cases hok

/-- What an operation and its failure come to, in view of how the calls have ended. -/
def FallsWith (operation : Operation) (key : String) (r : Resource) (reason context : String)
    (ledger : Backoff.Ledger) (outcome : Except Error Directive) (s' : Scene)
    (trail' : List Exchange) : Prop :=
  ∀ e, operationFailure operation (failures trail') = some e → e.isCancelled = false →
    Fallen key r reason (context ++ ": " ++ e.message) e.isRetryable ledger outcome s' trail'

/-- An operation that fails is announced, and nothing else comes of it. -/
lemma ensures_fallsWith_of_operated {p : Program (Except Gateway.Error α)}
    {f : Except Gateway.Error α → Pass Error Directive}
    (hp : p.Ensures (Operated c.policy operation s trail) s trail)
    (hunbooked : p.Asks (·.booking? = none)) (hquiet : ∀ outcome, (f outcome).Quiet)
    (hf : ∀ e, f (.error e) = afterFailure c operation e (reportFailure r key reason context e))
    (hr : s.store.objects.get? (Store.location r) = some r) (hplaced : ¬ Unplaced r)
    (hfin : r.hasFinalizer finalizer) (hunwritten : ∀ status, ¬ WritesStatus trail status) :
    (Pass.lift p >>= f).Ensures (FallsWith operation key r reason context s.ledger) s trail := by
  refine Pass.ensures_lift (hp.and hunbooked.ensures_ledger) ?_
  rintro outcome s₁ trail₁ ⟨⟨hstore, hwrites, haccounts, -⟩, hledger⟩
  -- What follows makes no call, so that it does not change which failure is meant.
  cases outcome with
  | ok reply =>
    refine (hquiet _).ensures_failures.weaken fun _ _ trail' hsame e hfails => ?_
    obtain ⟨last, hlast⟩ := head?_of_operationFailure (hsame ▸ hfails)
    cases haccounts.symm.trans hlast
  | error e₁ =>
    by_cases hcancelled : e₁.isCancelled = true
    · refine (hquiet _).ensures_failures.weaken fun _ _ trail' hsame e hfails hnot => ?_
      obtain rfl := Option.some.inj (haccounts.symm.trans (hsame ▸ hfails))
      cases hcancelled.symm.trans hnot
    · have hfallen : (f (.error e₁)).Ensures
          (Fallen key r reason (context ++ ": " ++ e₁.message) e₁.isRetryable s.ledger) s₁
          trail₁ := by
        rw [hf, afterFailure, if_neg hcancelled]
        rintro _ s₂ ⟨⟩
        rw [← hledger]
        refine ensures_fallen_reportFailure (by rw [hstore, hr]) hplaced hfin ?_
        refine fun status hwritten => hunwritten status ?_
        rwa [WritesStatus, writes_idle rfl, hwrites] at hwritten
      refine (hfallen.and (hquiet _).ensures_failures).weaken ?_
      rintro _ s' trail' ⟨hfallen, hsame⟩ e hfails -
      obtain rfl := Option.some.inj (haccounts.symm.trans (hsame ▸ hfails))
      exact hfallen

/-- Without a call no operation has failed. -/
lemma fallsWith_of_quiet {p : Pass Error Directive} (hp : p.Quiet) (hcalls : failures trail = []) :
    p.Ensures (FallsWith operation key r reason context s.ledger) s trail := by
  refine hp.ensures_failures.weaken fun _ _ trail' hsame e hfails => ?_
  rw [hsame, hcalls] at hfails
  cases hfails

/-- An advance that fails is announced, whichever operation it is. -/
lemma ensures_fallsWith_advance (hout : Outstanding r operation reason context)
    (hr : s.store.objects.get? (Store.location r) = some r) (hplaced : ¬ Unplaced r)
    (hfin : r.hasFinalizer finalizer) (hcalls : failures trail = [])
    (hunwritten : ∀ status, ¬ WritesStatus trail status) :
    (advance c r v key).Ensures (FallsWith operation key r reason context s.ledger) s trail := by
  cases hout with
  | create hrec =>
    simp only [advance, hrec, createStep]
    cases v.createRequest with
    | error e => exact fallsWith_of_quiet (quiet_reportBuildError r e) hcalls
    | ok request =>
      refine ensures_fallsWith_of_operated (ensures_operated_createTarget c.policy _ hcalls)
        (asks_unbooked_createTarget ..) ?_ (fun e => rfl) hr hplaced hfin hunwritten
      rintro (e | created)
      · exact quiet_afterFailure (quiet_reportFailure ..)
      · exact quiet_afterSuccess (Pass.asks_pure _)
  | @update targetId hrec hgen =>
    simp only [advance, hrec, if_pos hgen, updateStep]
    cases v.updateRequest targetId with
    | error e => exact fallsWith_of_quiet (quiet_reportBuildError r e) hcalls
    | ok request =>
      refine ensures_fallsWith_of_operated
        (ensures_operated_callRetrying c.policy (.update request) hcalls)
        (asks_unbooked_callRetrying ..) ?_ (fun e => rfl) hr hplaced hfin hunwritten
      rintro (e | state)
      · exact quiet_afterFailure (quiet_reportFailure ..)
      · exact quiet_afterSuccess (Pass.asks_pure _)

/-- What falls on a copy that differs by the finalizer falls on the resource itself. -/
lemma Fallen.of_renewed {mayPass : Prop} {ledger : Backoff.Ledger}
    {outcome : Except Error Directive} (hrenewed : Renewed r r')
    (hstatus : r'.status = r.status)
    (h : Fallen key r' reason message mayPass ledger outcome s' trail') :
    Fallen key r reason message mayPass ledger outcome s' trail' := by
  intro hunrefused
  obtain ⟨⟨r'', hstored, hfin, hblames, honly⟩, hresolves⟩ := h hunrefused
  rw [hrenewed.location] at hstored
  exact ⟨⟨r'', hstored, hfin, hblames.of_renewed hrenewed hstatus, honly⟩, hresolves⟩

/-- How a pass ends does not change what its failure comes to. -/
lemma Resolves.surface {mayPass : Prop} {ledger ledger' : Backoff.Ledger}
    {outcome : Except Error Directive} (h : Resolves key mayPass ledger outcome ledger') :
    Resolves key mayPass ledger (surface c outcome) ledger' where
  waits hmay := ⟨by rw [(h.waits hmay).1]; rfl, (h.waits hmay).2⟩
  stops hnot := ⟨by rw [(h.stops hnot).1]; rfl, (h.stops hnot).2⟩

/-! ## Whole passes -/

/-- A pass has a copy of a resource in hand that carries the finalizer, and has done nothing but
fetch and mark it. -/
structure InHand (r : Resource) (s : Scene) (copy : Resource) (s' : Scene)
    (trail' : List Exchange) : Prop where
  stored : s'.store.objects.get? (Store.location copy) = some copy
  renewed : Renewed r copy
  status : copy.status = r.status
  guarded : copy.hasFinalizer finalizer
  uncalled : calls trail' = []
  unwritten : ∀ status, ¬ WritesStatus trail' status
  ledger : s'.ledger = s.ledger

lemma InHand.outstanding (h : InHand r s r' s' trail')
    (hout : Outstanding r operation reason context) :
    Outstanding r' operation reason context :=
  hout.congr (recordedTarget?_congr h.status) h.renewed.generation
    (observedGeneration_congr h.status)

lemma InHand.mutation_eq (h : InHand r s r' s' trail') : mutation r' v = mutation r v :=
  mutation_congr h.renewed (recordedTarget?_congr h.status)

/-- Attaching the finalizer is all that a pass does before it acts, if it is not refused. -/
lemma ensures_addFinalizer_inHand (hr : s.store.objects.get? (Store.location r) = some r)
    (hcalls : calls trail = []) (hunwritten : ∀ status, ¬ WritesStatus trail status) :
    (addFinalizer r).Ensures (fun outcome s₁ trail₁ =>
      (∀ copy, outcome = .ok copy → InHand r s copy s₁ trail₁) ∧
        ∀ e, outcome = .error e → ¬ Unrefused trail₁) s trail := by
  have hunput : (addFinalizer r).Ensures
      (fun _ _ trail₁ => ∀ status, ¬ WritesStatus trail₁ status) s trail := by
    refine Program.Ensures.bind (Pass.ensures_store ?_)
    rintro status ⟨copy, hwritten⟩
    obtain hnew | hearlier := List.mem_cons.mp hwritten
    · cases hnew
    · exact hunwritten status ⟨copy, hearlier⟩
  have hunbooked : (addFinalizer r).Asks (·.booking? = none) :=
    Pass.asks_ofStore (Pass.asks_store rfl)
  refine ((ensures_addFinalizer hr).and ((ensures_store_told _).and
    (hunput.and hunbooked.ensures_ledger))).weaken ?_
  rintro outcome s₁ trail₁ ⟨hattached, ⟨-, hrefused⟩, hunwritten₁, hledger⟩
  refine ⟨?_, hrefused⟩
  rintro copy rfl
  cases hattached with
  | attached hstored hrenewed hstatus hfin _ hsame =>
    exact ⟨hrenewed.location.symm ▸ hstored, hrenewed, hstatus, hfin, hsame.trans hcalls,
      hunwritten₁, hledger⟩

/-- A pass on a valid resource acts for a copy of it, unless the finalizer cannot be attached. -/
lemma ensures_acting {post : Except Error Directive → Scene → List Exchange → Prop}
    (hr : s.store.objects.get? (ns, name) = some r) (hplace : Store.location r = (ns, name))
    (hkept : r.isBeingDeleted = false) (hv : validate c.defaultGateway r = .ok v)
    (hadvance : ∀ copy s₁ trail₁, InHand r s copy s₁ trail₁ →
      (advance c copy v (ns ++ "/" ++ name)).Ensures (fun ending => post (surface c ending)) s₁
        trail₁)
    (hrefused : ∀ outcome s₁ trail₁, r.hasFinalizer finalizer = false → ¬ Unrefused trail₁ →
      post outcome s₁ trail₁) :
    (reconcile c ns name).Ensures post s [] := by
  refine ensures_reconcile_of_stored hr fun trail₁ hcalls hwrites => ?_
  rw [← hplace] at hr
  have hunwritten : ∀ status, ¬ WritesStatus trail₁ status := by
    rintro status ⟨copy, hwritten⟩
    rw [hwrites] at hwritten
    cases hwritten
  simp only [reconcileCopy, hkept, hv]
  by_cases hfin : r.hasFinalizer finalizer = true
  · simp only [hfin, if_true]
    exact hadvance r s trail₁ ⟨hr, .refl r, rfl, hfin, hcalls, hunwritten, rfl⟩
  · simp only [hfin]
    refine Pass.ensures_bind (ensures_addFinalizer_inHand hr hcalls hunwritten) ?_ ?_
    · exact fun copy s₁ trail₂ hattached => hadvance copy s₁ trail₂ (hattached.1 copy rfl)
    · exact fun e s₁ trail₂ hstopped => hrefused _ s₁ trail₂ (by simpa using hfin)
        (hstopped.2 e rfl)

/-- A pass on a resource for which an operation is outstanding makes one call, if it can be built
and the finalizer is in place. -/
lemma ensures_asked (hr : s.store.objects.get? (ns, name) = some r)
    (hplace : Store.location r = (ns, name)) (hkept : r.isBeingDeleted = false)
    (hv : validate c.defaultGateway r = .ok v) (hout : Outstanding r operation reason context) :
    (reconcile c ns name).Ensures (fun _ _ trail' =>
      r.hasFinalizer finalizer ∨ Unrefused trail' →
        (calls trail' ≠ [] → ∃ call, mutation r v = .ok call) ∧
          ∀ call, mutation r v = .ok call → Asked call trail') s [] := by
  refine ensures_acting hr hplace hkept hv ?_ ?_
  · intro copy s₁ trail₁ hcopy
    cases hcall : mutation r v with
    | error e =>
      refine (ensures_unasked_advance (hcopy.outstanding hout)
        (hcopy.mutation_eq.trans hcall)).weaken fun _ _ trail' hsame _ => ⟨fun hcalls => ?_, ?_⟩
      · exact absurd (hsame.trans hcopy.uncalled) hcalls
      · exact fun call => nofun
    | ok call =>
      refine (ensures_asked_advance (hcopy.outstanding hout) (hcopy.mutation_eq.trans hcall)
        hcopy.uncalled).weaken fun _ _ trail' hasked _ => ⟨fun _ => ⟨call, rfl⟩, ?_⟩
      rintro _ ⟨⟩
      exact hasked
  · rintro outcome s₁ trail₁ hfin hopposed (hguarded | hunrefused)
    · cases hfin.symm.trans hguarded
    · exact absurd hunrefused hopposed

/-- A pass ends as its operation does. -/
lemma ensures_fallsWith (hr : s.store.objects.get? (ns, name) = some r)
    (hplace : Store.location r = (ns, name)) (hplaced : ¬ Unplaced r)
    (hkept : r.isBeingDeleted = false) (hv : validate c.defaultGateway r = .ok v)
    (hout : Outstanding r operation reason context) :
    (reconcile c ns name).Ensures
      (FallsWith operation (ns ++ "/" ++ name) r reason context s.ledger) s [] := by
  refine ensures_acting hr hplace hkept hv ?_ ?_
  · intro copy s₁ trail₁ hcopy
    have hplaced' : ¬ Unplaced copy := by rwa [Unplaced, hcopy.renewed.ns, hcopy.renewed.name]
    rw [← hcopy.ledger]
    refine (ensures_fallsWith_advance (hcopy.outstanding hout) hcopy.stored hplaced'
      hcopy.guarded (failures_of_uncalled hcopy.uncalled) hcopy.unwritten).weaken ?_
    intro outcome s' trail' hfalls e hfails hnot
    have hfallen := (hfalls e hfails hnot).of_renewed hcopy.renewed hcopy.status
    exact fun hunrefused => (hfallen hunrefused).imp_right Resolves.surface
  · intro outcome s₁ trail₁ _ hopposed e _ _ hunrefused
    exact absurd hunrefused hopposed

/-! ## Two passes -/

/-- The failure of an operation may pass if the innermost cause of its last failure may. -/
lemma mayPass_iff {ends : List (Option Gateway.Error)} {e last : Gateway.Error}
    (hfails : operationFailure operation ends = some e) (hlast : ends.head? = some (some last)) :
    e.isRetryable ↔ last.rootCause.errorClass = .retryable := by
  obtain ⟨earlier, rfl⟩ : ∃ earlier, ends = some last :: earlier :=
    ⟨_, List.eq_cons_of_mem_head? hlast⟩
  obtain rfl := Option.some.inj hfails
  rw [Error.isRetryable_iff, Error.errorClass_rootCause]
  by_cases hretry : last.isRetryable = true
  · simp [hretry, Error.errorClass]
  · simp [hretry]

lemma Resolves.congr {mayPass mayPass' : Prop} {ledger ledger' : Backoff.Ledger}
    {outcome : Except Error Directive} (h : Resolves key mayPass ledger outcome ledger')
    (hiff : mayPass ↔ mayPass') : Resolves key mayPass' ledger outcome ledger' :=
  ⟨fun hmay => h.waits (hiff.mpr hmay), fun hnot => h.stops (mt hiff.mp hnot)⟩

/-- A pass that nobody disturbs and to which the store refuses nothing makes the create or the
update for which its resource is due, if there is a name for the target.  It acknowledges nothing
when that fails: it blames the failure in the condition on readiness and leaves the status alone
otherwise, it waits the failure out exactly if the innermost cause of the last raw failure may pass,
and a pass that finds the resource so makes the same call again. -/
theorem failure_stays_outstanding {outcome : Except Error Directive} {s₁ : Scene}
    {trail₁ : List Exchange} (hr : s.store.current ns name = some r)
    (hns : r.metadata.ns = some ns) (hname : r.metadata.name = some name)
    (hkept : r.isBeingDeleted = false) (hv : validate c.defaultGateway r = .ok v)
    (hout : Outstanding r operation reason context)
    (hplay : Play (reconcile c ns name).run s (.done outcome) s₁ trail₁)
    (hunrefused : Unrefused trail₁) :
    (∀ targetName, Names r targetName → ∃ call, mutation r v = .ok call ∧ Asked call trail₁) ∧
    ∀ e, operationFailure operation (failures trail₁) = some e → e.isCancelled = false →
      ∃ r₁ call last, s₁.store.current ns name = some r₁ ∧
        Blames r r₁ reason (context ++ ": " ++ e.message) ∧
        (∀ status, WritesStatus trail₁ status → r₁.status = some status) ∧
        (failures trail₁).head? = some (some last) ∧
        Resolves (ns ++ "/" ++ name) (last.rootCause.errorClass = .retryable) s.ledger outcome
          s₁.ledger ∧
        mutation r v = .ok call ∧ Asked call trail₁ ∧ AsksAnew c ns name r₁ call := by
  have hplace : Store.location r = (ns, name) := by simp [Store.location, hns, hname]
  have hplaced : ¬ Unplaced r := by simp [Unplaced, hns, hname]
  have hasked := hplay.ensured (ensures_asked hr hplace hkept hv hout) (.inr hunrefused)
  refine ⟨fun targetName hnames => ?_, fun e hfails hcancelled => ?_⟩
  · obtain ⟨call, hcall⟩ := exists_mutation hv hnames
    exact ⟨call, hcall, hasked.2 call hcall⟩
  have hfallen : FallsWith operation (ns ++ "/" ++ name) r reason context s.ledger outcome s₁
      trail₁ := hplay.ensured (ensures_fallsWith hr hplace hplaced hkept hv hout)
  obtain ⟨⟨r₁, hstored, hfin, hblames, honly⟩, hresolves⟩ := hfallen e hfails hcancelled hunrefused
  rw [hplace] at hstored
  obtain ⟨last, hlast⟩ := head?_of_operationFailure hfails
  have hcalled : calls trail₁ ≠ [] := fun hnone => by
    rw [failures_of_uncalled hnone] at hlast
    cases hlast
  obtain ⟨call, hcall⟩ := hasked.1 hcalled
  refine ⟨r₁, call, last, hstored, hblames, honly, hlast,
    hresolves.congr (mayPass_iff hfails hlast), hcall, hasked.2 call hcall, ?_⟩
  intro s₂ s₃ outcome' trail₂ hsame hnext
  have hakin : Akin r r₁ := hblames.akin
  have hagain := hnext.ensured (ensures_asked hsame (hblames.location.trans hplace)
    (hblames.deletion.trans hkept) ((hblames.validate _).trans hv)
    (hout.congr hakin.recorded hakin.generation hakin.observed)) (.inl hfin)
  exact hagain.2 call ((mutation_congr hblames.toRenewed hakin.recorded).trans hcall)

/-- The store that holds a registered resource whose specification has been edited. -/
def sampleEditedStore : Store.InMemory :=
  ({} : Store.InMemory).edit (.insert (Store.InMemory.withSpec sampleRegistered id))

/-- The resource as that store holds it. -/
def sampleEdited : Resource :=
  (sampleEditedStore.current "tools" "files").getD sampleRegistered

/-- The request to update its target. -/
def sampleEditedRequest : UpdateRequest where
  gatewayId := "gw"
  targetId := "target-1"
  config := sampleNewRequest.config

/-- A gateway that is busy at first, and then rejects an operation. -/
def sampleRejecting (operation : Operation) : Gateway.InMemory :=
  (({} : Gateway.InMemory).failNext operation (.api "ThrottlingException" "slow down")).failNext
    operation (.api "ValidationException" "no such scheme")

/-- How its calls end, the last one first. -/
def sampleRejections : List (Option Gateway.Error) :=
  [some (.api "ValidationException" "no such scheme"),
    some (.api "ThrottlingException" "slow down")]

/-- The update of an edited resource is repeated once and then rejected. -/
lemma play_rejected_update :
    ∃ s₁ trail₁, Play (reconcile sampleRepeating "tools" "files").run
        ⟨sampleEditedStore, sampleRejecting .update, {}⟩ (.done (.ok .stop)) s₁ trail₁ ∧
      calls trail₁ = [.update sampleEditedRequest, .update sampleEditedRequest] ∧
      failures trail₁ = sampleRejections ∧ Unrefused trail₁ ∧ s₁.ledger = {} := by
  have hstart : Play (reconcile sampleRepeating "tools" "files").run
      ⟨sampleEditedStore, sampleRejecting .update, {}⟩ _ _ _ := .start
  have hopened := hstart.asked (q := .isCancelled) false ⟨rfl, rfl⟩
  have hread := hopened.asked (q := .store (.get "tools" "files")) _ ⟨rfl, rfl⟩
  have hthrottled := hread.asked (q := .gateway (.update sampleEditedRequest)) _ ⟨0, rfl, rfl⟩
  have hwaited := hthrottled.asked (q := .wait (.ofSeconds 1)) _ ⟨rfl, rfl⟩
  have hrejected := hwaited.asked (q := .gateway (.update sampleEditedRequest)) _ ⟨1, rfl, rfl⟩
  have hcounted := hrejected.asked (q := .countCall .update false) () rfl
  have hbegan := hcounted.asked (q := .now) Store.deletionInstant rfl
  have hfetched := hbegan.asked (q := .store (.get "tools" "files")) _ ⟨rfl, rfl⟩
  have htimed := hfetched.asked (q := .now) Store.deletionInstant rfl
  have hended := htimed.asked (q := .store (.replaceStatus ..)) _ ⟨rfl, rfl⟩
  exact ⟨_, _, hended, rfl, rfl, by decide, rfl⟩

/-- The create for a new resource is repeated once and then rejected. -/
lemma play_rejected_create :
    ∃ s₁ trail₁, Play (reconcile sampleRepeating "tools" "files").run
        ⟨sampleNewStore, sampleRejecting .create, {}⟩ (.done (.ok .stop)) s₁ trail₁ ∧
      calls trail₁ = [.create sampleNewRequest, .create sampleNewRequest] ∧
      failures trail₁ = sampleRejections ∧ Unrefused trail₁ ∧ s₁.ledger = {} := by
  have hstart : Play (reconcile sampleRepeating "tools" "files").run
      ⟨sampleNewStore, sampleRejecting .create, {}⟩ _ _ _ := .start
  have hopened := hstart.asked (q := .isCancelled) false ⟨rfl, rfl⟩
  have hread := hopened.asked (q := .store (.get "tools" "files")) _ ⟨rfl, rfl⟩
  have hattached := hread.asked (q := .store (.replaceFinalizers ..)) _ ⟨rfl, rfl⟩
  have hthrottled := hattached.asked (q := .gateway (.create sampleNewRequest)) _ ⟨0, rfl, rfl⟩
  have hwaited := hthrottled.asked (q := .wait (.ofSeconds 1)) _ ⟨rfl, rfl⟩
  have hrejected := hwaited.asked (q := .gateway (.create sampleNewRequest)) _ ⟨1, rfl, rfl⟩
  have hcounted := hrejected.asked (q := .countCall .create false) () rfl
  have hbegan := hcounted.asked (q := .now) Store.deletionInstant rfl
  have hfetched := hbegan.asked (q := .store (.get "tools" "files")) _ ⟨rfl, rfl⟩
  have htimed := hfetched.asked (q := .now) Store.deletionInstant rfl
  have hended := htimed.asked (q := .store (.replaceStatus ..)) _ ⟨rfl, rfl⟩
  exact ⟨_, _, hended, rfl, rfl, by decide, rfl⟩

/-- An update and a create are repeated once and then rejected.  Both passes stop and book nothing:
the edited resource still names the generation before the edit, the new one names no target, and
every further pass makes the same call again. -/
theorem outstanding_after_rejections :
    (∃ s₁ trail₁ r₁, Play (reconcile sampleRepeating "tools" "files").run
        ⟨sampleEditedStore, sampleRejecting .update, {}⟩ (.done (.ok .stop)) s₁ trail₁ ∧
      calls trail₁ = [.update sampleEditedRequest, .update sampleEditedRequest] ∧
      s₁.store.current "tools" "files" = some r₁ ∧ s₁.ledger = {} ∧
      r₁.metadata.generation = some 2 ∧ r₁.observedGeneration = some 1 ∧
      Blames sampleEdited r₁ "UpdateError"
        "Failed to update gateway target: gateway API error ValidationException: no such scheme" ∧
      Asked (.update sampleEditedRequest) trail₁ ∧
      AsksAnew sampleRepeating "tools" "files" r₁ (.update sampleEditedRequest)) ∧
    ∃ s₁ trail₁ r₁, Play (reconcile sampleRepeating "tools" "files").run
        ⟨sampleNewStore, sampleRejecting .create, {}⟩ (.done (.ok .stop)) s₁ trail₁ ∧
      calls trail₁ = [.create sampleNewRequest, .create sampleNewRequest] ∧
      s₁.store.current "tools" "files" = some r₁ ∧ s₁.ledger = {} ∧
      r₁.recordedTarget? = none ∧
      Blames sampleNewStored r₁ "CreationError"
        "Failed to create gateway target: gateway API error ValidationException: no such scheme" ∧
      Asked (.create sampleNewRequest) trail₁ ∧
      AsksAnew sampleRepeating "tools" "files" r₁ (.create sampleNewRequest) := by
  constructor
  · obtain ⟨s₁, trail₁, hplay, hcalls, hfailed, hunrefused, hledger⟩ := play_rejected_update
    have hfails : operationFailure .update (failures trail₁) =
        some (.api "ValidationException" "no such scheme") := by rw [hfailed]; rfl
    obtain ⟨-, hstays⟩ := failure_stays_outstanding (r := sampleEdited) rfl rfl rfl rfl rfl
      (.update rfl (by decide)) hplay hunrefused
    obtain ⟨r₁, call, last, hstored, hblames, -, -, -, hcall, hasked, hagain⟩ :=
      hstays _ hfails rfl
    obtain rfl : Call.update sampleEditedRequest = call := Except.ok.inj hcall
    exact ⟨s₁, trail₁, r₁, hplay, hcalls, hstored, hledger, hblames.generation,
      hblames.akin.observed, hblames, hasked, hagain⟩
  · obtain ⟨s₁, trail₁, hplay, hcalls, hfailed, hunrefused, hledger⟩ := play_rejected_create
    have hfails : operationFailure .create (failures trail₁) =
        some (.api "ValidationException" "no such scheme") := by rw [hfailed]; rfl
    obtain ⟨-, hstays⟩ := failure_stays_outstanding (r := sampleNewStored) rfl rfl rfl rfl rfl
      (.create rfl) hplay hunrefused
    obtain ⟨r₁, call, last, hstored, hblames, -, -, -, hcall, hasked, hagain⟩ :=
      hstays _ hfails rfl
    obtain rfl : Call.create sampleNewRequest = call := Except.ok.inj hcall
    exact ⟨s₁, trail₁, r₁, hplay, hcalls, hstored, hledger, hblames.akin.recorded, hblames, hasked,
      hagain⟩

end Controller

end TargetRegistrar
