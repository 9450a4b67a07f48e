import TargetRegistrar.Proofs.Controller.Failures
import TargetRegistrar.Proofs.Controller.Warrant

/-!
# Failing passes come to rest

What a pass writes starts another pass.  A pass that has announced a failure, or that only waits one
out, therefore must not write once more when it fails again.  `Quiesced` says what a first pass that
fails leaves of its resource, for each way in which it can fail; `ComesToRest` is proved for the
parts of the first pass, and `Unwritten` for those of the second, which finds a resource left so.
-/

namespace TargetRegistrar.Controller

open Gateway Registration

/-! ## Where a pass comes to rest -/

/-- A pass can make no call for a resource: it is not valid, no request can be built, or its gateway
is not known. -/
inductive Hindered (c : Config) (r : Resource) : Prop where
  | invalid {e : ValidationError} (hdel : r.isBeingDeleted = false)
      (hv : validate c.defaultGateway r = .error e)
  | uncreatable {v : Validated} {e : BuildError} (hdel : r.isBeingDeleted = false)
      (hv : validate c.defaultGateway r = .ok v) (hrec : r.recordedTarget? = none)
      (hreq : v.createRequest = .error e)
  | unupdatable {v : Validated} {targetId : String} {e : BuildError}
      (hdel : r.isBeingDeleted = false) (hv : validate c.defaultGateway r = .ok v)
      (hrec : r.recordedTarget? = some targetId)
      (hgen : r.metadata.generation ≠ r.observedGeneration)
      (hreq : v.updateRequest targetId = .error e)
  | unreachable {targetId : String} {e : ValidationError} (hdel : r.isBeingDeleted)
      (hfin : r.hasFinalizer finalizer) (hrec : r.recordedTarget? = some targetId)
      (hgw : resolveGateway c.defaultGateway r.spec = .error e)

/-- A pass fails whose calls have ended in certain ways: it can make no call, or the last one has
failed. -/
def Fails (c : Config) (r : Resource) (ends : List (Option Gateway.Error)) : Prop :=
  Hindered c r ∨ ∃ e, ends.head? = some (some e)

/-- A pass whose calls end in certain ways has nothing to write: nothing can be done for the
resource, or its operation fails again, and what is to be announced has been. -/
inductive Quiesced (c : Config) (r : Resource) (ends : List (Option Gateway.Error)) : Prop where
  | invalid {e : ValidationError} (hdel : r.isBeingDeleted = false)
      (hv : validate c.defaultGateway r = .error e) (hends : ends = [])
      (hannounced : Announced r "ValidationError" e.message)
  | uncreatable {v : Validated} {e : BuildError} (h : Cleared c r v)
      (hrec : r.recordedTarget? = none) (hreq : v.createRequest = .error e) (hends : ends = [])
      (hannounced : Announced r "ConfigurationError" e.message)
  | uncreated {v : Validated} {request : CreateRequest} {e : Gateway.Error} (h : Cleared c r v)
      (hrec : r.recordedTarget? = none) (hreq : v.createRequest = .ok request)
      (hfails : operationFailure .create ends = some e) (hover : Over (Repeats c.policy) ends)
      (hannounced : e.isCancelled = false → Announced r "CreationError"
        ("Failed to create gateway target" ++ ": " ++ e.message))
  | unupdatable {v : Validated} {targetId : String} {e : BuildError} (h : Cleared c r v)
      (hrec : r.recordedTarget? = some targetId)
      (hgen : r.metadata.generation ≠ r.observedGeneration)
      (hreq : v.updateRequest targetId = .error e) (hends : ends = [])
      (hannounced : Announced r "ConfigurationError" e.message)
  | notUpdated {v : Validated} {targetId : String} {request : UpdateRequest} {e : Gateway.Error}
      (h : Cleared c r v) (hrec : r.recordedTarget? = some targetId)
      (hgen : r.metadata.generation ≠ r.observedGeneration)
      (hreq : v.updateRequest targetId = .ok request)
      (hfails : operationFailure .update ends = some e) (hover : Over (Repeats c.policy) ends)
      (hannounced : e.isCancelled = false → Announced r "UpdateError"
        ("Failed to update gateway target" ++ ": " ++ e.message))
  | unseen {v : Validated} {targetId : String} {e : Gateway.Error} (h : Cleared c r v)
      (hrec : r.recordedTarget? = some targetId)
      (hgen : r.metadata.generation = r.observedGeneration) (hset : r.isSettled = false)
      (hends : ends = [some e])
  | unreachable {targetId : String} {e : ValidationError} (hdel : r.isBeingDeleted)
      (hfin : r.hasFinalizer finalizer) (hrec : r.recordedTarget? = some targetId)
      (hgw : resolveGateway c.defaultGateway r.spec = .error e) (hends : ends = [])
  | undeleted {gatewayId targetId : String} {e : Gateway.Error} (hdel : r.isBeingDeleted)
      (hfin : r.hasFinalizer finalizer) (hrec : r.recordedTarget? = some targetId)
      (hgw : resolveGateway c.defaultGateway r.spec = .ok gatewayId)
      (hfails : operationFailure .delete ends = some e) (hover : Over (Repeats c.policy) ends)

/-- A pass without refusals that has failed leaves a resource for which it would write nothing more
if its calls ended in the same ways. -/
def ComesToRest (c : Config) (r : Resource) (s' : Scene) (trail' : List Exchange) : Prop :=
  Unrefused trail' → Fails c r (failures trail') →
    ∃ r', s'.store.objects.get? (Store.location r) = some r' ∧ Renewed r r' ∧
      Quiesced c r' (failures trail')

section Resting

variable {c : Config} {r r' : Resource} {v : Validated} {key : String} {s s' : Scene}
  {trail trail' : List Exchange} {ends : List (Option Gateway.Error)}

lemma Akin.cleared (h : Akin r r') (hr : Cleared c r v) : Cleared c r' v :=
  ⟨h.guard hr.guarded, h.deletion.trans hr.kept, (h.validate _).trans hr.valid⟩

lemma Akin.outdated (h : Akin r r') (hgen : r.metadata.generation ≠ r.observedGeneration) :
    r'.metadata.generation ≠ r'.observedGeneration := by
  rw [h.generation, h.observed]
  exact hgen

lemma head?_of_operationFailure {operation : Operation} {e : Gateway.Error}
    (h : operationFailure operation ends = some e) : ∃ last, ends.head? = some (some last) := by
  obtain _ | ⟨_ | last, earlier⟩ := ends
  · cases h
  · cases h
  · exact ⟨last, rfl⟩

lemma not_fails_of_uncalled (hnot : ¬ Hindered c r) (hends : ends = []) : ¬ Fails c r ends := by
  rintro (hhindered | ⟨e, hfailed⟩)
  · exact hnot hhindered
  · rw [hends] at hfailed
    cases hfailed

/-- An operation that has succeeded leaves no failure behind. -/
lemma not_fails_of_succeeded (hnot : ¬ Hindered c r) (hends : ends.head? = some none) :
    ¬ Fails c r ends := by
  rintro (hhindered | ⟨e, hfailed⟩)
  · exact hnot hhindered
  · cases hends.symm.trans hfailed

/-- A pass that makes no further call does not fail if it has not failed before. -/
lemma comesToRest_of_unfailed {p : Pass Error Directive}
    (hp : p.Ensures (fun _ _ trail' => failures trail' = failures trail) s trail)
    (hnot : ¬ Fails c r (failures trail)) :
    p.Ensures (fun _ s' trail' => ComesToRest c r s' trail') s trail :=
  hp.weaken fun _ _ _ hsame _ hfails => absurd (hsame ▸ hfails) hnot

lemma comesToRest_of_quiet {p : Pass Error Directive} (hp : p.Quiet)
    (hnot : ¬ Fails c r (failures trail)) :
    p.Ensures (fun _ s' trail' => ComesToRest c r s' trail') s trail :=
  comesToRest_of_unfailed hp.ensures_failures hnot

/-- What a pass has announced is all that it leaves behind. -/
lemma comesToRest_of_announces {p : Pass Error Directive} {reason message : String} (hp : p.Quiet)
    (hannounces : p.Ensures (fun _ s' trail' => Announces r reason message s' trail') s trail)
    (hrests : ∀ r', Akin r r' → Announced r' reason message → Quiesced c r' (failures trail)) :
    p.Ensures (fun _ s' trail' => ComesToRest c r s' trail') s trail := by
  refine (hannounces.and hp.ensures_failures).weaken ?_
  rintro _ s' trail' ⟨hannounces, hsame⟩ hunrefused -
  obtain ⟨r', hstored, hakin, hannounced⟩ := hannounces hunrefused
  exact ⟨r', hstored, hakin.toRenewed, hsame ▸ hrests r' hakin hannounced⟩

/-- A pass that only asks what is idle leaves the resource as it is. -/
lemma comesToRest_of_idled {p : Pass Error Directive} (hp : p.Asks fun q => q.isIdle)
    (hr : s.store.objects.get? (Store.location r) = some r)
    (hrests : Quiesced c r (failures trail)) :
    p.Ensures (fun _ s' trail' => ComesToRest c r s' trail') s trail :=
  hp.ensures_idled.weaken fun _ s' trail' hidled _ _ =>
    ⟨r, by rw [hidled.store, hr], .refl r, hidled.failures ▸ hrests⟩

/-! ### Operations -/

lemma asks_idle_backOff (key : String) : (backOff key).Asks fun q => q.isIdle :=
  Pass.asks_bind (Pass.asks_query rfl) fun _ => Pass.asks_pure _

lemma asks_idle_afterReport (e : Gateway.Error) : Pass.Asks (fun q => q.isIdle)
    (if e.isRetryable then backOff key else return .stop) :=
  Pass.asks_ite (asks_idle_backOff key) (Pass.asks_pure _)

/-- A failed operation is announced, unless it was cancelled. -/
lemma comesToRest_of_failed {operation : Operation} {reason context : String} {e : Gateway.Error}
    (hr : s.store.objects.get? (Store.location r) = some r)
    (hrests : ∀ r', Akin r r' →
      (e.isCancelled = false → Announced r' reason (context ++ ": " ++ e.message)) →
      Quiesced c r' (failures trail)) :
    (afterFailure c operation e (reportFailure r key reason context e)).Ensures
      (fun _ s' trail' => ComesToRest c r s' trail') s trail := by
  unfold afterFailure
  by_cases hcancelled : e.isCancelled = true
  · rw [if_pos hcancelled]
    refine comesToRest_of_idled (Pass.asks_pure _) hr (hrests r (.refl r) fun hnot => ?_)
    cases hcancelled.symm.trans hnot
  · rw [if_neg hcancelled]
    refine Pass.ensures_idle rfl fun _ s₁ hstore _ => ?_
    have hr₁ : s₁.store.objects.get? (Store.location r) = some r := by rw [hstore, hr]
    exact comesToRest_of_announces (quiet_reportFailure ..)
      (ensures_announces_then (asks_idle_afterReport e) hr₁)
      fun r' hakin hannounced => hrests r' hakin fun _ => hannounced

/-- A resource whose request can be built does not hinder a pass. -/
lemma not_hindered_of_cleared (h : Cleared c r v)
    (hcreate : ∀ e, r.recordedTarget? = none → v.createRequest ≠ .error e)
    (hupdate : ∀ targetId e, r.recordedTarget? = some targetId →
      r.metadata.generation ≠ r.observedGeneration → v.updateRequest targetId ≠ .error e) :
    ¬ Hindered c r := by
  intro hhindered
  cases hhindered with
  | invalid _ hv => cases h.valid.symm.trans hv
  | uncreatable _ hv hrec hreq =>
    cases h.valid.symm.trans hv
    exact hcreate _ hrec hreq
  | unupdatable _ hv hrec hgen hreq =>
    cases h.valid.symm.trans hv
    exact hupdate _ _ hrec hgen hreq
  | unreachable hdel _ _ _ => cases h.kept.symm.trans hdel

lemma comesToRest_createStep (hr : s.store.objects.get? (Store.location r) = some r)
    (hcleared : Cleared c r v) (hrec : r.recordedTarget? = none) (hends : failures trail = []) :
    (createStep c r v key).Ensures (fun _ s' trail' => ComesToRest c r s' trail') s trail := by
  unfold createStep
  cases hreq : v.createRequest with
  | error e =>
    refine comesToRest_of_announces (quiet_reportBuildError r e)
      (ensures_announces_then (Pass.asks_pure _) hr) fun r' hakin hannounced => ?_
    exact .uncreatable (hakin.cleared hcleared) (hakin.recorded.trans hrec) hreq hends hannounced
  | ok request =>
    refine Pass.ensures_lift (ensures_operated_createTarget c.policy _ hends) ?_
    rintro (e | created) s₁ trail₁ ⟨hstore, -, haccounts, hover⟩
    · have hr₁ : s₁.store.objects.get? (Store.location r) = some r := by rw [hstore, hr]
      refine comesToRest_of_failed hr₁ fun r' hakin hannounced => ?_
      exact .uncreated (hakin.cleared hcleared) (hakin.recorded.trans hrec) hreq haccounts hover
        hannounced
    · have hnot : ¬ Hindered c r := not_hindered_of_cleared hcleared
        (fun e _ herror => by cases hreq.symm.trans herror)
        (fun _ _ hsome _ => by cases hrec.symm.trans hsome)
      exact comesToRest_of_quiet (quiet_afterSuccess (Pass.asks_pure _))
        (not_fails_of_succeeded hnot haccounts)

lemma comesToRest_updateStep {targetId : String}
    (hr : s.store.objects.get? (Store.location r) = some r) (hcleared : Cleared c r v)
    (hrec : r.recordedTarget? = some targetId)
    (hgen : r.metadata.generation ≠ r.observedGeneration) (hends : failures trail = []) :
    (updateStep c r v targetId key).Ensures (fun _ s' trail' => ComesToRest c r s' trail') s
      trail := by
  unfold updateStep
  cases hreq : v.updateRequest targetId with
  | error e =>
    refine comesToRest_of_announces (quiet_reportBuildError r e)
      (ensures_announces_then (Pass.asks_pure _) hr) fun r' hakin hannounced => ?_
    exact .unupdatable (hakin.cleared hcleared) (hakin.recorded.trans hrec)
      (hakin.outdated hgen) hreq hends hannounced
  | ok request =>
    refine Pass.ensures_lift (ensures_operated_callRetrying c.policy (.update request) hends) ?_
    rintro (e | state) s₁ trail₁ ⟨hstore, -, haccounts, hover⟩
    · have hr₁ : s₁.store.objects.get? (Store.location r) = some r := by rw [hstore, hr]
      refine comesToRest_of_failed hr₁ fun r' hakin hannounced => ?_
      exact .notUpdated (hakin.cleared hcleared) (hakin.recorded.trans hrec)
        (hakin.outdated hgen) hreq haccounts hover hannounced
    · have hnot : ¬ Hindered c r := not_hindered_of_cleared hcleared
        (fun e hnone => by cases hrec.symm.trans hnone)
        (fun targetId' e hsome _ herror => by
          cases hrec.symm.trans hsome
          cases hreq.symm.trans herror)
      exact comesToRest_of_quiet (quiet_afterSuccess (Pass.asks_pure _))
        (not_fails_of_succeeded hnot haccounts)

/-- A failed look or a failed deletion is only waited out. -/
lemma asks_idle_waitedOut (operation : Operation) (e : Gateway.Error) :
    (afterFailure c operation e (backOff key)).Asks fun q => q.isIdle :=
  asks_afterFailure (P := fun q => q.isIdle) rfl e (asks_idle_backOff key)

lemma comesToRest_pollStep {targetId : String}
    (hr : s.store.objects.get? (Store.location r) = some r) (hcleared : Cleared c r v)
    (hrec : r.recordedTarget? = some targetId)
    (hgen : r.metadata.generation = r.observedGeneration) (hset : r.isSettled = false)
    (hnot : ¬ Hindered c r) (hcalls : failures trail = []) :
    (pollStep c r v targetId key).Ensures (fun _ s' trail' => ComesToRest c r s' trail') s
      trail := by
  refine Pass.ensures_lift (ensures_called (.get v.gatewayId targetId)) ?_
  rintro (e | state) s₁ trail₁ ⟨hstore, -, hends⟩
  · have hr₁ : s₁.store.objects.get? (Store.location r) = some r := by rw [hstore, hr]
    refine comesToRest_of_idled (asks_idle_waitedOut .get e) hr₁ ?_
    exact .unseen hcleared hrec hgen hset (hends.trans (congrArg _ hcalls))
  · exact comesToRest_of_quiet (quiet_observing state)
      (not_fails_of_succeeded hnot (congrArg List.head? hends))

lemma comesToRest_advance (hr : s.store.objects.get? (Store.location r) = some r)
    (hcleared : Cleared c r v) (hends : failures trail = []) :
    (advance c r v key).Ensures (fun _ s' trail' => ComesToRest c r s' trail') s trail := by
  -- A target that is looked after under the current generation is no hindrance.
  have hcurrent : ∀ {targetId}, r.recordedTarget? = some targetId →
      r.metadata.generation = r.observedGeneration → ¬ Hindered c r := fun hrec hgen =>
    not_hindered_of_cleared hcleared (fun e hnone => by cases hrec.symm.trans hnone)
      fun _ _ _ hne => absurd hgen hne
  refine advance_cases
    (motive := fun p => p.Ensures (fun _ s' trail' => ComesToRest c r s' trail') s trail)
    (fun hrec => comesToRest_createStep hr hcleared hrec hends)
    (fun hrec hgen => comesToRest_updateStep hr hcleared hrec hgen hends) ?settled ?poll
  case settled =>
    intro targetId hrec hgen _
    exact comesToRest_of_quiet (household_isQuiet key).asks_letRest
      (not_fails_of_uncalled (hcurrent hrec hgen) hends)
  case poll =>
    intro targetId hrec hgen hset
    exact comesToRest_pollStep hr hcleared hrec hgen hset (hcurrent hrec hgen) hends

/-! ### Whole passes -/

/-- A resource that is marked for deletion does not hinder a pass that can reach its gateway. -/
lemma not_hindered_of_deleted (hdel : r.isBeingDeleted)
    (hreach : ∀ targetId e, r.hasFinalizer finalizer → r.recordedTarget? = some targetId →
      resolveGateway c.defaultGateway r.spec ≠ .error e) : ¬ Hindered c r := by
  intro hhindered
  cases hhindered with
  | invalid hkept _ => cases hdel.symm.trans hkept
  | uncreatable hkept _ _ _ => cases hdel.symm.trans hkept
  | unupdatable hkept _ _ _ _ => cases hdel.symm.trans hkept
  | unreachable _ hfin hrec hgw => exact hreach _ _ hfin hrec hgw

lemma ensures_failures_removeFinalizer (r : Resource) (key : String) :
    (removeFinalizer r key).Ensures (fun _ _ trail' => failures trail' = failures trail) s
      trail := by
  have hwrite : (Pass.store (.replaceFinalizers r (r.finalizers.filter (· ≠ finalizer)))).Ensures
      (fun _ _ trail' => failures trail' = failures trail) s trail := Pass.ensures_store rfl
  refine Pass.ensures_ofStore hwrite (fun _ s₁ trail₁ hsame => ?_) fun _ _ _ hsame => hsame
  exact Pass.ensures_idle rfl fun _ _ _ _ => hsame

lemma comesToRest_deleteRecorded {gatewayId targetId : String}
    (hr : s.store.objects.get? (Store.location r) = some r) (hdel : r.isBeingDeleted)
    (hfin : r.hasFinalizer finalizer) (hrec : r.recordedTarget? = some targetId)
    (hgw : resolveGateway c.defaultGateway r.spec = .ok gatewayId) (hends : failures trail = []) :
    (deleteRecorded c r gatewayId targetId key).Ensures
      (fun _ s' trail' => ComesToRest c r s' trail') s trail := by
  have hnot : ¬ Hindered c r := not_hindered_of_deleted hdel fun _ _ _ _ herror => by
    cases hgw.symm.trans herror
  refine Pass.ensures_lift
    (ensures_operated_callRetrying c.policy (.delete gatewayId targetId) hends) ?_
  rintro (e | reply) s₁ trail₁ ⟨hstore, -, haccounts, hover⟩
  · have hr₁ : s₁.store.objects.get? (Store.location r) = some r := by rw [hstore, hr]
    exact comesToRest_of_idled (asks_idle_waitedOut .delete e) hr₁
      (.undeleted hdel hfin hrec hgw haccounts hover)
  · refine comesToRest_of_unfailed ?_ (not_fails_of_succeeded hnot haccounts)
    refine Pass.ensures_idle rfl fun _ _ _ _ => ?_
    exact (ensures_failures_removeFinalizer r key).weaken fun _ _ _ h => h

lemma comesToRest_deleteStep (hr : s.store.objects.get? (Store.location r) = some r)
    (hdel : r.isBeingDeleted) (hends : failures trail = []) :
    (deleteStep c r key).Ensures (fun _ s' trail' => ComesToRest c r s' trail') s trail := by
  refine deleteStep_cases
    (motive := fun p => p.Ensures (fun _ s' trail' => ComesToRest c r s' trail') s trail)
    ?resigned ?released
    (fun hfin hrec hgw => comesToRest_of_idled (Pass.asks_pure _) hr
      (.unreachable hdel hfin hrec hgw hends))
    fun hfin hrec hgw => comesToRest_deleteRecorded hr hdel hfin hrec hgw hends
  case resigned =>
    intro hfin
    have hnot : ¬ Hindered c r := not_hindered_of_deleted hdel fun _ _ hfin' => by
      cases hfin.symm.trans hfin'
    exact comesToRest_of_quiet (Pass.asks_pure _) (not_fails_of_uncalled hnot hends)
  case released =>
    intro _ hrec
    have hnot : ¬ Hindered c r := not_hindered_of_deleted hdel fun _ _ _ hsome => by
      cases hrec.symm.trans hsome
    exact comesToRest_of_unfailed (ensures_failures_removeFinalizer r key)
      (not_fails_of_uncalled hnot hends)

/-- What hinders a pass hinders it with the finalizer as well. -/
lemma Hindered.akin (h : Hindered c r) (hakin : Akin r r') : Hindered c r' := by
  cases h with
  | invalid hdel hv => exact .invalid (hakin.deletion.trans hdel) ((hakin.validate _).trans hv)
  | uncreatable hdel hv hrec hreq =>
    exact .uncreatable (hakin.deletion.trans hdel) ((hakin.validate _).trans hv)
      (hakin.recorded.trans hrec) hreq
  | unupdatable hdel hv hrec hgen hreq =>
    exact .unupdatable (hakin.deletion.trans hdel) ((hakin.validate _).trans hv)
      (hakin.recorded.trans hrec) (hakin.outdated hgen) hreq
  | unreachable hdel hfin hrec hgw =>
    exact .unreachable (hakin.deletion.trans hdel) (hakin.guard hfin)
      (hakin.recorded.trans hrec) (by rw [hakin.spec, hgw])

/-- A copy without the finalizer is given it first. -/
lemma comesToRest_unguarded (hr : s.store.objects.get? (Store.location r) = some r)
    (hdel : r.isBeingDeleted = false) (hv : validate c.defaultGateway r = .ok v)
    (hends : failures trail = []) :
    Pass.Ensures (fun _ s' trail' => ComesToRest c r s' trail')
      (do advance c (← addFinalizer r) v key) s trail := by
  have hattach : (addFinalizer r).Ensures (fun outcome s' trail' =>
      Attached r s trail outcome s' trail' ∧ failures trail' = failures trail ∧
        ∀ e, outcome = .error e → ¬ Unrefused trail') s trail :=
    (ensures_addFinalizer hr).and (ensures_store_told _)
  refine Pass.ensures_bind hattach ?_ ?_
  · rintro r₁ s₁ trail₁ ⟨hattached, hsame, -⟩
    cases hattached with
    | attached hstored hrenewed hstatus hguarded _ _ =>
      have hakin : Akin r r₁ := ⟨hrenewed, recordedTarget?_congr hstatus,
        observedGeneration_congr hstatus⟩
      have hcleared : Cleared c r₁ v := ⟨hguarded, hrenewed.deletion.trans hdel,
        (hrenewed.validate _).trans hv⟩
      have hplace : Store.location r₁ = Store.location r := hrenewed.location
      refine (comesToRest_advance (hplace ▸ hstored) hcleared (hsame.trans hends)).weaken ?_
      rintro _ s' trail' hrests hunrefused hfails
      obtain ⟨r', hstored', hrenewed', hquiesced⟩ :=
        hrests hunrefused (hfails.imp_left fun h => h.akin hakin)
      exact ⟨r', hplace ▸ hstored', hrenewed.trans hrenewed', hquiesced⟩
  · rintro e s₁ trail₁ ⟨-, -, hrefused⟩ hunrefused
    exact absurd hunrefused (hrefused e rfl)

lemma comesToRest_reconcileCopy (hr : s.store.objects.get? (Store.location r) = some r)
    (hends : failures trail = []) :
    (reconcileCopy c r key).Ensures (fun _ s' trail' => ComesToRest c r s' trail') s trail := by
  refine reconcileCopy_cases
    (motive := fun p => p.Ensures (fun _ s' trail' => ComesToRest c r s' trail') s trail)
    (fun hdel => comesToRest_deleteStep hr hdel hends) ?invalid
    (fun hdel hv hfin => comesToRest_advance hr ⟨hfin, hdel, hv⟩ hends)
    fun hdel hv _ => comesToRest_unguarded hr hdel hv hends
  case invalid =>
    intro e hdel hv
    refine comesToRest_of_announces ?_ (ensures_announces_then (Pass.asks_pure _) hr) ?_
    · exact Pass.asks_bind (quiet_setReadiness ..) fun _ => Pass.asks_pure _
    · intro r' hakin hannounced
      exact .invalid (hakin.deletion.trans hdel) ((hakin.validate _).trans hv) hends hannounced

/-! ## At rest -/

/-- A pass that meets certain ends of its calls, for as long as there are any, has met all of them
and has written nothing. -/
def Unwritten (ends : List (Option Gateway.Error)) (s : Scene) (trail : List Exchange)
    (s' : Scene) (trail' : List Exchange) : Prop :=
  Concur ends (failures trail') →
    failures trail' = ends ∧ s'.store = s.store ∧ writes trail' = writes trail

lemma unwritten_of_idled (h : Idled s trail s' trail') (hends : failures trail = ends) :
    Unwritten ends s trail s' trail' :=
  fun _ => ⟨h.failures.trans hends, h.store, h.writes⟩

/-- An operation fails again whose calls end in the same ways. -/
def FailsAgain {α : Type} (e : Gateway.Error) (ends : List (Option Gateway.Error)) (s : Scene)
    (trail : List Exchange) (outcome : Except Gateway.Error α) (s' : Scene)
    (trail' : List Exchange) : Prop :=
  s'.store = s.store ∧ writes trail' = writes trail ∧
    (Concur ends (failures trail') → failures trail' = ends ∧ outcome = .error e)

lemma Operated.failsAgain {α : Type} {policy : RetryPolicy} {operation : Operation}
    {outcome : Except Gateway.Error α} {e : Gateway.Error}
    (h : Operated policy operation s trail outcome s' trail')
    (hfails : operationFailure operation ends = some e) (hover : Over (Repeats policy) ends) :
    FailsAgain e ends s trail outcome s' trail' := by
  refine ⟨h.store, h.writes, fun hconcur => ?_⟩
  have hends := hover.eq_of_concur h.spent hconcur
  have haccounts := h.ends
  rw [hends] at haccounts
  refine ⟨hends, ?_⟩
  cases outcome with
  | error e' => rw [Option.some.inj (haccounts.symm.trans hfails)]
  | ok reply =>
    obtain ⟨last, hlast⟩ := head?_of_operationFailure hfails
    cases haccounts.symm.trans hlast

/-- What follows an operation that fails again writes nothing. -/
lemma ensures_unwritten_of_failsAgain {α : Type} {e : Gateway.Error}
    {p : Program (Except Gateway.Error α)} {f : Except Gateway.Error α → Pass Error Directive}
    (hp : p.Ensures (FailsAgain e ends s trail) s trail)
    (huncalled : ∀ outcome s₁ trail₁, (f outcome).Ensures
      (fun _ _ trail' => failures trail' = failures trail₁) s₁ trail₁)
    (hidled : ∀ s₁ trail₁, s₁.store = s.store →
      (f (.error e)).Ensures (fun _ s' trail' => Idled s₁ trail₁ s' trail') s₁ trail₁) :
    (Pass.lift p >>= f).Ensures (fun _ s' trail' => Unwritten ends s trail s' trail') s trail := by
  refine Pass.ensures_lift hp ?_
  rintro outcome s₁ trail₁ ⟨hstore, hwrites, hagain⟩
  -- What follows makes no call, so that the ends are already those of the whole pass.
  by_cases hconcur : Concur ends (failures trail₁)
  · obtain ⟨hends, rfl⟩ := hagain hconcur
    refine (hidled s₁ trail₁ hstore).weaken fun _ s' trail' h _ => ?_
    exact ⟨h.failures.trans hends, h.store.trans hstore, h.writes.trans hwrites⟩
  · refine (huncalled outcome s₁ trail₁).weaken fun _ _ _ hsame hconcur' => ?_
    exact absurd (hsame ▸ hconcur') hconcur

/-- A failed operation that has been announced writes nothing. -/
lemma ensures_idled_of_failed {operation : Operation} {reason context : String}
    {e : Gateway.Error} (hr : s.store.objects.get? (Store.location r) = some r)
    (hannounced : e.isCancelled = false → Announced r reason (context ++ ": " ++ e.message)) :
    (afterFailure c operation e (reportFailure r key reason context e)).Ensures
      (fun _ s' trail' => Idled s trail s' trail') s trail := by
  unfold afterFailure
  by_cases hcancelled : e.isCancelled = true
  · rw [if_pos hcancelled]
    exact .refl s trail
  · rw [if_neg hcancelled]
    intro _ s₁ ha
    have hcounted : Idled s trail s₁ (⟨.countCall operation false, _, s.store⟩ :: trail) :=
      .asked rfl ha
    have hr₁ : s₁.store.objects.get? (Store.location r) = some r := by rw [hcounted.store, hr]
    exact Program.Ensures.weaken (ensures_idled_then (asks_idle_afterReport e) hr₁
      (hannounced (by simpa using hcancelled))) fun _ _ _ => hcounted.trans

/-- An operation that fails again is followed by no write, if its failure has been announced. -/
lemma ensures_unwritten_of_announced {α : Type} {operation : Operation} {reason context : String}
    {e : Gateway.Error} {p : Program (Except Gateway.Error α)}
    {f : Except Gateway.Error α → Pass Error Directive}
    (hp : p.Ensures (Operated c.policy operation s trail) s trail)
    (hfails : operationFailure operation ends = some e) (hover : Over (Repeats c.policy) ends)
    (hquiet : ∀ outcome, (f outcome).Quiet)
    (hf : f (.error e) = afterFailure c operation e (reportFailure r key reason context e))
    (hr : s.store.objects.get? (Store.location r) = some r)
    (hannounced : e.isCancelled = false → Announced r reason (context ++ ": " ++ e.message)) :
    (Pass.lift p >>= f).Ensures (fun _ s' trail' => Unwritten ends s trail s' trail') s trail := by
  refine ensures_unwritten_of_failsAgain (hp.weaken fun _ _ _ h => h.failsAgain hfails hover)
    (fun outcome s₁ trail₁ => (hquiet outcome).ensures_failures) ?_
  intro s₁ trail₁ hstore
  rw [hf]
  exact ensures_idled_of_failed (by rw [hstore, hr]) hannounced

/-- A single call that fails again. -/
lemma ensures_failsAgain_callOnce {call : Call} {e : Gateway.Error} (hcalls : failures trail = []) :
    (callOnce call).Ensures (FailsAgain e [some e] s trail) s trail := by
  refine (ensures_called call).weaken ?_
  rintro outcome s₁ trail₁ ⟨hstore, hwrites, hends⟩
  refine ⟨hstore, hwrites, fun hconcur => ?_⟩
  have hover : ∀ last : Option Gateway.Error, Over (· = []) [last] := fun last =>
    .cons nofun fun _ => List.suffix_nil.mp
  rw [hcalls] at hends
  rw [hends] at hconcur
  have hsame := (hover (some e)).eq_of_concur (hover (failureOf outcome)) hconcur
  refine ⟨hends.trans hsame, ?_⟩
  cases outcome with
  | error e' => cases hsame; rfl
  | ok reply => cases hsame

lemma ensures_unwritten_advance (h : Quiesced c r ends) (hcleared : Cleared c r v)
    (hr : s.store.objects.get? (Store.location r) = some r) (hcalls : failures trail = []) :
    (advance c r v key).Ensures (fun _ s' trail' => Unwritten ends s trail s' trail') s trail := by
  cases h with
  | invalid _ hv _ _ => cases hcleared.valid.symm.trans hv
  | unreachable hdel _ _ _ _ => cases hcleared.kept.symm.trans hdel
  | undeleted hdel _ _ _ _ _ => cases hcleared.kept.symm.trans hdel
  | uncreatable h hrec hreq hends hannounced =>
    cases hcleared.valid.symm.trans h.valid
    simp only [advance, hrec, createStep, hreq]
    exact (ensures_idled_then (Pass.asks_pure _) hr hannounced).weaken fun _ _ _ hidled =>
      unwritten_of_idled hidled (hcalls.trans hends.symm)
  | uncreated h hrec hreq hfails hover hannounced =>
    cases hcleared.valid.symm.trans h.valid
    simp only [advance, hrec, createStep, hreq]
    refine ensures_unwritten_of_announced (ensures_operated_createTarget c.policy _ hcalls) hfails
      hover ?_ rfl hr hannounced
    rintro (e | created)
    · exact quiet_afterFailure (quiet_reportFailure ..)
    · exact quiet_afterSuccess (Pass.asks_pure _)
  | unupdatable h hrec hgen hreq hends hannounced =>
    cases hcleared.valid.symm.trans h.valid
    simp only [advance, hrec, if_pos hgen, updateStep, hreq]
    exact (ensures_idled_then (Pass.asks_pure _) hr hannounced).weaken fun _ _ _ hidled =>
      unwritten_of_idled hidled (hcalls.trans hends.symm)
  | notUpdated h hrec hgen hreq hfails hover hannounced =>
    cases hcleared.valid.symm.trans h.valid
    simp only [advance, hrec, if_pos hgen, updateStep, hreq]
    refine ensures_unwritten_of_announced
      (ensures_operated_callRetrying c.policy (.update _) hcalls) hfails hover ?_ rfl hr hannounced
    rintro (e | state)
    · exact quiet_afterFailure (quiet_reportFailure ..)
    · exact quiet_afterSuccess (Pass.asks_pure _)
  | unseen h hrec hgen hset hends =>
    subst hends
    simp only [advance, hrec, if_neg (not_not.mpr hgen), hset]
    refine ensures_unwritten_of_failsAgain (ensures_failsAgain_callOnce hcalls) ?_ ?_
    · rintro (e | state) s₁ trail₁
      · exact (quiet_afterFailure (household_isQuiet key).asks_backOff).ensures_failures
      · exact (quiet_observing state).ensures_failures
    · intro s₁ trail₁ _
      exact (asks_idle_waitedOut .get _).ensures_idled

lemma ensures_unwritten_deleteStep {gatewayId targetId : String} {e : Gateway.Error}
    (hfin : r.hasFinalizer finalizer) (hrec : r.recordedTarget? = some targetId)
    (hgw : resolveGateway c.defaultGateway r.spec = .ok gatewayId)
    (hfails : operationFailure .delete ends = some e) (hover : Over (Repeats c.policy) ends)
    (hcalls : failures trail = []) :
    (deleteStep c r key).Ensures (fun _ s' trail' => Unwritten ends s trail s' trail') s
      trail := by
  simp only [deleteStep, hfin, if_true, hrec, hgw]
  refine ensures_unwritten_of_failsAgain ((ensures_operated_callRetrying c.policy (.delete _ _)
    hcalls).weaken fun _ _ _ h => h.failsAgain hfails hover) ?_ ?_
  · rintro (e | reply) s₁ trail₁
    · exact (quiet_afterFailure (household_isQuiet key).asks_backOff).ensures_failures
    · refine Pass.ensures_idle rfl fun _ _ _ _ => ?_
      exact (ensures_failures_removeFinalizer r key).weaken fun _ _ _ hsame => hsame
  · intro s₁ trail₁ _
    exact (asks_idle_waitedOut .delete _).ensures_idled

lemma ensures_unwritten_reconcileCopy (h : Quiesced c r ends)
    (hr : s.store.objects.get? (Store.location r) = some r) (hcalls : failures trail = []) :
    (reconcileCopy c r key).Ensures (fun _ s' trail' => Unwritten ends s trail s' trail') s
      trail := by
  have hadvance : ∀ v, Cleared c r v → (reconcileCopy c r key).Ensures
      (fun _ s' trail' => Unwritten ends s trail s' trail') s trail := by
    intro v hcleared
    simp only [reconcileCopy, hcleared.kept, hcleared.valid, hcleared.guarded, if_true]
    exact ensures_unwritten_advance h hcleared hr hcalls
  cases h with
  | invalid hdel hv hends hannounced =>
    simp only [reconcileCopy, hdel, hv]
    exact (ensures_idled_then (Pass.asks_pure _) hr hannounced).weaken fun _ _ _ hidled =>
      unwritten_of_idled hidled (hcalls.trans hends.symm)
  | unreachable hdel hfin hrec hgw hends =>
    simp only [reconcileCopy, hdel, if_true, deleteStep, hfin, hrec, hgw]
    exact unwritten_of_idled (.refl s trail) (hcalls.trans hends.symm)
  | undeleted hdel hfin hrec hgw hfails hover =>
    simp only [reconcileCopy, hdel, if_true]
    exact ensures_unwritten_deleteStep hfin hrec hgw hfails hover hcalls
  | uncreatable h _ _ _ _ => exact hadvance _ h
  | uncreated h _ _ _ _ _ => exact hadvance _ h
  | unupdatable h _ _ _ _ _ => exact hadvance _ h
  | notUpdated h _ _ _ _ _ _ => exact hadvance _ h
  | unseen h _ _ _ _ => exact hadvance _ h

end Resting

/-! ## Two passes -/

section Passes

variable {c : Config} {ns name : String} {r : Resource} {s s₁ s₂ s₃ : Scene}
  {trail trail₁ trail₂ : List Exchange} {ends : List (Option Gateway.Error)}

/-- A pass that fails comes to rest. -/
lemma ensures_comesToRest (hr : s.store.objects.get? (ns, name) = some r)
    (hplace : Store.location r = (ns, name)) :
    (reconcile c ns name).Ensures (fun _ s' trail' => ComesToRest c r s' trail') s [] := by
  refine ensures_reconcile_of_stored hr fun trail hcalls _ => ?_
  exact comesToRest_reconcileCopy (hplace ▸ hr) (failures_of_uncalled hcalls)

/-- A pass that finds a resource at rest writes nothing, if its calls end in the same ways. -/
lemma ensures_unwritten (hr : s.store.objects.get? (ns, name) = some r)
    (hplace : Store.location r = (ns, name)) (h : Quiesced c r ends) :
    (reconcile c ns name).Ensures (fun _ s' trail' => Unwritten ends s [] s' trail') s [] := by
  refine ensures_reconcile_of_stored hr fun trail hcalls hwrites => ?_
  refine (ensures_unwritten_reconcileCopy h (hplace ▸ hr) (failures_of_uncalled hcalls)).weaken ?_
  intro _ s' trail' hunwritten hconcur
  obtain ⟨hends, hstore, hnone⟩ := hunwritten hconcur
  exact ⟨hends, hstore, hnone.trans hwrites⟩

/-- After a pass that nobody disturbs, to which the store refuses nothing and that fails, a further
pass on what it has left writes nothing, if its calls fail in the same ways for as long as there are
any.  It fails as often as the first, and the resource stays as the first pass has left it, with its
version and all its times. -/
theorem failing_pass_quiescent {outcome₁ outcome₂ : Except Error Directive}
    (hr : s.store.current ns name = some r) (hplace : Store.location r = (ns, name))
    (hfirst : Play (reconcile c ns name).run s (.done outcome₁) s₁ trail₁)
    (hunrefused : Unrefused trail₁) (hfails : Fails c r (failures trail₁))
    (hsame : s₂.store.current ns name = s₁.store.current ns name)
    (hsecond : Play (reconcile c ns name).run s₂ (.done outcome₂) s₃ trail₂)
    (hconcur : Concur (failures trail₁) (failures trail₂)) :
    writes trail₂ = [] ∧ s₃.store = s₂.store ∧
      s₃.store.current ns name = s₁.store.current ns name ∧
      failures trail₂ = failures trail₁ := by
  have hrests : ComesToRest c r s₁ trail₁ := hfirst.ensured (ensures_comesToRest hr hplace)
  obtain ⟨r', hstored, hrenewed, hquiesced⟩ := hrests hunrefused hfails
  have hplace' : Store.location r' = (ns, name) := hrenewed.location.trans hplace
  rw [hplace] at hstored
  have hunwritten : Unwritten (failures trail₁) s₂ [] s₃ trail₂ :=
    hsecond.ensured (ensures_unwritten (hsame.trans hstored) hplace' hquiesced)
  obtain ⟨hends, hstore, hnone⟩ := hunwritten hconcur
  refine ⟨hnone, hstore, ?_, hends⟩
  rw [hstore, hsame]

/-- An instant later on the same day. -/
def sampleLater : Timestamp :=
  { Store.deletionInstant with hour := 12, valid := by decide }

/-- A gateway at which the next creation fails. -/
def sampleFailing : Gateway.InMemory :=
  ({} : Gateway.InMemory).failNext .create (.transport "connection reset")

/-- A pass on a new resource attaches the finalizer, fails to create the target and says so.  The
next pass fails in the same way hours later and writes nothing. -/
theorem quiescent_when_unreachable :
    ∃ (s₁ s₂ s₃ : Scene) (outcome₁ outcome₂ : Except Error Directive)
      (trail₁ trail₂ : List Exchange),
      Play (reconcile sampleConfig "tools" "files").run ⟨sampleNewStore, sampleFailing, {}⟩
        (.done outcome₁) s₁ trail₁ ∧
      Play (reconcile sampleConfig "tools" "files").run s₂ (.done outcome₂) s₃ trail₂ ∧
      (writes trail₁).length = 2 ∧ failures trail₁ = [some (.transport "connection reset")] ∧
      writes trail₂ = [] ∧ s₃.store = s₂.store ∧
      s₃.store.current "tools" "files" = s₁.store.current "tools" "files" ∧
      failures trail₂ = failures trail₁ := by
  have hstart₁ : Play (reconcile sampleConfig "tools" "files").run
      ⟨sampleNewStore, sampleFailing, {}⟩ _ _ _ := .start
  have hopened₁ := hstart₁.asked (q := .isCancelled) false ⟨rfl, rfl⟩
  have hread₁ := hopened₁.asked (q := .store (.get "tools" "files")) _ ⟨rfl, rfl⟩
  have hattached := hread₁.asked (q := .store (.replaceFinalizers ..)) _ ⟨rfl, rfl⟩
  have hcreated₁ := hattached.asked (q := .gateway (.create sampleNewRequest)) _ ⟨0, rfl, rfl⟩
  have hcounted₁ := hcreated₁.asked (q := .countCall .create false) () rfl
  have hbegan₁ := hcounted₁.asked (q := .now) Store.deletionInstant rfl
  have hfetched₁ := hbegan₁.asked (q := .store (.get "tools" "files")) _ ⟨rfl, rfl⟩
  have htimed₁ := hfetched₁.asked (q := .now) Store.deletionInstant rfl
  have hannounced := htimed₁.asked (q := .store (.replaceStatus ..)) _ ⟨rfl, rfl⟩
  have hfirst := hannounced.asked (q := .fail "tools/files") _ ⟨rfl, rfl⟩
  -- The second pass starts from wherever the first has come to.
  have hrestart : ∀ {rest s' trail}, Play (reconcile sampleConfig "tools" "files").run
      ⟨sampleNewStore, sampleFailing, {}⟩ rest s' trail →
      Play (reconcile sampleConfig "tools" "files").run { s' with gateway := sampleFailing }
        (reconcile sampleConfig "tools" "files").run { s' with gateway := sampleFailing } [] :=
    fun _ => .start
  have hstart₂ := hrestart hfirst
  have hopened₂ := hstart₂.asked (q := .isCancelled) false ⟨rfl, rfl⟩
  have hread₂ := hopened₂.asked (q := .store (.get "tools" "files")) _ ⟨rfl, rfl⟩
  have hcreated₂ := hread₂.asked (q := .gateway (.create sampleNewRequest)) _ ⟨0, rfl, rfl⟩
  have hcounted₂ := hcreated₂.asked (q := .countCall .create false) () rfl
  have hbegan₂ := hcounted₂.asked (q := .now) sampleLater rfl
  have hfetched₂ := hbegan₂.asked (q := .store (.get "tools" "files")) _ ⟨rfl, rfl⟩
  have htimed₂ := hfetched₂.asked (q := .now) sampleLater rfl
  have hsecond := htimed₂.asked (q := .fail "tools/files") _ ⟨rfl, rfl⟩
  refine ⟨_, _, _, _, _, _, _, hfirst, hsecond, rfl, rfl, ?_⟩
  exact failing_pass_quiescent (r := sampleNewStored) rfl rfl hfirst (by decide) (.inr ⟨_, rfl⟩) rfl
    hsecond (.inl ⟨[], rfl⟩)

end Passes

end TargetRegistrar.Controller
