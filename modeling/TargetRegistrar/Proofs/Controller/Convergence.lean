import TargetRegistrar.Proofs.Controller.Fixpoint
import TargetRegistrar.Proofs.Controller.Warrant
import TargetRegistrar.Proofs.Registration.Acceptance

/-!
# Convergence in two passes

While nothing is pending and nobody interferes, one pass registers the target of a valid resource,
whatever its status was: it attaches the finalizer if that is missing, creates a target or updates
the recorded one or looks at it, and records the outcome for the present generation
(`ensures_registered`).  Once the gateway lets the target be used, a second pass announces it
(`ensures_completed`).  Together the two passes make at most one mutating call, and it is the one
that the resource called for at the start (`two_passes_converge`).
-/

namespace TargetRegistrar.Controller

open Gateway Registration

variable {c : Config} {ns name key : String} {r r' : Resource} {v : Validated}
  {targetId : String} {s s' : Scene} {trail trail' : List Exchange}

/-! ## Resources that can be taken further -/

/-- A valid resource that is to be kept stands in its place, and nothing is pending. -/
structure Standing (c : Config) (ns name : String) (r : Resource) (v : Validated) (s : Scene) :
    Prop where
  calm : s.Calm
  stored : s.store.current ns name = some r
  namespaced : r.metadata.ns = some ns
  named : r.metadata.name = some name
  kept : r.isBeingDeleted = false
  valid : validate c.defaultGateway r = .ok v

/-- A resource whose target can be registered: it has a name, and whatever target is recorded for it
or remembered under its token is held by the gateway of its specification. -/
structure Eligible (c : Config) (ns name : String) (r : Resource) (v : Validated) (s : Scene) :
    Prop extends Standing c ns name r v s where
  nonempty : name ≠ ""
  tokens : s.gateway.Named
  recorded : ∀ targetId, r.recordedTarget? = some targetId →
    ∃ held, s.gateway.heldBy? v.gatewayId targetId = some held
  remembered : ∀ targetId held, s.gateway.remembered? (createToken r) = some (targetId, held) →
    held.gatewayId = v.gatewayId

/-- A resource whose target is registered: recorded for the present generation, and held by the
gateway of the specification. -/
structure Registered (c : Config) (ns name : String) (r : Resource) (v : Validated)
    (targetId : String) (s : Scene) : Prop extends Standing c ns name r v s where
  guarded : r.hasFinalizer finalizer
  tracks : Tracks r targetId
  held : ∃ held, s.gateway.heldBy? v.gatewayId targetId = some held

lemma Standing.location (h : Standing c ns name r v s) : Store.location r = (ns, name) := by
  simp [Store.location, h.namespaced, h.named]

lemma Standing.stored_at (h : Standing c ns name r v s) :
    s.store.objects.get? (Store.location r) = some r := by
  rw [h.location]
  exact h.stored

lemma Standing.renewed (h : Standing c ns name r v s) (hrenewed : Renewed r r') (hcalm : s'.Calm)
    (hstored : s'.store.objects.get? (Store.location r) = some r') :
    Standing c ns name r' v s' where
  calm := hcalm
  stored := by
    rw [h.location] at hstored
    exact hstored
  namespaced := hrenewed.ns.trans h.namespaced
  named := hrenewed.name.trans h.named
  kept := hrenewed.deletion.trans h.kept
  valid := (hrenewed.validate _).trans h.valid

/-- What makes a resource eligible is in its status and its metadata, not in its finalizers. -/
lemma Eligible.attached (h : Eligible c ns name r v s) (hrenewed : Renewed r r')
    (hstatus : r'.status = r.status) (hcalm : s'.Calm) (hgateway : s'.gateway = s.gateway)
    (hstored : s'.store.objects.get? (Store.location r) = some r') :
    Eligible c ns name r' v s' where
  toStanding := h.toStanding.renewed hrenewed hcalm hstored
  nonempty := h.nonempty
  tokens := hgateway ▸ h.tokens
  recorded := by
    rw [hgateway, recordedTarget?_congr hstatus]
    exact h.recorded
  remembered := by
    rw [hgateway, hrenewed.createToken]
    exact h.remembered

/-! ## The mutating calls of a trail -/

/-- The calls that change something at the gateway. -/
def mutations (made : List Call) : List Call :=
  made.filter (·.operation ≠ .get)

/-- The mutating calls are the ones that a resource calls for: a create if no target is recorded, an
update if one is recorded for another generation, and none otherwise. -/
inductive Mutated (r : Resource) (v : Validated) : List Call → Prop where
  | created {request : CreateRequest} (hdue : Due r v (.create request)) :
      Mutated r v [.create request]
  | updated {request : UpdateRequest} (hdue : Due r v (.update request)) :
      Mutated r v [.update request]
  | unchanged {targetId : String} (htracks : Tracks r targetId) : Mutated r v []

lemma Mutated.congr {made : List Call} (h : Mutated r' v made) (halike : Alike r' r) :
    Mutated r v made := by
  cases h with
  | created hdue => exact .created (hdue.congr halike)
  | updated hdue => exact .updated (hdue.congr halike)
  | unchanged htracks => exact .unchanged (htracks.congr halike.status halike.generation)

/-! ## Calls that are accepted -/

/-- A create is accepted, and its target has a name and is held by the requested gateway. -/
lemma ensures_callCreate {policy : RetryPolicy} {request : CreateRequest}
    (hs : s.gateway.scripted = []) (htokens : s.gateway.Named)
    (hremembered : ∀ targetId held,
      s.gateway.remembered? request.clientToken = some (targetId, held) →
        held.gatewayId = request.gatewayId) :
    (callRetrying policy (.create request)).Ensures (fun outcome s' trail' => ∃ reply held,
      outcome = .ok reply ∧ reply.targetId ≠ "" ∧ s'.store = s.store ∧
        s'.gateway.heldBy? request.gatewayId reply.targetId = some held ∧
        calls trail' = .create request :: calls trail) s trail := by
  have hcreate := fun time =>
    Gateway.InMemory.serve_create hs htokens time request hremembered
  have haccepted : ∀ time, ∃ reply, (s.gateway.serve time (.create request)).1 = .ok reply := by
    intro time
    obtain ⟨reply, -, hreply, -⟩ := hcreate time
    exact ⟨reply, hreply⟩
  refine (ensures_repeatCall_accepted policy _ _ _ haccepted).weaken ?_
  rintro _ s' trail' ⟨time, reply, rfl, hreply, hstore, hgateway, hcalls⟩
  obtain ⟨_, held, hreply', hne, hheld⟩ := hcreate time
  cases hreply.symm.trans hreply'
  exact ⟨reply, held, rfl, hne, hstore, hgateway ▸ hheld, hcalls⟩

/-- The same with a token that is drawn if the request has none. -/
lemma ensures_createTarget {policy : RetryPolicy} {request : CreateRequest}
    (hs : s.gateway.scripted = []) (htokens : s.gateway.Named)
    (hremembered : ∀ targetId held,
      s.gateway.remembered? request.clientToken = some (targetId, held) →
        held.gatewayId = request.gatewayId) :
    (createTarget policy request).Ensures (fun outcome s' trail' => ∃ token reply held,
      outcome = .ok reply ∧ reply.targetId ≠ "" ∧ s'.store = s.store ∧
        s'.gateway.heldBy? request.gatewayId reply.targetId = some held ∧
        calls trail' = .create { request with clientToken := token } :: calls trail) s trail := by
  obtain ⟨gatewayId, config, clientToken⟩ := request
  unfold createTarget
  cases clientToken with
  | some token =>
    refine (ensures_callCreate hs htokens hremembered).weaken ?_
    rintro outcome s' trail' ⟨reply, held, hrest⟩
    exact ⟨some token, reply, held, hrest⟩
  | none =>
    rintro token s₁ ⟨hfresh, rfl⟩
    -- nothing is remembered under a token that the gateway does not know
    have hnone : s₁.gateway.remembered? (some token) = none := by
      simp [Gateway.InMemory.remembered?, hfresh]
    refine (ensures_callCreate hs htokens ?_).weaken ?_
    · intro targetId held hheld
      cases hnone.symm.trans hheld
    · rintro outcome s' trail' ⟨reply, held, hrest⟩
      exact ⟨some token, reply, held, hrest⟩

/-- An update of a target that its gateway holds is accepted, and the target stays there. -/
lemma ensures_updateTarget {policy : RetryPolicy} {request : UpdateRequest}
    (hs : s.gateway.scripted = [])
    (hheld : ∃ held, s.gateway.heldBy? request.gatewayId request.targetId = some held) :
    (updateTarget policy request).Ensures (fun outcome s' trail' => ∃ state held,
      outcome = .ok state ∧ s'.store = s.store ∧
        s'.gateway.heldBy? request.gatewayId request.targetId = some held ∧
        calls trail' = .update request :: calls trail) s trail := by
  obtain ⟨held, hheld⟩ := hheld
  have haccepted : ∀ time, ∃ reply, (s.gateway.serve time (.update request)).1 = .ok reply :=
    fun time => ⟨_, (Gateway.InMemory.serve_update hs time hheld).1⟩
  refine (ensures_repeatCall_accepted policy _ _ _ haccepted).weaken ?_
  rintro _ s' trail' ⟨time, reply, rfl, -, hstore, hgateway, hcalls⟩
  have hstill := (Gateway.InMemory.serve_update hs time hheld).2
  rw [← hgateway] at hstill
  exact ⟨reply, _, rfl, hstore, hstill, hcalls⟩

/-- What a success brings about is recorded. -/
lemma ensures_recorded {operation : Operation} {change : StatusChange} (d : Directive)
    (hs : s.store.Unopposed) (hr : s.store.objects.get? (Store.location r) = some r)
    (hns : r.metadata.ns = some ns) (hname : r.metadata.name = some name) :
    (afterSuccess operation r change key (pure d)).Ensures (fun outcome s' trail' =>
      outcome = .ok d ∧ s'.gateway = s.gateway ∧ calls trail' = calls trail ∧
        ∃ now r', s'.store.objects.get? (Store.location r) = some r' ∧ Renewed r r' ∧
          r'.status = some (change.applyTo now r)) s trail := by
  refine ensures_afterSuccess hr ?_ ?_
  · intro now r' s' trail' hstored hrenewed hstatus _ hgateway hcalls
    exact ⟨rfl, hgateway, hcalls, now, r', hstored, hrenewed, hstatus⟩
  · intro e s' trail' h
    rw [hns, hname] at h
    obtain hnone | hnone := h hs
    · cases hnone
    · cases hnone

/-- A look at a target that its gateway holds finds its state, and announces it if it is ready. -/
lemma Standing.ensures_pollStep {held : HeldTarget} (h : Standing c ns name r v s)
    (hrec : r.recordedTarget? = some targetId)
    (hheld : s.gateway.heldBy? v.gatewayId targetId = some held) :
    (pollStep c r v targetId key).Ensures (fun outcome s' trail' => ∃ d r',
      outcome = .ok d ∧ s'.store.objects.get? (Store.location r) = some r' ∧ Renewed r r' ∧
        Tracks r' targetId ∧ (d = .done ↔ held.state.status = targetReady) ∧
        (d = .done → r'.isSettled) ∧
        s'.gateway.heldBy? v.gatewayId targetId = some held ∧
        calls trail' = .get v.gatewayId targetId :: calls trail) s trail := by
  refine (Controller.ensures_pollStep h.stored_at hrec).weaken ?_
  intro outcome s' trail' hlooked
  cases hlooked with
  | @looked time state r' d _ _ hreply hstored hrenewed htracks hdone hsettled hgateway hcalls =>
    obtain ⟨hstate, hstill⟩ := Gateway.InMemory.serve_get h.calm.gateway time hheld
    obtain rfl : state = held.state := Except.ok.inj (hreply.symm.trans hstate)
    rw [← hgateway] at hstill
    exact ⟨d, r', rfl, hstored, hrenewed, htracks, hdone, fun hd => hsettled (hdone.mp hd), hstill,
      hcalls⟩
  | failed _ hfailed =>
    obtain (hnone | hnone) | ⟨time, e, herror⟩ := hfailed h.calm.store
    · cases h.namespaced.symm.trans hnone
    · cases h.named.symm.trans hnone
    · have hstate := (Gateway.InMemory.serve_get h.calm.gateway time hheld).1
      cases herror.symm.trans hstate

/-! ## The first pass -/

/-- What a pass comes to that takes a resource further: its target is registered, and the mutating
calls are those that the resource called for. -/
inductive Advanced (r : Resource) (v : Validated) :
    Except Error Directive → Scene → List Exchange → Prop where
  | advanced {d : Directive} {r' : Resource} {targetId : String} {s' : Scene}
      {trail' : List Exchange}
      (hstored : s'.store.objects.get? (Store.location r) = some r') (hrenewed : Renewed r r')
      (hguarded : r'.hasFinalizer finalizer) (htracks : Tracks r' targetId)
      (hheld : ∃ held, s'.gateway.heldBy? v.gatewayId targetId = some held)
      (hsettled : d = .done → r'.isSettled) (hmutated : Mutated r v (mutations (calls trail'))) :
      Advanced r v (.ok d) s' trail'

namespace Eligible

/-- When the gateway has accepted the call that the resource called for, the target is recorded. -/
lemma ensures_afterCall {s₁ : Scene} {operation : Operation} {change : StatusChange}
    {held : HeldTarget} (h : Eligible c ns name r v s) (hfin : r.hasFinalizer finalizer)
    (hstore : s₁.store = s.store)
    (htracks : ∀ now r', Renewed r r' → r'.status = some (change.applyTo now r) →
      Tracks r' targetId)
    (hheld : s₁.gateway.heldBy? v.gatewayId targetId = some held)
    (hmutated : Mutated r v (mutations (calls trail))) :
    (afterSuccess operation r change key (pure (.requeueAfter c.pollInterval))).Ensures
      (Advanced r v) s₁ trail := by
  have hr₁ : s₁.store.objects.get? (Store.location r) = some r := by
    rw [hstore, h.stored_at]
  refine (ensures_recorded (.requeueAfter c.pollInterval) (hstore ▸ h.calm.store) hr₁
    h.namespaced h.named).weaken ?_
  rintro _ s' trail' ⟨rfl, hgateway, hcalls, now, r', hstored, hrenewed, hstatus⟩
  exact .advanced hstored hrenewed (hrenewed.guard hfin) (htracks now r' hrenewed hstatus)
    ⟨held, hgateway ▸ hheld⟩ nofun (hcalls ▸ hmutated)

lemma ensures_createStep (h : Eligible c ns name r v s) (hfin : r.hasFinalizer finalizer)
    (hrec : r.recordedTarget? = none) (hcalls : calls trail = []) :
    (createStep c r v key).Ensures (Advanced r v) s trail := by
  obtain ⟨config, hconfig⟩ := exists_config h.valid h.named h.nonempty
  have hreq : v.createRequest = .ok ⟨v.gatewayId, config, none⟩ := by
    rw [createRequest_eq, hconfig]
    rfl
  unfold createStep
  simp only [hreq]
  refine Pass.ensures_lift (ensures_createTarget h.calm.gateway h.tokens h.remembered) ?_
  rintro _ s₁ trail₁ ⟨token, reply, held, rfl, hne, hstore, hheld, hcalls₁⟩
  refine h.ensures_afterCall hfin hstore
    (fun _ _ hrenewed => tracks_of_created hne hrenewed.generation) hheld ?_
  rw [hcalls₁, hcalls]
  exact .created (.create hrec hreq)

lemma ensures_updateStep (h : Eligible c ns name r v s) (hfin : r.hasFinalizer finalizer)
    (hrec : r.recordedTarget? = some targetId)
    (hgen : r.metadata.generation ≠ r.observedGeneration) (hcalls : calls trail = []) :
    (updateStep c r v targetId key).Ensures (Advanced r v) s trail := by
  obtain ⟨config, hconfig⟩ := exists_config h.valid h.named h.nonempty
  have hne : targetId ≠ "" := ne_empty_of_recordedTarget? hrec
  have hreq : v.updateRequest targetId = .ok ⟨v.gatewayId, targetId, config⟩ := by
    rw [updateRequest_eq v hne, hconfig]
    rfl
  unfold updateStep
  simp only [hreq]
  refine Pass.ensures_lift (ensures_updateTarget h.calm.gateway (h.recorded targetId hrec)) ?_
  rintro _ s₁ trail₁ ⟨state, held, rfl, hstore, hheld, hcalls₁⟩
  refine h.ensures_afterCall hfin hstore
    (fun _ _ hrenewed => tracks_of_observed hrec hrenewed.generation) hheld ?_
  rw [hcalls₁, hcalls]
  exact .updated (.update hrec hgen hreq)

lemma ensures_advance (h : Eligible c ns name r v s) (hfin : r.hasFinalizer finalizer)
    (hcalls : calls trail = []) :
    (advance c r v key).Ensures (Advanced r v) s trail := by
  refine advance_cases (motive := fun p => p.Ensures (Advanced r v) s trail)
    (fun hrec => h.ensures_createStep hfin hrec hcalls)
    (fun hrec hgen => h.ensures_updateStep hfin hrec hgen hcalls) ?settled ?poll
  case settled =>
    intro targetId hrec hgen hsettled
    obtain ⟨held, hheld⟩ := h.recorded targetId hrec
    have htracks : Tracks r targetId := ⟨hrec, hgen⟩
    refine (ensures_rested_of_idle rfl).weaken ?_
    rintro _ s' trail' ⟨rfl, hstore, hgateway, huncalled, -⟩
    refine .advanced (hstore ▸ h.stored_at) (.refl r) hfin htracks ⟨held, hgateway ▸ hheld⟩
      (fun _ => hsettled) ?_
    rw [huncalled, hcalls]
    exact .unchanged htracks
  case poll =>
    intro targetId hrec hgen _
    obtain ⟨held, hheld⟩ := h.recorded targetId hrec
    refine (h.ensures_pollStep hrec hheld).weaken ?_
    rintro _ s' trail' ⟨d, r', rfl, hstored, hrenewed, htracks, -, hsettled, hheld', hcalls'⟩
    refine .advanced hstored hrenewed (hrenewed.guard hfin) htracks ⟨held, hheld'⟩ hsettled ?_
    rw [hcalls', hcalls]
    exact .unchanged ⟨hrec, hgen⟩

/-- A copy without the finalizer is given it first. -/
lemma ensures_unguarded (h : Eligible c ns name r v s) (hcalls : calls trail = []) :
    Pass.Ensures (Advanced r v) (do advance c (← addFinalizer r) v key) s trail := by
  have hattach : (addFinalizer r).Ensures (fun outcome s₁ trail₁ =>
      s₁.Calm ∧ Attached r s trail outcome s₁ trail₁) s trail :=
    Program.Ensures.keeping Scene.Answers.calm h.calm (ensures_addFinalizer h.stored_at)
  refine Pass.ensures_bind hattach ?_ ?_
  · rintro r₁ s₁ trail₁ ⟨hcalm, hattached⟩
    cases hattached with
    | attached hstored hrenewed hstatus hguarded hgateway hcalls₁ =>
      have h₁ := h.attached hrenewed hstatus hcalm hgateway hstored
      refine (h₁.ensures_advance hguarded (hcalls₁.trans hcalls)).weaken ?_
      intro outcome s' trail' hadvanced
      cases hadvanced with
      | advanced hstored' hrenewed' hguarded' htracks hheld hsettled hmutated =>
        rw [hrenewed.location] at hstored'
        exact .advanced hstored' (hrenewed.trans hrenewed') hguarded' htracks hheld hsettled
          (hmutated.congr ⟨hstatus.symm, hrenewed.generation.symm⟩)
  · rintro e s₁ trail₁ ⟨-, hattached⟩
    cases hattached with
    | refused hopposed => exact absurd h.calm.store hopposed

lemma ensures_reconcileCopy (h : Eligible c ns name r v s) (hcalls : calls trail = []) :
    (reconcileCopy c r key).Ensures (Advanced r v) s trail := by
  unfold reconcileCopy
  simp only [h.kept, h.valid]
  by_cases hfin : r.hasFinalizer finalizer
  · simp only [if_pos hfin]
    exact h.ensures_advance hfin hcalls
  · simp only [if_neg hfin]
    exact h.ensures_unguarded hcalls

/-- A pass registers the target of a resource for which that is possible. -/
lemma ensures_registered (h : Eligible c ns name r v s) :
    (reconcile c ns name).Ensures (fun outcome s' trail' => ∃ d r' targetId, outcome = .ok d ∧
      Renewed r r' ∧ Registered c ns name r' v targetId s' ∧ (d = .done → r'.isSettled) ∧
      Mutated r v (mutations (calls trail'))) s [] := by
  have hpass : (reconcile c ns name).Ensures (Advanced r v) s [] := by
    refine ensures_reconcile_of_stored h.stored fun trail₁ hcalls _ => ?_
    refine (h.ensures_reconcileCopy hcalls).weaken ?_
    intro outcome s' trail' hadvanced
    cases hadvanced with
    | advanced hstored hrenewed hguarded htracks hheld hsettled hmutated =>
      exact .advanced hstored hrenewed hguarded htracks hheld hsettled hmutated
  refine (Program.Ensures.keeping Scene.Answers.calm h.calm hpass).weaken ?_
  rintro _ s' trail' ⟨hcalm, hadvanced⟩
  cases hadvanced with
  | @advanced d r' targetId _ _ hstored hrenewed hguarded htracks hheld hsettled hmutated =>
    exact ⟨d, r', targetId, rfl, hrenewed,
      ⟨h.toStanding.renewed hrenewed hcalm hstored, hguarded, htracks, hheld⟩, hsettled, hmutated⟩

end Eligible

/-! ## The second pass -/

/-- The target of a registered resource can be used: that has been announced, or the gateway says
so. -/
def Usable (r : Resource) (v : Validated) (targetId : String) (s : Scene) : Prop :=
  r.isSettled ∨ ∃ held, s.gateway.heldBy? v.gatewayId targetId = some held ∧
    held.state.status = targetReady

/-- What a pass leaves that is done with a registered resource. -/
inductive Completed (r : Resource) (targetId : String) :
    Except Error Directive → Scene → List Exchange → Prop where
  | completed {r' : Resource} {s' : Scene} {trail' : List Exchange}
      (hstored : s'.store.objects.get? (Store.location r) = some r') (hrenewed : Renewed r r')
      (htracks : Tracks r' targetId) (hsettled : r'.isSettled)
      (hunchanged : mutations (calls trail') = []) : Completed r targetId (.ok .done) s' trail'

namespace Registered

lemma ensures_advance (h : Registered c ns name r v targetId s)
    (husable : Usable r v targetId s) (hcalls : calls trail = []) :
    (advance c r v key).Ensures (Completed r targetId) s trail := by
  by_cases hsettled : r.isSettled
  · refine (ensures_rested_of_announced h.tracks hsettled).weaken ?_
    rintro _ s' trail' ⟨rfl, hstore, hgateway, huncalled, -⟩
    refine .completed (hstore ▸ h.stored_at) (.refl r) h.tracks hsettled ?_
    rw [huncalled, hcalls]
    rfl
  · obtain hsettled' | ⟨held, hheld, hready⟩ := husable
    · exact absurd hsettled' hsettled
    · simp only [advance, h.tracks.recorded]
      rw [if_neg (not_not.mpr h.tracks.current), if_neg hsettled]
      refine (h.ensures_pollStep h.tracks.recorded hheld).weaken ?_
      rintro _ s' trail' ⟨d, r', rfl, hstored, hrenewed, htracks, hdone, hsettled', -, hcalls'⟩
      obtain rfl := hdone.mpr hready
      refine .completed hstored hrenewed htracks (hsettled' rfl) ?_
      rw [hcalls', hcalls]
      rfl

/-- A pass is done with a registered resource whose target can be used. -/
lemma ensures_completed (h : Registered c ns name r v targetId s)
    (husable : Usable r v targetId s) :
    (reconcile c ns name).Ensures (Completed r targetId) s [] := by
  refine ensures_reconcile_of_stored h.stored fun trail₁ hcalls _ => ?_
  simp only [reconcileCopy, h.kept, h.valid, h.guarded, if_true]
  refine (h.ensures_advance husable hcalls).weaken ?_
  intro outcome s' trail' hcompleted
  cases hcompleted with
  | completed hstored hrenewed htracks hsettled hunchanged =>
    exact .completed hstored hrenewed htracks hsettled hunchanged

end Registered

/-! ## Both passes -/

/-- The scene after the gateway lets the target be used that is recorded for the resource in a
place. -/
def Scene.reportReady (s : Scene) (ns name : String) (reasons : List String) : Scene :=
  match (s.store.current ns name).bind Resource.recordedTarget? with
  | some targetId => { s with gateway := s.gateway.setState targetId ⟨targetReady, reasons⟩ }
  | none => s

/-- Two passes on the resource in a place: how the second one ends, and all calls.  Unless the first
one was done, the gateway lets the target be used in between. -/
inductive TwoPasses (c : Config) (ns name : String) (s : Scene) :
    Except Error Directive → Scene → List Call → Prop where
  | done {outcome : Except Error Directive} {s₁ s₂ : Scene} {trail₁ trail₂ : List Exchange}
      (hfirst : Play (reconcile c ns name).run s (.done (.ok .done)) s₁ trail₁)
      (hsecond : Play (reconcile c ns name).run s₁ (.done outcome) s₂ trail₂) :
      TwoPasses c ns name s outcome s₂ (calls trail₂ ++ calls trail₁)
  | pending {outcome₁ outcome : Except Error Directive} {s₁ s₂ : Scene}
      {trail₁ trail₂ : List Exchange} (reasons : List String)
      (hfirst : Play (reconcile c ns name).run s (.done outcome₁) s₁ trail₁)
      (hpending : outcome₁ ≠ .ok .done)
      (hsecond : Play (reconcile c ns name).run (s₁.reportReady ns name reasons) (.done outcome) s₂
        trail₂) :
      TwoPasses c ns name s outcome s₂ (calls trail₂ ++ calls trail₁)

lemma exists_twoPasses (c : Config) (ns name : String) (s : Scene) :
    ∃ outcome s' made, TwoPasses c ns name s outcome s' made := by
  obtain ⟨outcome₁, s₁, trail₁, hfirst⟩ := exists_play (reconcile c ns name).run s
  by_cases hdone : outcome₁ = .ok .done
  · subst hdone
    obtain ⟨outcome, s₂, trail₂, hsecond⟩ := exists_play (reconcile c ns name).run s₁
    exact ⟨outcome, s₂, _, .done hfirst hsecond⟩
  · obtain ⟨outcome, s₂, trail₂, hsecond⟩ :=
      exists_play (reconcile c ns name).run (s₁.reportReady ns name [])
    exact ⟨outcome, s₂, _, .pending [] hfirst hdone hsecond⟩

lemma Registered.reportReady (h : Registered c ns name r v targetId s) (reasons : List String) :
    Registered c ns name r v targetId (s.reportReady ns name reasons) ∧
      Usable r v targetId (s.reportReady ns name reasons) := by
  obtain ⟨held, hheld⟩ := h.held
  have hstill := Gateway.InMemory.heldBy?_setState hheld ⟨targetReady, reasons⟩
  have hscene : s.reportReady ns name reasons =
      { s with gateway := s.gateway.setState targetId ⟨targetReady, reasons⟩ } := by
    simp only [Scene.reportReady, h.stored, Option.bind_some, h.tracks.recorded]
  rw [hscene]
  have hcalm : Scene.Calm
      { s with gateway := s.gateway.setState targetId ⟨targetReady, reasons⟩ } :=
    ⟨h.calm.store, (Gateway.InMemory.setState_leaves ..).1.trans h.calm.gateway⟩
  exact ⟨⟨h.toStanding.renewed (.refl r) hcalm h.stored_at, h.guarded, h.tracks, _, hstill⟩,
    .inr ⟨_, hstill, rfl⟩⟩

lemma mutations_append (made made' : List Call) :
    mutations (made ++ made') = mutations made ++ mutations made' :=
  List.filter_append ..

/-- A pass that finds the target registered and fit for use completes what the passes before have
begun. -/
lemma Registered.completes {outcome : Except Error Directive} {r₁ : Resource} {s₁ s₂ : Scene}
    {trail₁ trail₂ : List Exchange} (h : Registered c ns name r₁ v targetId s₁)
    (husable : Usable r₁ v targetId s₁) (hrenewed : Renewed r r₁)
    (hmutated : Mutated r v (mutations (calls trail₁)))
    (hsecond : Play (reconcile c ns name).run s₁ (.done outcome) s₂ trail₂) :
    outcome = .ok .done ∧ Mutated r v (mutations (calls trail₂ ++ calls trail₁)) ∧
      ∃ r' status, s₂.store.current ns name = some r' ∧ Renewed r r' ∧
        r'.hasFinalizer finalizer ∧ Tracks r' targetId ∧ r'.status = some status ∧
        status.isSettled := by
  have hcompleted : Completed r₁ targetId outcome s₂ trail₂ :=
    hsecond.ensured (h.ensures_completed husable)
  cases hcompleted with
  | @completed r' _ _ hstored hrenewed' htracks hsettled hunchanged =>
    obtain ⟨status, hstatus, hannounced⟩ := (Option.any_eq_true _ _).mp hsettled
    rw [h.location] at hstored
    refine ⟨rfl, ?_, r', status, hstored, hrenewed.trans hrenewed', hrenewed'.guard h.guarded,
      htracks, hstatus, hannounced⟩
    rw [mutations_append, hunchanged, List.nil_append]
    exact hmutated

/-- While no conflict and no error is pending, nobody interferes and nothing is cancelled, two
passes on a valid resource that is to be kept end done, whatever its status, its finalizers and its
generations were; unless the first pass was done, the gateway has let the target be used in between.
The resource then carries the finalizer and records a target that was last seen ready for the
present generation, and that is announced.  Of the calls that were made, one create changed
something at the gateway if no target was recorded at first, one update if one was recorded for
another generation, and none otherwise. -/
theorem two_passes_converge (h : Eligible c ns name r v s) :
    (∃ outcome s' made, TwoPasses c ns name s outcome s' made) ∧
      ∀ outcome s' made, TwoPasses c ns name s outcome s' made →
        outcome = .ok .done ∧ Mutated r v (mutations made) ∧
          ∃ r' targetId status ready, s'.store.current ns name = some r' ∧ Renewed r r' ∧
            r'.hasFinalizer finalizer ∧ r'.recordedTarget? = some targetId ∧
            r'.status = some status ∧ status.targetStatus = some targetReady ∧
            status.observedGeneration = r'.metadata.generation ∧
            status.ready? = some ready ∧ ready.verdict = .holds := by
  refine ⟨exists_twoPasses c ns name s, ?_⟩
  have hfirst : ∀ {outcome₁ s₁ trail₁}, Play (reconcile c ns name).run s (.done outcome₁) s₁
      trail₁ → ∃ d r₁ targetId, outcome₁ = .ok d ∧ Renewed r r₁ ∧
        Registered c ns name r₁ v targetId s₁ ∧ (d = .done → r₁.isSettled) ∧
        Mutated r v (mutations (calls trail₁)) := fun hplay => hplay.ensured h.ensures_registered
  intro outcome s' made hpasses
  have hboth : ∃ targetId, outcome = .ok .done ∧ Mutated r v (mutations made) ∧
      ∃ r' status, s'.store.current ns name = some r' ∧ Renewed r r' ∧
        r'.hasFinalizer finalizer ∧ Tracks r' targetId ∧ r'.status = some status ∧
        status.isSettled := by
    cases hpasses with
    | done hplay hsecond =>
      obtain ⟨d, r₁, targetId, hd, hrenewed, hregistered, hsettled, hmutated⟩ := hfirst hplay
      have husable : r₁.isSettled := hsettled (Except.ok.inj hd).symm
      exact ⟨targetId, hregistered.completes (.inl husable) hrenewed hmutated hsecond⟩
    | pending reasons hplay _ hsecond =>
      obtain ⟨d, r₁, targetId, -, hrenewed, hregistered, -, hmutated⟩ := hfirst hplay
      obtain ⟨hregistered', husable⟩ := hregistered.reportReady reasons
      exact ⟨targetId, hregistered'.completes husable hrenewed hmutated hsecond⟩
  obtain ⟨targetId, hdone, hmutated, r', status, hstored, hrenewed, hguarded, htracks, hstatus,
    hsettled⟩ := hboth
  obtain ⟨hready, ready, hfound, hholds⟩ := isSettled_iff.mp hsettled
  have hcurrent : status.observedGeneration = r'.metadata.generation := by
    rw [htracks.current, Resource.observedGeneration, hstatus, Option.bind_some]
  exact ⟨hdone, hmutated, r', targetId, status, ready, hstored, hrenewed, hguarded,
    htracks.recorded, hstatus, hready, hcurrent, hfound, hholds⟩

/-- The new resource's specification, as it passes. -/
def sampleValidated : Validated where
  endpoint := "https://files.example"
  capabilities := ["tools"]
  auth := ⟨.noAuth, none, []⟩
  propagation := none
  gatewayId := "gw"
  targetName := "files"
  description := none

/-- Two passes on a new resource create its target and announce it. -/
theorem two_passes_converge_when_new :
    Eligible sampleConfig "tools" "files" sampleNewStored sampleValidated
        { store := sampleNewStore } ∧
      (∃ outcome s' made, TwoPasses sampleConfig "tools" "files" { store := sampleNewStore } outcome
        s' made) ∧
      ∀ outcome s' made, TwoPasses sampleConfig "tools" "files" { store := sampleNewStore } outcome
          s' made →
        outcome = .ok .done ∧ Mutated sampleNewStored sampleValidated (mutations made) ∧
          ∃ r' targetId status ready, s'.store.current "tools" "files" = some r' ∧
            Renewed sampleNewStored r' ∧ r'.hasFinalizer finalizer ∧
            r'.recordedTarget? = some targetId ∧ r'.status = some status ∧
            status.targetStatus = some targetReady ∧
            status.observedGeneration = r'.metadata.generation ∧
            status.ready? = some ready ∧ ready.verdict = .holds := by
  have hstanding : Standing sampleConfig "tools" "files" sampleNewStored sampleValidated
      { store := sampleNewStore } :=
    ⟨⟨⟨rfl, rfl⟩, rfl⟩, rfl, rfl, rfl, rfl, rfl⟩
  have heligible : Eligible sampleConfig "tools" "files" sampleNewStored sampleValidated
      { store := sampleNewStore } :=
    ⟨hstanding, by decide, .empty, (fun _ hrec => nomatch hrec), (fun _ _ hheld => nomatch hheld)⟩
  exact ⟨heligible, two_passes_converge heligible⟩

end TargetRegistrar.Controller
