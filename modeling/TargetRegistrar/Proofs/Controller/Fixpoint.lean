import TargetRegistrar.Proofs.Controller.Effects
import TargetRegistrar.Proofs.Controller.Recording

/-!
# Done is a fixpoint

A pass that nobody disturbs is done on five paths: there is no resource, or one that is being
deleted and no longer guarded, or the guard has just been lifted, or the target is settled, or it
has just been seen ready.  Each path leaves the resource `Finished`, if it leaves one at all
(`ensures_settles`), and for a finished resource a pass asks the gateway nothing and writes nothing
(`ensures_rested`).  So a pass after one that was done is done as well, and it does not matter which
conflicts and errors are pending, because it meets none of them (`done_is_fixpoint`).
-/

namespace TargetRegistrar.Controller

open Gateway Registration

/-! ## Writes of a trail -/

/-- The write that a question asks for. -/
def Exchange.write? : Exchange → Option Store.Request
  | ⟨.store (.get ..), _, _⟩ => none
  | ⟨.store request, _, _⟩ => some request
  | _ => none

/-- The writes of a trail, the last one first. -/
def writes (trail : List Exchange) : List Store.Request :=
  trail.filterMap Exchange.write?

variable {c : Config} {ns name key : String} {r r' : Resource} {v : Validated}
  {targetId : String} {s s' : Scene} {trail trail' : List Exchange}

lemma writes_idle {q : Query} {answer : q.Answer} {before : Store.InMemory} (hq : q.isIdle) :
    writes (⟨q, answer, before⟩ :: trail) = writes trail := by
  cases q with
  | store request => cases hq
  | _ => rfl

/-! ## Where there is nothing left to do -/

/-- There is nothing to do for a resource: it has been let go, or its target has been announced. -/
inductive Finished (c : Config) (r : Resource) : Prop where
  | released (hdel : r.isBeingDeleted) (hfin : r.hasFinalizer finalizer = false)
  | announced {v : Validated} {targetId : String} (hdel : r.isBeingDeleted = false)
      (hv : validate c.defaultGateway r = .ok v) (hfin : r.hasFinalizer finalizer)
      (htracks : Tracks r targetId) (hsettled : r.isSettled)

/-- A pass that has found nothing to do. -/
structure Rested (s : Scene) (trail : List Exchange) (outcome : Except Error Directive)
    (s' : Scene) (trail' : List Exchange) : Prop where
  done : outcome = .ok .done
  store : s'.store = s.store
  gateway : s'.gateway = s.gateway
  uncalled : calls trail' = calls trail
  unwritten : writes trail' = writes trail

lemma ensures_rested_of_idle {q : Query} (hq : q.isIdle) :
    Pass.Ensures (Rested s trail) (Pass.query q >>= fun _ => pure Directive.done) s trail :=
  Pass.ensures_idle hq fun _ _ hstore hgateway =>
    ⟨rfl, hstore, hgateway, calls_quiet (Query.isQuiet_of_isIdle hq), writes_idle hq⟩

/-- A target that has been announced is left alone. -/
lemma ensures_rested_of_announced (htracks : Tracks r targetId) (hsettled : r.isSettled) :
    (advance c r v key).Ensures (Rested s trail) s trail := by
  simp only [advance, htracks.recorded]
  rw [if_neg (not_not.mpr htracks.current), if_pos hsettled]
  exact ensures_rested_of_idle rfl

lemma Finished.ensures_rested (h : Finished c r) :
    (reconcileCopy c r key).Ensures (Rested s trail) s trail := by
  unfold reconcileCopy
  cases h with
  | released hdel hfin =>
    rw [if_pos hdel]
    simp only [deleteStep, hfin]
    exact ⟨rfl, rfl, rfl, rfl, rfl⟩
  | announced hdel hv hfin htracks hsettled =>
    simp only [hdel, hv, hfin, if_true]
    exact ensures_rested_of_announced htracks hsettled

/-! ## How a pass begins and ends -/

/-- A pass is its work on what is stored, if anything is. -/
lemma ensures_reconcile {post : Except Error Directive → Scene → List Exchange → Prop}
    (hnone : s.store.objects.get? (ns, name) = none → ∀ outcome s' trail',
      Rested s trail outcome s' trail' → post outcome s' trail')
    (hsome : ∀ r trail', s.store.objects.get? (ns, name) = some r → calls trail' = calls trail →
      writes trail' = writes trail → (reconcileCopy c r (ns ++ "/" ++ name)).Ensures
        (fun ending => post (surface c ending)) s trail') :
    (reconcile c ns name).Ensures post s trail := by
  have hlatest : ∀ trail', calls trail' = calls trail → writes trail' = writes trail →
      (reconcileLatest c ns name (ns ++ "/" ++ name)).Ensures
        (fun ending => post (surface c ending)) s trail' := by
    intro trail' hcalls hwrites
    have hfetch : (Pass.store (.get ns name)).Ensures (fun outcome s₁ trail₁ =>
        outcome = .ok (s.store.objects.get? (ns, name)) ∧ s₁ = s ∧ calls trail₁ = calls trail ∧
          writes trail₁ = writes trail) s trail' :=
      Pass.ensures_store ⟨rfl, rfl, hcalls, hwrites⟩
    refine Pass.ensures_ofStore hfetch ?_ ?_
    · rintro found s₁ trail₁ ⟨hfound, rfl, hcalls₁, hwrites₁⟩
      cases found with
      | none =>
        refine (ensures_rested_of_idle rfl).weaken ?_
        rintro _ s' trail₂ ⟨rfl, hstore, hgateway, huncalled, hunwritten⟩
        exact hnone (Except.ok.inj hfound).symm _ _ _
          ⟨rfl, hstore, hgateway, huncalled.trans hcalls₁, hunwritten.trans hwrites₁⟩
      | some r => exact hsome r trail₁ (Except.ok.inj hfound).symm hcalls₁ hwrites₁
    · rintro e s₁ trail₁ ⟨hfound, -⟩
      cases hfound
  rw [Pass.Ensures, run_reconcile]
  rintro cancelled s₁ ⟨rfl, rfl⟩
  exact Program.Ensures.bind (hlatest (_ :: trail) rfl rfl)

/-- A pass on a resource that is stored is its work on that. -/
lemma ensures_reconcile_of_stored
    {post : Except Error Directive → Scene → List Exchange → Prop}
    (hr : s.store.objects.get? (ns, name) = some r)
    (h : ∀ trail', calls trail' = calls trail → writes trail' = writes trail →
      (reconcileCopy c r (ns ++ "/" ++ name)).Ensures (fun ending => post (surface c ending)) s
        trail') :
    (reconcile c ns name).Ensures post s trail := by
  refine ensures_reconcile (fun hnone => nomatch hr.symm.trans hnone) ?_
  intro r' trail' hr' hcalls hwrites
  obtain rfl := Option.some.inj (hr.symm.trans hr')
  exact h trail' hcalls hwrites

/-! ## Parts that end otherwise -/

/-- A part of a pass that never ends with the pass done. -/
def Unfinished (p : Pass Error Directive) : Prop :=
  ∀ s trail, p.Ensures (fun outcome _ _ => outcome ≠ .ok .done) s trail

namespace Unfinished

lemma pure {d : Directive} (h : d ≠ .done) : Unfinished (pure d) :=
  fun _ _ hdone => h (Except.ok.inj hdone)

lemma bind {α : Type} {p : Pass Error α} {f : α → Pass Error Directive}
    (h : ∀ a, Unfinished (f a)) : Unfinished (p >>= f) :=
  fun s trail => Pass.ensures_bind (Program.Ensures.trivially p.run s trail)
    (fun a s' trail' _ => h a s' trail') fun _ _ _ _ => nofun

lemma ite {p : Prop} [Decidable p] {p₁ p₂ : Pass Error Directive} (h₁ : Unfinished p₁)
    (h₂ : Unfinished p₂) : Unfinished (if p then p₁ else p₂) := by
  split
  · exact h₁
  · exact h₂

end Unfinished

lemma unfinished_backOff (key : String) : Unfinished (backOff key) :=
  .bind fun _ => .pure nofun

lemma unfinished_reportBuildError (r : Resource) (e : BuildError) :
    Unfinished (reportBuildError r e) :=
  .bind fun _ => .pure nofun

lemma unfinished_reportFailure (r : Resource) (key reason context : String) (e : Gateway.Error) :
    Unfinished (reportFailure r key reason context e) :=
  .bind fun _ => .ite (unfinished_backOff key) (.pure nofun)

lemma unfinished_afterFailure {c : Config} {operation : Operation} {e : Gateway.Error}
    {p : Pass Error Directive} (h : Unfinished p) : Unfinished (afterFailure c operation e p) :=
  .ite (.pure nofun) (.bind fun _ => h)

lemma unfinished_afterSuccess {operation : Operation} {r : Resource} {change : StatusChange}
    {key : String} {p : Pass Error Directive} (h : Unfinished p) :
    Unfinished (afterSuccess operation r change key p) :=
  .bind fun _ => .bind fun _ => .bind fun _ => h

lemma unfinished_createStep (c : Config) (r : Resource) (v : Validated) (key : String) :
    Unfinished (createStep c r v key) := by
  unfold createStep
  cases v.createRequest with
  | error e => exact unfinished_reportBuildError r e
  | ok request =>
    refine .bind fun outcome => ?_
    cases outcome with
    | ok created => exact unfinished_afterSuccess (.pure nofun)
    | error e => exact unfinished_afterFailure (unfinished_reportFailure r key _ _ e)

lemma unfinished_updateStep (c : Config) (r : Resource) (v : Validated) (targetId key : String) :
    Unfinished (updateStep c r v targetId key) := by
  unfold updateStep
  cases v.updateRequest targetId with
  | error e => exact unfinished_reportBuildError r e
  | ok request =>
    refine .bind fun outcome => ?_
    cases outcome with
    | ok state => exact unfinished_afterSuccess (.pure nofun)
    | error e => exact unfinished_afterFailure (unfinished_reportFailure r key _ _ e)

/-! ## Looking at a target -/

/-- What a look at a recorded target comes to: its state has been recorded, and announced if the
target can be used; or else the look or a write has failed. -/
inductive Looked (r : Resource) (v : Validated) (targetId : String) (s : Scene)
    (trail : List Exchange) : Except Error Directive → Scene → List Exchange → Prop where
  | looked {time : Nat} {state : TargetState} {r' : Resource} {d : Directive} {s' : Scene}
      {trail' : List Exchange}
      (hreply : (s.gateway.serve time (.get v.gatewayId targetId)).1 = .ok state)
      (hstored : s'.store.objects.get? (Store.location r) = some r') (hrenewed : Renewed r r')
      (htracks : Tracks r' targetId) (hdone : d = .done ↔ state.status = targetReady)
      (hsettled : state.status = targetReady → r'.isSettled)
      (hgateway : s'.gateway = (s.gateway.serve time (.get v.gatewayId targetId)).2)
      (hcalls : calls trail' = .get v.gatewayId targetId :: calls trail) :
      Looked r v targetId s trail (.ok d) s' trail'
  | failed {outcome : Except Error Directive} {s' : Scene} {trail' : List Exchange}
      (hne : outcome ≠ .ok .done) (h : s.store.Unopposed →
        (r.metadata.ns = none ∨ r.metadata.name = none) ∨
          ∃ time e, (s.gateway.serve time (.get v.gatewayId targetId)).1 = .error e) :
      Looked r v targetId s trail outcome s' trail'

/-- A target that has been seen ready is announced, unless the write fails. -/
lemma ensures_announced (hr : s.store.objects.get? (Store.location r) = some r')
    (hrenewed : Renewed r r') (htracks : Tracks r' targetId)
    (hready : r'.status.any Status.isTargetReady) :
    (Pass.ofStore (setReady r) >>= fun _ => pure Directive.done).Ensures (fun outcome s' trail' =>
      (outcome = .ok .done ∧ s'.gateway = s.gateway ∧ calls trail' = calls trail ∧
        ∃ r'', s'.store.objects.get? (Store.location r) = some r'' ∧ Renewed r r'' ∧
          Tracks r'' targetId ∧ r''.isSettled) ∨
      (outcome ≠ .ok .done ∧
        (s.store.Unopposed → r.metadata.ns = none ∨ r.metadata.name = none))) s trail := by
  refine Pass.ensures_ofStore (ensures_setReady hr hrenewed.location) ?_ ?_
  · rintro result s₁ trail₁ ⟨began, hchanged⟩
    cases hchanged with
    | @written _ r'' _ _ now hstored hrenewed' hstatus _ hgateway hcalls =>
      have hsettled : r''.isSettled := by
        rw [Resource.isSettled, hstatus, Option.any_some]
        exact isSettled_applyTo rfl rfl hready
      exact .inl ⟨rfl, hgateway, hcalls, r'', hstored, hrenewed.trans hrenewed',
        htracks.of_condition hrenewed'.generation hstatus, hsettled⟩
  · rintro e s₁ trail₁ ⟨began, hchanged⟩
    cases hchanged with
    | refused h => exact .inr ⟨by simp, h⟩

lemma ensures_pollStep (hr : s.store.objects.get? (Store.location r) = some r)
    (hrec : r.recordedTarget? = some targetId) :
    (pollStep c r v targetId key).Ensures (Looked r v targetId s trail) s trail := by
  have hcall : (getTarget v.gatewayId targetId).Ensures (fun outcome s₁ trail₁ => ∃ time,
      outcome = (s.gateway.serve time (.get v.gatewayId targetId)).1 ∧ s₁.store = s.store ∧
        s₁.gateway = (s.gateway.serve time (.get v.gatewayId targetId)).2 ∧
        calls trail₁ = .get v.gatewayId targetId :: calls trail) s trail :=
    ensures_callOnce fun time => ⟨time, rfl, rfl, rfl, rfl⟩
  refine Pass.ensures_lift hcall ?_
  rintro outcome s₁ trail₁ ⟨time, houtcome, hstore₁, hgateway₁, hcalls₁⟩
  cases outcome with
  | error e =>
    have hunfinished : Unfinished (afterFailure c .get e (backOff key)) :=
      unfinished_afterFailure (unfinished_backOff key)
    refine Program.Ensures.weaken (hunfinished s₁ trail₁) fun outcome s' trail' hne => ?_
    exact .failed hne fun _ => .inr ⟨time, e, houtcome.symm⟩
  | ok state =>
    have hr₁ : s₁.store.objects.get? (Store.location r) = some r := by rw [hstore₁, hr]
    refine ensures_afterSuccess hr₁ ?_ ?_
    · intro now r₁ s₂ trail₂ hstored hrenewed hstatus hunopposed hgateway₂ hcalls₂
      have hgateway : s₂.gateway = (s.gateway.serve time (.get v.gatewayId targetId)).2 :=
        hgateway₂.trans hgateway₁
      have hcalls : calls trail₂ = .get v.gatewayId targetId :: calls trail :=
        hcalls₂.trans hcalls₁
      have htracks : Tracks r₁ targetId := tracks_of_observed hrec hrenewed.generation hstatus
      by_cases hready : state.status = targetReady
      · rw [if_pos hready]
        have hseen : r₁.status.any Status.isTargetReady := by
          simp [hstatus, StatusChange.applyTo, StatusChange.apply, Status.isTargetReady, hready]
        refine (ensures_announced hstored hrenewed htracks hseen).weaken ?_
        rintro outcome s' trail' (⟨rfl, hgateway', hcalls', r'', hstored', hrenewed', htracks',
          hsettled⟩ | ⟨hne, h⟩)
        · exact .looked houtcome.symm hstored' hrenewed' htracks' (iff_of_true rfl hready)
            (fun _ => hsettled) (hgateway'.trans hgateway) (hcalls'.trans hcalls)
        · exact .failed hne fun hs => .inl (h (hunopposed (hstore₁ ▸ hs)))
      · rw [if_neg hready]
        exact .looked houtcome.symm hstored hrenewed htracks (iff_of_false (by simp) hready)
          (absurd · hready) hgateway hcalls
    · intro e s₂ trail₂ h
      exact .failed (by simp) fun hs => .inl (h (hstore₁ ▸ hs))

/-! ## Where a pass is done -/

/-- If a pass ends done, nothing is left to do for what is then stored. -/
def Settles (c : Config) (ns name : String) (outcome : Except Error Directive)
    (s' : Scene) : Prop :=
  outcome = .ok .done → ∀ r, s'.store.objects.get? (ns, name) = some r → Finished c r

lemma Unfinished.settles {p : Pass Error Directive} (h : Unfinished p) :
    p.Ensures (fun outcome s' _ => Settles c ns name outcome s') s trail :=
  (h s trail).weaken fun _ _ _ hne hdone => absurd hdone hne

/-- A resource from which the finalizer has been detached is let go. -/
lemma finished_of_detached {written : Resource} {store store' : Store.InMemory}
    (h : store.FinalizersWritten store' r (r.finalizers.filter (· ≠ finalizer)) r written)
    (hdel : r.isBeingDeleted) (hr' : store'.objects.get? (Store.location r) = some r') :
    Finished c r' := by
  rw [h.get?, if_pos rfl] at hr'
  split at hr'
  · cases hr'
  · obtain rfl := Option.some.inj hr'
    refine .released ?_ ?_
    · rw [h.result]
      exact hdel
    · rw [h.result]
      simp [Resource.hasFinalizer, Resource.finalizers, Store.InMemory.stamped,
        Store.InMemory.withFinalizers]

lemma settles_removeFinalizer (hplace : Store.location r = (ns, name))
    (hr : s.store.objects.get? (ns, name) = some r) (hdel : r.isBeingDeleted) :
    (removeFinalizer r key).Ensures (fun outcome s' _ => Settles c ns name outcome s') s trail := by
  have hwrite : (Pass.store (.replaceFinalizers r (r.finalizers.filter (· ≠ finalizer)))).Ensures
      (fun outcome s₁ _ => ∀ written, outcome = .ok written →
        ∀ r', s₁.store.objects.get? (ns, name) = some r' → Finished c r') s trail := by
    refine Pass.ensures_store fun written hok r' hr' => ?_
    have hok : (s.store.replaceFinalizers r (r.finalizers.filter (· ≠ finalizer))).1 =
        .ok written := hok
    obtain ⟨-, e, herror⟩ | ⟨_, -, hwritten⟩ :=
      Store.InMemory.replaceFinalizers_stored (hplace ▸ hr)
        (r.finalizers.filter (· ≠ finalizer))
    · cases hok.symm.trans herror
    · rw [← hplace] at hr'
      exact finished_of_detached hwritten hdel hr'
  refine Pass.ensures_ofStore hwrite ?_ fun _ _ _ _ hdone => nomatch hdone
  intro written s₁ trail₁ hfinished
  refine Pass.ensures_idle rfl fun _ s₂ hstore _ => ?_
  intro _ r' hr'
  rw [hstore] at hr'
  exact hfinished written rfl r' hr'

lemma settles_deleteRecorded (hplace : Store.location r = (ns, name))
    (hr : s.store.objects.get? (ns, name) = some r) (hdel : r.isBeingDeleted)
    (gatewayId targetId : String) :
    (deleteRecorded c r gatewayId targetId key).Ensures
      (fun outcome s' _ => Settles c ns name outcome s') s trail := by
  have hcall : (deleteTarget c.policy gatewayId targetId).Ensures
      (fun _ s₁ _ => s₁.store = s.store) s trail :=
    ensures_repeatCall c.policy (.delete gatewayId targetId) ..
  refine Pass.ensures_lift hcall fun outcome s₁ trail₁ hstore => ?_
  cases outcome with
  | ok reply =>
    refine Pass.ensures_idle rfl fun _ s₂ hstore₂ _ => ?_
    refine settles_removeFinalizer hplace ?_ hdel
    rw [hstore₂, hstore, hr]
  | error e => exact (unfinished_afterFailure (unfinished_backOff key)).settles

lemma settles_deleteStep (hplace : Store.location r = (ns, name))
    (hr : s.store.objects.get? (ns, name) = some r) (hdel : r.isBeingDeleted) :
    (deleteStep c r key).Ensures (fun outcome s' _ => Settles c ns name outcome s') s trail := by
  refine deleteStep_cases
    (motive := fun p => p.Ensures (fun outcome s' _ => Settles c ns name outcome s') s trail)
    ?resigned (fun _ _ => settles_removeFinalizer hplace hr hdel)
    (fun _ _ _ => Unfinished.settles (.pure nofun))
    fun _ _ _ => settles_deleteRecorded hplace hr hdel _ _
  case resigned =>
    intro hfin _ r' hr'
    obtain rfl := Option.some.inj (hr.symm.trans hr')
    exact .released hdel hfin

lemma settles_advance (hplace : Store.location r = (ns, name))
    (hr : s.store.objects.get? (ns, name) = some r) (hdel : r.isBeingDeleted = false)
    (hv : validate c.defaultGateway r = .ok v) (hfin : r.hasFinalizer finalizer) :
    (advance c r v key).Ensures (fun outcome s' _ => Settles c ns name outcome s') s trail := by
  refine advance_cases
    (motive := fun p => p.Ensures (fun outcome s' _ => Settles c ns name outcome s') s trail)
    (fun _ => (unfinished_createStep c r v key).settles)
    (fun _ _ => (unfinished_updateStep c r v _ key).settles) ?settled ?poll
  case settled =>
    intro targetId hrec hgen hsettled
    refine Pass.ensures_idle rfl fun _ s₁ hstore _ => ?_
    intro _ r' hr'
    rw [hstore] at hr'
    obtain rfl := Option.some.inj (hr.symm.trans hr')
    exact .announced hdel hv hfin ⟨hrec, hgen⟩ hsettled
  case poll =>
    intro targetId hrec _ _
    refine (ensures_pollStep (hplace ▸ hr) hrec).weaken fun outcome s' trail' hlooked => ?_
    intro hdone r' hr'
    cases hlooked with
    | failed hne _ => exact absurd hdone hne
    | looked _ hstored hrenewed htracks hready hsettled _ _ =>
      rw [hplace] at hstored
      obtain rfl := Option.some.inj (hstored.symm.trans hr')
      exact .announced (hrenewed.deletion.trans hdel) ((hrenewed.validate _).trans hv)
        (hrenewed.guard hfin) htracks (hsettled (hready.mp (Except.ok.inj hdone)))

lemma settles_reconcileCopy (hplace : Store.location r = (ns, name))
    (hr : s.store.objects.get? (ns, name) = some r) :
    (reconcileCopy c r key).Ensures (fun outcome s' _ => Settles c ns name outcome s') s
      trail := by
  refine reconcileCopy_cases
    (motive := fun p => p.Ensures (fun outcome s' _ => Settles c ns name outcome s') s trail)
    (settles_deleteStep hplace hr) (fun _ _ => Unfinished.settles (.bind fun _ => .pure nofun))
    (settles_advance hplace hr) ?unguarded
  case unguarded =>
    intro v hdel hv _
    refine Pass.ensures_bind (ensures_addFinalizer (hplace ▸ hr)) ?_
      fun _ _ _ _ hdone => nomatch hdone
    intro r₁ s₁ trail₁ hattached
    cases hattached with
    | attached hstored hrenewed _ hguarded _ _ =>
      rw [hplace] at hstored
      exact settles_advance (hrenewed.location.trans hplace) hstored
        (hrenewed.deletion.trans hdel) ((hrenewed.validate _).trans hv) hguarded

/-! ## The fixpoint -/

/-- Where a pass is done, what is stored is finished. -/
lemma reconcile_settles
    (hplaced : ∀ r, s.store.objects.get? (ns, name) = some r → Store.location r = (ns, name)) :
    (reconcile c ns name).Ensures (fun outcome s' _ => Settles c ns name outcome s') s trail := by
  refine ensures_reconcile ?_ ?_
  · intro hnone outcome s' trail' hrested _ r hr
    rw [hrested.store, hnone] at hr
    cases hr
  · intro r trail' hr _ _
    refine (settles_reconcileCopy (hplaced r hr) hr).weaken fun outcome s' _ hsettles hdone => ?_
    exact hsettles (surface_eq_done hdone)

/-- Where what is stored is finished, a pass has nothing to do. -/
lemma reconcile_rests
    (hfinished : ∀ r, s.store.objects.get? (ns, name) = some r → Finished c r) :
    (reconcile c ns name).Ensures (Rested s trail) s trail := by
  refine ensures_reconcile ?_ ?_
  · intro _ outcome s' trail' hrested
    exact hrested
  · intro r trail₁ hr hcalls hwrites
    refine (hfinished r hr).ensures_rested.weaken ?_
    rintro _ s' trail' ⟨rfl, hstore, hgateway, huncalled, hunwritten⟩
    exact ⟨rfl, hstore, hgateway, huncalled.trans hcalls, hunwritten.trans hwrites⟩

/-- After a pass that nobody disturbs and that ends done, a further pass ends done again.  It calls
no gateway, writes nothing, and leaves the store with every version in it as it is.  The first pass
may meet pending conflicts and errors, and its store may hold anything, as long as the resource in
the place belongs there.  In between, nothing has changed in the content of the store; but any
conflicts may be pending by then, and the gateway and the accounts of failures may be in any
state. -/
theorem done_is_fixpoint {s₁ s₂ : Scene}
    (hplaced : ∀ r, s.store.current ns name = some r → Store.location r = (ns, name))
    (hdone : Play (reconcile c ns name).run s (.done (.ok .done)) s₁ trail)
    (hsame : s₁.store.SameContent s₂.store) :
    (∃ s₃ trail', Play (reconcile c ns name).run s₂ (.done (.ok .done)) s₃ trail') ∧
      ∀ outcome s₃ trail', Play (reconcile c ns name).run s₂ (.done outcome) s₃ trail' →
        outcome = .ok .done ∧ calls trail' = [] ∧ writes trail' = [] ∧ s₃.store = s₂.store ∧
          s₃.gateway = s₂.gateway := by
  have hsettles : Settles c ns name (.ok .done) s₁ := hdone.ensured (reconcile_settles hplaced)
  have hfinished : ∀ r, s₂.store.objects.get? (ns, name) = some r → Finished c r := by
    intro r hr
    rw [hsame.objects] at hr
    exact hsettles rfl r hr
  have hrests : ∀ outcome s₃ trail', Play (reconcile c ns name).run s₂ (.done outcome) s₃ trail' →
      Rested s₂ [] outcome s₃ trail' := fun _ _ _ h => h.ensured (reconcile_rests hfinished)
  constructor
  · obtain ⟨outcome, s₃, trail', h⟩ := exists_play (reconcile c ns name).run s₂
    obtain rfl := (hrests _ _ _ h).done
    exact ⟨s₃, trail', h⟩
  · intro outcome s₃ trail' h
    obtain ⟨hdone', hstore, hgateway, huncalled, hunwritten⟩ := hrests _ _ _ h
    exact ⟨hdone', huncalled, hunwritten, hstore, hgateway⟩

/-- The scene in which a registered target can be used, which has not been announced. -/
def sampleReadyScene : Scene where
  store := sampleRegisteredStore
  gateway := ({} : Gateway.InMemory).place "gw" "target-1" targetReady

/-- A pass that sees the target ready ends done there, and so does the next one, with another writer
and an error of the gateway pending. -/
theorem done_again_after_announcing :
    ∃ (s₁ s₂ : Scene) (trail : List Exchange),
      (∀ r, sampleReadyScene.store.current "tools" "files" = some r →
        Store.location r = ("tools", "files")) ∧
      Play (reconcile sampleConfig "tools" "files").run sampleReadyScene (.done (.ok .done)) s₁
        trail ∧
      s₁.store.SameContent s₂.store ∧ 0 < s₂.store.statusConflicts ∧ s₂.gateway.scripted ≠ [] ∧
      (∃ s₃ trail', Play (reconcile sampleConfig "tools" "files").run s₂ (.done (.ok .done)) s₃
        trail') ∧
      ∀ outcome s₃ trail', Play (reconcile sampleConfig "tools" "files").run s₂ (.done outcome) s₃
          trail' → outcome = .ok .done ∧ calls trail' = [] ∧ writes trail' = [] ∧
        s₃.store = s₂.store ∧ s₃.gateway = s₂.gateway := by
  have hplaced : ∀ r, sampleReadyScene.store.current "tools" "files" = some r →
      Store.location r = ("tools", "files") := by
    intro r hr
    obtain rfl : sampleRegisteredStored = r := Option.some.inj hr
    rfl
  have hstart : Play (reconcile sampleConfig "tools" "files").run sampleReadyScene _ _ _ := .start
  have hopened := hstart.asked (q := .isCancelled) false ⟨rfl, rfl⟩
  have hread := hopened.asked (q := .store (.get "tools" "files")) _ ⟨rfl, rfl⟩
  have hlooked := hread.asked (q := .gateway (.get "gw" "target-1")) _ ⟨0, rfl, rfl⟩
  have hcounted := hlooked.asked (q := .countCall .get true) () rfl
  have hfetched := hcounted.asked (q := .store (.get "tools" "files")) _ ⟨rfl, rfl⟩
  have htimed := hfetched.asked (q := .now) Store.deletionInstant rfl
  have hrecorded := htimed.asked (q := .store (.replaceStatus ..)) _ ⟨rfl, rfl⟩
  have hsucceeded := hrecorded.asked (q := .succeed "tools/files") () rfl
  have hbegan := hsucceeded.asked (q := .now) Store.deletionInstant rfl
  have hfetched' := hbegan.asked (q := .store (.get "tools" "files")) _ ⟨rfl, rfl⟩
  have htimed' := hfetched'.asked (q := .now) Store.deletionInstant rfl
  have hannounced := htimed'.asked (q := .store (.replaceStatus ..)) _ ⟨rfl, rfl⟩
  obtain ⟨s₁, trail, hdone⟩ : ∃ s₁ trail, Play (reconcile sampleConfig "tools" "files").run
      sampleReadyScene (.done (.ok .done)) s₁ trail := ⟨_, _, hannounced⟩
  let s₂ : Scene :=
    { s₁ with
      store := s₁.store.injectStatusConflicts 1
      gateway := s₁.gateway.failNext .get (.transport "reset") }
  have hsame : s₁.store.SameContent s₂.store := ⟨rfl, rfl⟩
  have hpending : s₂.gateway.scripted ≠ [] := List.append_ne_nil_of_right_ne_nil _ nofun
  exact ⟨s₁, s₂, trail, hplaced, hdone, hsame, Nat.one_pos, hpending,
    done_is_fixpoint hplaced hdone hsame⟩

end TargetRegistrar.Controller
