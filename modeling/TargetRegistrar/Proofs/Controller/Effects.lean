import TargetRegistrar.Proofs.Controller.Undisturbed
import TargetRegistrar.Proofs.Gateway.Calls

/-!
# What the parts of a pass do to a scene

One lemma for each part: what it leaves in the place of the resource, and which calls it has made.
The store may be about to refuse writes and the gateway about to fail, since conflicts and errors
may be pending; without them (`Scene.Calm`) every part succeeds.
-/

namespace TargetRegistrar.Controller

open Gateway Registration

/-! ## Later versions of a resource -/

/-- What a pass keeps of a resource in all that it writes. -/
structure Renewed (r r' : Resource) : Prop where
  ns : r'.metadata.ns = r.metadata.ns
  name : r'.metadata.name = r.metadata.name
  uid : r'.metadata.uid = r.metadata.uid
  generation : r'.metadata.generation = r.metadata.generation
  deletion : r'.isBeingDeleted = r.isBeingDeleted
  spec : r'.spec = r.spec
  guard : r.hasFinalizer finalizer → r'.hasFinalizer finalizer

namespace Renewed

variable {r r' r'' : Resource}

lemma refl (r : Resource) : Renewed r r := ⟨rfl, rfl, rfl, rfl, rfl, rfl, id⟩

lemma trans (h : Renewed r r') (h' : Renewed r' r'') : Renewed r r'' where
  ns := h'.ns.trans h.ns
  name := h'.name.trans h.name
  uid := h'.uid.trans h.uid
  generation := h'.generation.trans h.generation
  deletion := h'.deletion.trans h.deletion
  spec := h'.spec.trans h.spec
  guard hfin := h'.guard (h.guard hfin)

lemma location (h : Renewed r r') : Store.location r' = Store.location r := by
  rw [Store.location, Store.location, h.ns, h.name]

lemma createToken (h : Renewed r r') : Controller.createToken r' = Controller.createToken r := by
  rw [Controller.createToken, Controller.createToken, h.uid, h.generation]

lemma validate (h : Renewed r r') (d : Option String) :
    Registration.validate d r' = Registration.validate d r :=
  validate_congr d h.spec h.name

end Renewed

/-! ## Scenes in which nothing is pending -/

/-- No conflict and no error is pending. -/
structure Scene.Calm (s : Scene) : Prop where
  store : s.store.Unopposed
  gateway : s.gateway.scripted = []

variable {s s' : Scene} {trail trail' : List Exchange}

lemma Scene.Answers.calm {q : Query} {answer : q.Answer} (hs : s.Calm)
    (h : s.Answers q answer s') : s'.Calm := by
  cases q with
  | store request =>
    obtain ⟨-, rfl⟩ := h
    exact ⟨hs.store.serve request, hs.gateway⟩
  | gateway call =>
    obtain ⟨time, -, rfl⟩ := h
    exact ⟨hs.store, Gateway.InMemory.serve_scripted hs.gateway time call⟩
  | _ =>
    obtain ⟨hstore, hgateway⟩ := h.idle rfl
    exact ⟨hstore ▸ hs.store, hgateway ▸ hs.gateway⟩

/-! ## Status writes -/

/-- What a change of status comes to: what was stored has been changed, or the write was refused,
for want of a place or because other writers are pending. -/
inductive Changed (copy r : Resource) (change : StatusChange) (s : Scene) (trail : List Exchange) :
    Except Store.Error Resource → Scene → List Exchange → Prop where
  | written {result r' : Resource} {s' : Scene} {trail' : List Exchange} (now : Timestamp)
      (hstored : s'.store.objects.get? (Store.location copy) = some r') (hrenewed : Renewed r r')
      (hstatus : r'.status = some (change.applyTo now r))
      (hunopposed : s.store.Unopposed → s'.store.Unopposed) (hgateway : s'.gateway = s.gateway)
      (hcalls : calls trail' = calls trail) : Changed copy r change s trail (.ok result) s' trail'
  | refused {e : Store.Error} {s' : Scene} {trail' : List Exchange}
      (h : s.store.Unopposed → copy.metadata.ns = none ∨ copy.metadata.name = none) :
      Changed copy r change s trail (.error e) s' trail'

variable {copy r : Resource} {change : StatusChange} {ns name : String}

/-- A change that is made after a refusal is a change all the same. -/
lemma Changed.of_refused {outcome : Except Store.Error Resource} {s₁ : Scene}
    {trail₁ : List Exchange} (hopposed : ¬ s.store.Unopposed) (hgateway : s₁.gateway = s.gateway)
    (hcalls : calls trail₁ = calls trail) (h : Changed copy r change s₁ trail₁ outcome s' trail') :
    Changed copy r change s trail outcome s' trail' := by
  cases h with
  | written now hstored hrenewed hstatus _ hgateway' hcalls' =>
    exact .written now hstored hrenewed hstatus (absurd · hopposed) (hgateway'.trans hgateway)
      (hcalls'.trans hcalls)
  | refused _ => exact .refused (absurd · hopposed)

lemma renewed_stamped (s : Store.InMemory) (r : Resource) (status : Status) :
    Renewed r (s.stamped (Store.InMemory.withStatus r status)) :=
  ⟨rfl, rfl, rfl, rfl, rfl, rfl, id⟩

/-- What a change of status has asked before it writes. -/
def beforeWriting (ns name : String) (r : Resource) (s : Scene) (now : Timestamp)
    (trail : List Exchange) : List Exchange :=
  ⟨.now, now, s.store⟩ :: ⟨.store (.get ns name), .ok (some r), s.store⟩ :: trail

/-- A change of status either finds nothing to change in what is stored, or it writes once, and the
write is accepted or refused. -/
lemma ensures_writeLatest_of {key : String} {refused : Store.Error → Pass Store.Error Resource}
    {post : Except Store.Error Resource → Scene → List Exchange → Prop}
    (hlocated : Store.location r = (ns, name)) (hr : s.store.objects.get? (ns, name) = some r)
    (hsame : ∀ now, r.status = some (change.applyTo now r) →
      post (.ok r) s (beforeWriting ns name r s now trail))
    (hwritten : ∀ now written s', r.status ≠ some (change.applyTo now r) →
      s.Answers (.store (.replaceStatus r (change.applyTo now r))) (.ok written) s' →
      s.store.StatusWritten s'.store r (change.applyTo now r) r written →
      post (.ok written) s' (⟨.store (.replaceStatus r (change.applyTo now r)), .ok written,
        s.store⟩ :: beforeWriting ns name r s now trail))
    (hrefused : ∀ now e s', r.status ≠ some (change.applyTo now r) →
      s.Answers (.store (.replaceStatus r (change.applyTo now r))) (.error e) s' →
      0 < s.store.statusConflicts → s.store.SameContent s'.store →
      (refused e).Ensures post s' (⟨.store (.replaceStatus r (change.applyTo now r)), .error e,
        s.store⟩ :: beforeWriting ns name r s now trail)) :
    (writeLatest ns name key change refused).Ensures post s trail := by
  intro outcome s₁ hfetched
  obtain ⟨houtcome, rfl⟩ := hfetched
  obtain rfl : outcome = .ok (some r) := houtcome.trans (congrArg Except.ok hr)
  intro now s₂ htimed
  obtain rfl : s₂ = s := htimed
  show Pass.Ensures post (if _ then pure r else _) s₂ _
  by_cases hunchanged : r.status = some (change.applyTo now r)
  · rw [if_pos hunchanged]
    exact hsame now hunchanged
  · rw [if_neg hunchanged]
    refine Pass.ensures_orElse (Pass.ensures_store ?_)
    obtain ⟨hconflict, ⟨e, herror⟩, hcontent⟩ | ⟨written, hok, hwritten'⟩ :=
      Store.InMemory.replaceStatus_stored (hlocated ▸ hr) (change.applyTo now r)
    · have hserved : (s₂.store.serve (.replaceStatus r (change.applyTo now r))).1 = .error e :=
        herror
      rw [hserved]
      exact hrefused now e _ hunchanged ⟨hserved.symm, rfl⟩ hconflict hcontent
    · have hserved : (s₂.store.serve (.replaceStatus r (change.applyTo now r))).1 = .ok written :=
        hok
      rw [hserved]
      exact hwritten now written _ hunchanged ⟨hserved.symm, rfl⟩ hwritten'

lemma renewed_of_statusWritten {store store' : Store.InMemory} {status : Status}
    {written : Resource} (h : store.StatusWritten store' r status r written) :
    Renewed r written := by
  rw [h.result]
  exact renewed_stamped ..

lemma ensures_writeLatest {key : String} {refused : Store.Error → Pass Store.Error Resource}
    (hplace : Store.location copy = (ns, name)) (hlocated : Store.location r = (ns, name))
    (hr : s.store.objects.get? (ns, name) = some r)
    (hrefused : ∀ e s' trail', ¬ s.store.Unopposed → s.store.SameContent s'.store →
      s'.gateway = s.gateway → calls trail' = calls trail →
      (refused e).Ensures (Changed copy r change s trail) s' trail') :
    (writeLatest ns name key change refused).Ensures (Changed copy r change s trail) s trail := by
  refine ensures_writeLatest_of hlocated hr ?_ ?_ ?_
  · intro now hsame
    exact .written now (hplace ▸ hr) (.refl r) hsame id rfl rfl
  · rintro now written s' - ⟨-, rfl⟩ hwritten
    have hstored := hwritten.get?_self
    rw [hlocated, ← hplace] at hstored
    refine .written now hstored (renewed_of_statusWritten hwritten) ?_ (·.serve _) rfl rfl
    rw [hwritten.result]
    rfl
  · rintro now e s' - ⟨-, rfl⟩ hconflict hcontent
    have hopposed : ¬ s.store.Unopposed := fun h => by
      have := h.status
      omega
    exact hrefused e _ _ hopposed hcontent rfl rfl

lemma ensures_writeChange {key : String} (hplace : Store.location copy = (ns, name))
    (hlocated : Store.location r = (ns, name)) (left : Nat)
    (hr : s.store.objects.get? (ns, name) = some r) :
    (writeChange ns name key change left).Ensures (Changed copy r change s trail) s trail := by
  induction left generalizing s trail with
  | zero =>
    refine ensures_writeLatest hplace hlocated hr ?_
    intro e s' trail' hopposed _ _ _
    exact .refused (absurd · hopposed)
  | succ left ih =>
    refine ensures_writeLatest hplace hlocated hr ?_
    intro e s' trail' hopposed hcontent hgateway hcalls
    by_cases hconflict : e.isConflict = true
    · rw [if_pos hconflict]
      have hr' : s'.store.objects.get? (ns, name) = some r := by rw [hcontent.objects, hr]
      exact (ih hr').weaken fun _ _ _ => .of_refused hopposed hgateway hcalls
    · rw [if_neg hconflict]
      exact .refused (absurd · hopposed)

/-- The resource does not say where it belongs, so that its status cannot be written. -/
def Unplaced (r : Resource) : Prop :=
  r.metadata.ns = none ∨ r.metadata.name = none

/-- A change of status is refused for want of a place, or it is made in that place. -/
lemma ensures_applyChange_of {post : Except Store.Error Resource → Scene → List Exchange → Prop}
    (hunplaced : ∀ e, Unplaced copy → post (.error e) s trail)
    (hplaced : ∀ ns name, Store.location copy = (ns, name) → ¬ Unplaced copy →
      (writeChange ns name copy.key change statusRetries).Ensures post s trail) :
    (applyChange copy change).Ensures post s trail := by
  unfold applyChange
  cases hns : copy.metadata.ns with
  | none => exact hunplaced _ (.inl hns)
  | some ns =>
    cases hname : copy.metadata.name with
    | none => exact hunplaced _ (.inr hname)
    | some name =>
      have hplace : Store.location copy = (ns, name) := by simp [Store.location, hns, hname]
      exact hplaced ns name hplace (by simp [Unplaced, hns, hname])

/-- A change of status is made to what is stored, whatever copy it is made for. -/
lemma ensures_applyChange (hr : s.store.objects.get? (Store.location copy) = some r)
    (hlocated : Store.location r = Store.location copy) :
    (applyChange copy change).Ensures (Changed copy r change s trail) s trail := by
  refine ensures_applyChange_of (fun _ hunplaced => .refused fun _ => hunplaced) ?_
  intro ns name hplace _
  exact ensures_writeChange hplace (hlocated.trans hplace) statusRetries (hplace ▸ hr)

/-- The condition that the target of a copy can be used. -/
def readyCondition (copy : Resource) (began : Timestamp) : Condition :=
  ⟨Condition.readyType, .holds, "GatewayTargetReady",
    "Gateway target is ready and accepting requests", began, copy.metadata.generation⟩

/-- Announcing that a target can be used is a change of status. -/
lemma ensures_setReady (hr : s.store.objects.get? (Store.location copy) = some r)
    (hlocated : Store.location r = Store.location copy) :
    (setReady copy).Ensures (fun outcome s' trail' => ∃ began,
      Changed copy r (.condition (readyCondition copy began)) s trail outcome s' trail') s
      trail := by
  intro began s₁ htimed
  obtain rfl : s₁ = s := htimed
  show (applyChange copy (.condition (readyCondition copy began))).Ensures _ s₁ _
  refine (ensures_applyChange hr hlocated).weaken fun outcome s' trail' hchanged => ⟨began, ?_⟩
  cases hchanged with
  | written now hstored hrenewed hstatus hunopposed hgateway hcalls =>
    exact .written now hstored hrenewed hstatus hunopposed hgateway hcalls
  | refused h => exact .refused h

/-- After a call that has succeeded, its result is recorded, and the pass goes on if that was
written. -/
lemma ensures_afterSuccess {post : Except Error Directive → Scene → List Exchange → Prop}
    {operation : Operation} {key : String} {next : Pass Error Directive}
    (hr : s.store.objects.get? (Store.location r) = some r)
    (hwritten : ∀ now r' s' trail', s'.store.objects.get? (Store.location r) = some r' →
      Renewed r r' → r'.status = some (change.applyTo now r) →
      (s.store.Unopposed → s'.store.Unopposed) → s'.gateway = s.gateway →
      calls trail' = calls trail → next.Ensures post s' trail')
    (hrefused : ∀ e s' trail',
      (s.store.Unopposed → r.metadata.ns = none ∨ r.metadata.name = none) →
      post (.error (.store e)) s' trail') :
    (afterSuccess operation r change key next).Ensures post s trail := by
  refine Pass.ensures_idle rfl fun _ s₁ hstore₁ hgateway₁ => ?_
  have hr₁ : s₁.store.objects.get? (Store.location r) = some r := by rw [hstore₁, hr]
  refine Pass.ensures_ofStore (ensures_applyChange hr₁ rfl) ?_ ?_
  · intro result s₂ trail₂ hchanged
    cases hchanged with
    | @written _ r' _ _ now hstored hrenewed hstatus hunopposed hgateway₂ hcalls =>
      refine Pass.ensures_idle rfl fun _ s₃ hstore₃ hgateway₃ => ?_
      refine hwritten now r' s₃ _ ?_ hrenewed hstatus ?_ ?_ hcalls
      · rw [hstore₃, hstored]
      · rw [hstore₃, ← hstore₁]
        exact hunopposed
      · rw [hgateway₃, hgateway₂, hgateway₁]
  · intro e s₂ trail₂ hchanged
    cases hchanged with
    | refused h => exact hrefused e s₂ trail₂ (hstore₁ ▸ h)

/-! ## Calls -/

lemma ensures_callOnce {call : Call} {post : call.Outcome → Scene → List Exchange → Prop}
    (h : ∀ time, post (settle call (s.gateway.serve time call).1)
      { s with gateway := (s.gateway.serve time call).2 }
      (⟨.gateway call, .finished (s.gateway.serve time call).1, s.store⟩ :: trail)) :
    (callOnce call).Ensures post s trail := by
  intro raced s' ha
  obtain ⟨time, rfl, rfl⟩ := ha
  exact h time

/-- However often a call is repeated, it leaves the store alone. -/
lemma ensures_repeatCall (policy : RetryPolicy) (call : Call) (left made : Nat)
    (backoff : Duration) :
    (repeatCall policy call left made backoff).Ensures (fun _ s' _ => s'.store = s.store) s
      trail := by
  induction left generalizing s trail made backoff with
  | zero =>
    refine Program.Ensures.bind (ensures_callOnce fun time => ?_)
    cases settle call (s.gateway.serve time call).1 with
    | ok reply => exact rfl
    | error e => exact rfl
  | succ left ih =>
    refine Program.Ensures.bind (ensures_callOnce fun time => ?_)
    cases settle call (s.gateway.serve time call).1 with
    | ok reply => exact rfl
    | error e =>
      by_cases hretry : e.isRetryable = true
      · simp only [hretry, if_true]
        intro waited s' ha
        obtain ⟨rfl, rfl⟩ := ha
        exact ih (s := { s with gateway := (s.gateway.serve time call).2 }) ..
      · simp only [hretry]
        exact rfl

/-- A call has been made once, and the gateway has accepted it. -/
def Accepted (call : Call) (s : Scene) (trail : List Exchange) (outcome : call.Outcome)
    (s' : Scene) (trail' : List Exchange) : Prop :=
  ∃ time reply, outcome = .ok reply ∧ (s.gateway.serve time call).1 = .ok reply ∧
    s'.store = s.store ∧ s'.gateway = (s.gateway.serve time call).2 ∧
    calls trail' = call :: calls trail

lemma settle_ok {call : Call} (reply : call.Reply) : settle call (.ok reply) = .ok reply := by
  cases call <;> rfl

lemma ensures_callOnce_accepted {call : Call}
    (h : ∀ time, ∃ reply, (s.gateway.serve time call).1 = .ok reply) :
    (callOnce call).Ensures (Accepted call s trail) s trail := by
  refine ensures_callOnce fun time => ?_
  obtain ⟨reply, hreply⟩ := h time
  refine ⟨time, reply, ?_, hreply, rfl, rfl, rfl⟩
  rw [hreply, settle_ok]

/-- A call that the gateway accepts is not repeated. -/
lemma ensures_repeatCall_accepted {call : Call} (policy : RetryPolicy) (left made : Nat)
    (backoff : Duration) (h : ∀ time, ∃ reply, (s.gateway.serve time call).1 = .ok reply) :
    (repeatCall policy call left made backoff).Ensures (Accepted call s trail) s trail := by
  cases left with
  | zero =>
    refine Program.Ensures.bind ((ensures_callOnce_accepted h).weaken ?_)
    rintro _ s' trail' ⟨time, reply, rfl, hrest⟩
    exact ⟨time, reply, rfl, hrest⟩
  | succ left =>
    refine Program.Ensures.bind ((ensures_callOnce_accepted h).weaken ?_)
    rintro _ s' trail' ⟨time, reply, rfl, hrest⟩
    exact ⟨time, reply, rfl, hrest⟩

/-! ## Finalizers -/

/-- What attaching the finalizer to what is stored comes to. -/
inductive Attached (r : Resource) (s : Scene) (trail : List Exchange) :
    Except Error Resource → Scene → List Exchange → Prop where
  | attached {r' : Resource} {s' : Scene} {trail' : List Exchange}
      (hstored : s'.store.objects.get? (Store.location r) = some r') (hrenewed : Renewed r r')
      (hstatus : r'.status = r.status) (hfin : r'.hasFinalizer finalizer)
      (hgateway : s'.gateway = s.gateway) (hcalls : calls trail' = calls trail) :
      Attached r s trail (.ok r') s' trail'
  | refused {e : Store.Error} {s' : Scene} {trail' : List Exchange}
      (h : ¬ s.store.Unopposed) : Attached r s trail (.error (.store e)) s' trail'

lemma ensures_addFinalizer (hr : s.store.objects.get? (Store.location r) = some r) :
    (addFinalizer r).Ensures (Attached r s trail) s trail := by
  refine Program.Ensures.bind (Pass.ensures_store ?_)
  obtain ⟨hconflict, e, herror⟩ | ⟨written, hok, hwritten⟩ :=
    Store.InMemory.replaceFinalizers_stored hr (r.finalizers ++ [finalizer])
  · have hserved : (s.store.serve (.replaceFinalizers r (r.finalizers ++ [finalizer]))).1 =
        .error e := herror
    rw [hserved]
    refine .refused fun hunopposed => ?_
    have := hunopposed.finalizers
    omega
  · have hserved : (s.store.serve (.replaceFinalizers r (r.finalizers ++ [finalizer]))).1 =
        .ok written := hok
    rw [hserved]
    have hfin : written.hasFinalizer finalizer := by
      rw [hwritten.result]
      simp [Resource.hasFinalizer, Resource.finalizers, Store.InMemory.stamped,
        Store.InMemory.withFinalizers]
    have hrenewed : Renewed r written := by
      refine ⟨?_, ?_, ?_, ?_, ?_, ?_, fun _ => hfin⟩ <;> rw [hwritten.result] <;> rfl
    have hstatus : written.status = r.status := by
      rw [hwritten.result]
      rfl
    exact .attached (hwritten.get?_self (by simp)) hrenewed hstatus hfin rfl rfl

end TargetRegistrar.Controller
