import TargetRegistrar.Proofs.Controller.Fixpoint
import TargetRegistrar.Proofs.Controller.Footprint

/-!
# Failures, and how they are announced

The calls of an operation end in certain ways, the last one first in `failures`, and how they end
determines how many there are and what the operation reports (`Operated`).  So an operation whose
calls end in the same ways as before, for as long as there are any, makes as many of them as before
(`Over.eq_of_concur`) and fails with the same message.

Such a message is announced in the condition on readiness.  To announce it puts that condition with
the present time, but a condition that is put again keeps the time of its last transition
(`Condition.set_again`).  So a failure that has been announced changes nothing when it is announced
again (`announced_of_written`), and a status that a change leaves as it is is not written.
-/

namespace TargetRegistrar

/-- To put a condition again changes nothing, whatever time it is. -/
lemma Condition.set_again (new : Condition) (time : Timestamp) (cs : List Condition) :
    Condition.set { new with lastTransition := time } (Condition.set new cs) =
      Condition.set new cs := by
  induction cs with
  | nil => simp [Condition.set, Condition.succeeding]
  | cons old cs ih =>
    by_cases hold : old.type = new.type
    · have hagain : Condition.succeeding (Condition.succeeding old new)
          { new with lastTransition := time } = Condition.succeeding old new := by
        unfold Condition.succeeding
        by_cases hverdict : old.verdict = new.verdict
        · simp [hverdict]
        · simp [hverdict]
      simp [Condition.set, hold, hagain]
    · simp [Condition.set, hold, ih]

namespace Controller

open Gateway Registration

/-! ## What a trail tells of failures -/

/-- The store refused a request. -/
def Exchange.isRefused : Exchange → Bool
  | ⟨.store _, .error _, _⟩ => true
  | _ => false

/-- The store refused nothing. -/
def Unrefused (trail : List Exchange) : Prop :=
  ∀ x ∈ trail, x.isRefused = false

instance (trail : List Exchange) : Decidable (Unrefused trail) :=
  inferInstanceAs (Decidable (∀ x ∈ trail, x.isRefused = false))

/-- The failure, if it is one. -/
def failureOf {α : Type} : Except Gateway.Error α → Option Gateway.Error
  | .ok _ => none
  | .error e => some e

/-- How a call ended in the eyes of its operation: the failure, if it was one. -/
def Exchange.failure? : Exchange → Option (Option Gateway.Error)
  | ⟨.gateway _, .cancelled, _⟩ => some (some .cancelled)
  | ⟨.gateway call, .finished outcome, _⟩ => some (failureOf (settle call outcome))
  | _ => none

/-- How the calls of a trail ended, the last one first. -/
def failures (trail : List Exchange) : List (Option Gateway.Error) :=
  trail.filterMap Exchange.failure?

section Trails

variable {α : Type} {q : Query} {answer : q.Answer} {before : Store.InMemory}
  {s s' : Scene} {trail trail' : List Exchange}

lemma Unrefused.of_cons {x : Exchange} (h : Unrefused (x :: trail)) : Unrefused trail :=
  fun y hy => h y (List.mem_cons_of_mem x hy)

lemma failures_quiet (hq : q.isQuiet) :
    failures (⟨q, answer, before⟩ :: trail) = failures trail := by
  cases q with
  | gateway call => cases hq
  | _ => rfl

/-- Without calls there are no failures. -/
lemma failures_of_uncalled (h : calls trail = []) : failures trail = [] := by
  rw [failures, List.filterMap_eq_nil_iff]
  rintro ⟨q, answer, before⟩ hx
  have hnone := List.filterMap_eq_nil_iff.mp h _ hx
  cases q with
  | gateway call => cases hnone
  | _ => rfl

/-- A program that makes no call leaves the failures as they are. -/
lemma Program.Quiet.ensures_failures {p : Program α} (hp : p.Quiet) :
    p.Ensures (fun _ _ trail' => failures trail' = failures trail) s trail :=
  .of_asks hp (fun hq _ h => (failures_quiet hq).trans h) rfl

/-- What has been refused stays refused. -/
lemma ensures_refused {p : Program α} (h : ¬ Unrefused trail) :
    p.Ensures (fun _ _ trail' => ¬ Unrefused trail') s trail := by
  induction p generalizing s trail with
  | done a => exact h
  | ask q next ih => exact fun answer s' _ => ih answer fun h' => h h'.of_cons

/-- A request is no call, and where it ends in an error it has been refused. -/
lemma ensures_store_told (request : Store.Request) :
    (Pass.ofStore (Pass.store request)).Ensures (fun outcome _ trail' =>
      failures trail' = failures trail ∧ ∀ e, outcome = .error e → ¬ Unrefused trail') s trail := by
  rintro (e | reply) s' -
  · exact ⟨rfl, fun _ _ hunrefused => nomatch hunrefused _ List.mem_cons_self⟩
  · exact ⟨rfl, fun _ herror => nomatch herror⟩

/-- Nothing is written, and no call is made. -/
structure Idled (s : Scene) (trail : List Exchange) (s' : Scene) (trail' : List Exchange) :
    Prop where
  store : s'.store = s.store
  writes : writes trail' = writes trail
  failures : failures trail' = failures trail
  later : trail <:+ trail'

lemma Idled.refl (s : Scene) (trail : List Exchange) : Idled s trail s trail :=
  ⟨rfl, rfl, rfl, List.suffix_rfl⟩

lemma Idled.trans {s₁ : Scene} {trail₁ : List Exchange} (h : Idled s trail s₁ trail₁)
    (h' : Idled s₁ trail₁ s' trail') : Idled s trail s' trail' :=
  ⟨h'.store.trans h.store, h'.writes.trans h.writes, h'.failures.trans h.failures,
    h.later.trans h'.later⟩

lemma Idled.asked (hq : q.isIdle) (ha : s.Answers q answer s') :
    Idled s trail s' (⟨q, answer, s.store⟩ :: trail) :=
  ⟨(ha.idle hq).1, writes_idle hq, failures_quiet (Query.isQuiet_of_isIdle hq),
    List.suffix_cons ..⟩

/-- A program that asks neither store nor gateway changes nothing. -/
lemma Program.Asks.ensures_idled {p : Program α} (hp : p.Asks fun q => q.isIdle) :
    p.Ensures (fun _ s' trail' => Idled s trail s' trail') s trail :=
  .of_asks hp (fun hq ha h => h.trans (.asked hq ha)) (.refl s trail)

end Trails

/-! ## Operations that fail -/

/-- The failure of an operation whose calls ended in a way, the last one first. -/
def operationFailure (operation : Operation) :
    List (Option Gateway.Error) → Option Gateway.Error
  | some e :: earlier =>
    some (if e.isRetryable then .retriesExhausted operation.name (earlier.length + 1) e else e)
  | _ => none

/-- An operation makes its call once more after its calls so far have ended in certain ways. -/
def Repeats (policy : RetryPolicy) : List (Option Gateway.Error) → Prop
  | [] => True
  | none :: _ => False
  | some e :: earlier => e.isRetryable ∧ earlier.length < policy.maxRetries

/-- Calls have been made for as long as there was reason to make them. -/
structure Over (again : List (Option Gateway.Error) → Prop) (ends : List (Option Gateway.Error)) :
    Prop where
  stopped : ¬ again ends
  went : ∀ earlier, earlier <:+ ends → earlier ≠ ends → again earlier

lemma Over.cons {again : List (Option Gateway.Error) → Prop} {ends : List (Option Gateway.Error)}
    {last : Option Gateway.Error} (hstopped : ¬ again (last :: ends))
    (hwent : ∀ earlier, earlier <:+ ends → again earlier) : Over again (last :: ends) := by
  refine ⟨hstopped, fun earlier hsuffix hne => ?_⟩
  exact hwent earlier ((List.suffix_cons_iff.mp hsuffix).resolve_left hne)

/-- Two operations meet the same ends of their calls, the last one first, for as long as both go
on. -/
def Concur (ends ends' : List (Option Gateway.Error)) : Prop :=
  ends <:+ ends' ∨ ends' <:+ ends

/-- Calls that end in the same ways go on for equally long. -/
lemma Over.eq_of_concur {again : List (Option Gateway.Error) → Prop}
    {ends ends' : List (Option Gateway.Error)} (h : Over again ends) (h' : Over again ends')
    (hconcur : Concur ends ends') : ends' = ends := by
  by_contra hne
  obtain hsuffix | hsuffix := hconcur
  · exact h.stopped (h'.went ends hsuffix (Ne.symm hne))
  · exact h'.stopped (h.went ends' hsuffix hne)

/-- What the ends of its calls say of an operation. -/
def Accounts {α : Type} (operation : Operation) (ends : List (Option Gateway.Error)) :
    Except Gateway.Error α → Prop
  | .ok _ => ends.head? = some none
  | .error e => operationFailure operation ends = some e

section Operations

variable {s s' : Scene} {trail trail' : List Exchange}

/-- An operation has ended, and it has written nothing. -/
structure Operated {α : Type} (policy : RetryPolicy) (operation : Operation) (s : Scene)
    (trail : List Exchange) (outcome : Except Gateway.Error α) (s' : Scene)
    (trail' : List Exchange) : Prop where
  store : s'.store = s.store
  writes : writes trail' = writes trail
  ends : Accounts operation (failures trail') outcome
  spent : Over (Repeats policy) (failures trail')

/-- An operation has made some calls, and it can make one more and then repeat it. -/
structure Repeating (policy : RetryPolicy) (left made : Nat) (ends : List (Option Gateway.Error)) :
    Prop where
  length : ends.length = made
  left : made + left = policy.maxRetries
  went : ∀ earlier, earlier <:+ ends → Repeats policy earlier

lemma Repeating.start (policy : RetryPolicy) : Repeating policy policy.maxRetries 0 [] where
  length := rfl
  left := Nat.zero_add _
  went earlier hsuffix := by
    rw [List.suffix_nil.mp hsuffix]
    trivial

lemma Repeating.again {policy : RetryPolicy} {left made : Nat} {e : Gateway.Error}
    {ends : List (Option Gateway.Error)} (h : Repeating policy (left + 1) made ends)
    (hretry : e.isRetryable) : Repeating policy left (made + 1) (some e :: ends) where
  length := congrArg Nat.succ h.length
  left := by rw [← h.left]; omega
  went earlier hsuffix := by
    obtain rfl | hsuffix := List.suffix_cons_iff.mp hsuffix
    · have hlength := h.length
      have hleft := h.left
      exact ⟨hretry, by omega⟩
    · exact h.went earlier hsuffix

lemma Repeating.spent {policy : RetryPolicy} {left made : Nat} {last : Option Gateway.Error}
    {ends : List (Option Gateway.Error)} (h : Repeating policy left made ends)
    (hlast : ∀ e, last = some e → e.isRetryable → left = 0) :
    Over (Repeats policy) (last :: ends) := by
  refine .cons ?_ h.went
  cases last with
  | none => exact id
  | some e =>
    rintro ⟨hretry, hlt⟩
    have hleft := h.left
    rw [hlast e rfl hretry, ← h.length] at hleft
    omega

/-- A call that is made once writes nothing. -/
lemma ensures_called (call : Call) :
    (callOnce call).Ensures (fun outcome s' trail' => s'.store = s.store ∧
      writes trail' = writes trail ∧ failures trail' = failureOf outcome :: failures trail) s
      trail :=
  ensures_callOnce fun _ => ⟨rfl, rfl, rfl⟩

lemma operated_of_ok {α : Type} {policy : RetryPolicy} {left made : Nat} {operation : Operation}
    {reply : α} (h : Repeating policy left made (failures trail)) (hstore : s'.store = s.store)
    (hwrites : writes trail' = writes trail) (hends : failures trail' = none :: failures trail) :
    Operated policy operation s trail (.ok reply) s' trail' := by
  refine ⟨hstore, hwrites, ?_, ?_⟩
  · rw [hends]
    rfl
  · rw [hends]
    exact h.spent nofun

/-- The ends of its calls determine the failure of an operation. -/
lemma ensures_operated_repeatCall {policy : RetryPolicy} {left made : Nat} (call : Call)
    (backoff : Duration) (h : Repeating policy left made (failures trail)) :
    (repeatCall policy call left made backoff).Ensures (Operated policy call.operation s trail) s
      trail := by
  -- `Repeating` carries the induction over the repetitions that are left.
  induction left generalizing s trail made backoff with
  | zero =>
    refine Program.Ensures.bind ((ensures_called call).weaken ?_)
    rintro (e | reply) s₁ trail₁ ⟨hstore, hwrites, hends⟩
    · refine ⟨hstore, hwrites, ?_, ?_⟩
      · rw [hends, ← h.length]
        rfl
      · rw [hends]
        exact h.spent fun _ _ _ => rfl
    · exact operated_of_ok h hstore hwrites hends
  | succ left ih =>
    refine Program.Ensures.bind ((ensures_called call).weaken ?_)
    rintro (e | reply) s₁ trail₁ ⟨hstore, hwrites, hends⟩
    · by_cases hretry : e.isRetryable = true
      · simp only [hretry, if_true]
        intro waited s₂ ha
        obtain ⟨rfl, rfl⟩ := ha
        refine (ih _ ?_).weaken fun _ _ _ h =>
          ⟨h.store.trans hstore, h.writes.trans hwrites, h.ends, h.spent⟩
        rw [failures_quiet rfl, hends]
        exact h.again hretry
      · simp only [hretry]
        refine ⟨hstore, hwrites, ?_, ?_⟩
        · rw [hends]
          simp [Accounts, operationFailure, failureOf, hretry]
        · rw [hends]
          refine h.spent fun e' he' hretry' => ?_
          cases he'
          exact absurd hretry' hretry
    · exact operated_of_ok h hstore hwrites hends

lemma ensures_operated_callRetrying (policy : RetryPolicy) (call : Call)
    (hcalls : failures trail = []) :
    (callRetrying policy call).Ensures (Operated policy call.operation s trail) s trail :=
  ensures_operated_repeatCall call _ (hcalls ▸ .start policy)

lemma ensures_operated_createTarget (policy : RetryPolicy) (request : CreateRequest)
    (hcalls : failures trail = []) :
    (createTarget policy request).Ensures (Operated policy .create s trail) s trail := by
  unfold createTarget
  cases request.clientToken with
  | some token => exact ensures_operated_callRetrying policy (.create request) hcalls
  | none =>
    rintro token s₁ ⟨-, rfl⟩
    have hdrawn : failures (⟨.freshToken, token, s₁.store⟩ :: trail) = [] := hcalls
    refine (ensures_operated_callRetrying policy (.create _) hdrawn).weaken fun _ _ _ h => ?_
    exact ⟨h.store, h.writes, h.ends, h.spent⟩

end Operations

/-! ## Announcing a failure -/

section Announcing

variable {r r' : Resource} {change : StatusChange} {reason message : String} {s s' : Scene}
  {trail trail' : List Exchange}

/-- The condition that a failure is announced with. -/
def failureCondition (r : Resource) (reason message : String) (began : Timestamp) : Condition :=
  ⟨Condition.readyType, .fails, reason, message, began, r.metadata.generation⟩

/-- To announce the failure changes nothing, whatever time it is. -/
def Announced (r : Resource) (reason message : String) : Prop :=
  Unplaced r ∨ ∀ began now, r.status =
    some ((StatusChange.condition (failureCondition r reason message began)).applyTo now r)

/-- What has been announced changes nothing when it is announced again. -/
lemma announced_of_written {began now : Timestamp}
    (hstatus : r'.status = some ((StatusChange.condition
      (failureCondition r reason message began)).applyTo now r))
    (hgen : r'.metadata.generation = r.metadata.generation) : Announced r' reason message := by
  refine .inr fun began' now' => ?_
  have hcondition : failureCondition r' reason message began' =
      { failureCondition r reason message began with lastTransition := began' } := by
    simp [failureCondition, hgen]
  rw [hcondition, StatusChange.applyTo, hstatus]
  simp only [Option.getD_some, StatusChange.apply, StatusChange.applyTo, Condition.set_again]

/-- A change that changes nothing is not written. -/
lemma ensures_writeLatest_idled {ns name key : String}
    {refused : Store.Error → Pass Store.Error Resource} (hplace : Store.location r = (ns, name))
    (hr : s.store.objects.get? (ns, name) = some r)
    (hsame : ∀ now, r.status = some (change.applyTo now r)) :
    (writeLatest ns name key change refused).Ensures
      (fun _ s' trail' => Idled s trail s' trail') s trail := by
  refine ensures_writeLatest_of hplace hr ?_ ?_ ?_
  · intro now _
    exact ⟨rfl, rfl, rfl, (List.suffix_cons ..).trans (List.suffix_cons ..)⟩
  · exact fun now _ _ hchanged => absurd (hsame now) hchanged
  · exact fun now _ _ hchanged => absurd (hsame now) hchanged

lemma ensures_applyChange_idled (hr : s.store.objects.get? (Store.location r) = some r)
    (hsame : Unplaced r ∨ ∀ now, r.status = some (change.applyTo now r)) :
    (applyChange r change).Ensures (fun _ s' trail' => Idled s trail s' trail') s trail := by
  refine ensures_applyChange_of (fun _ _ => .refl s trail) ?_
  intro ns name hplace hplaced
  exact ensures_writeLatest_idled hplace (hplace ▸ hr) (hsame.resolve_left hplaced)

/-- What has been announced is not announced again. -/
lemma ensures_setNotReady_idled (hr : s.store.objects.get? (Store.location r) = some r)
    (hannounced : Announced r reason message) :
    (setNotReady r reason message).Ensures (fun _ s' trail' => Idled s trail s' trail') s
      trail := by
  intro began s₁ htimed
  obtain rfl : s₁ = s := htimed
  have hsame := hannounced.imp_right fun h => h began
  refine Program.Ensures.weaken (ensures_applyChange_idled hr hsame) fun _ _ _ h => ?_
  exact (Idled.asked (q := .now) rfl rfl).trans h

/-! ### For the first time -/

/-- What a pass without refusals leaves of a resource whose status it has written. -/
def Restated (r : Resource) (change : StatusChange) (s' : Scene) (trail' : List Exchange) : Prop :=
  Unrefused trail' → ∃ r', s'.store.objects.get? (Store.location r) = some r' ∧ Renewed r r' ∧
    ((Unplaced r ∧ r' = r) ∨ ∃ now, r'.status = some (change.applyTo now r))

lemma ensures_writeLatest_restated {ns name key : String}
    {refused : Store.Error → Pass Store.Error Resource} (hplace : Store.location r = (ns, name))
    (hr : s.store.objects.get? (ns, name) = some r) :
    (writeLatest ns name key change refused).Ensures
      (fun _ s' trail' => Restated r change s' trail') s trail := by
  refine ensures_writeLatest_of hplace hr ?_ ?_ ?_
  · exact fun now hsame _ => ⟨r, hplace ▸ hr, .refl r, .inr ⟨now, hsame⟩⟩
  · intro now written s' _ _ hwritten _
    refine ⟨written, hwritten.get?_self, renewed_of_statusWritten hwritten, .inr ⟨now, ?_⟩⟩
    rw [hwritten.result]
    rfl
  · intro now e s' _ _ _ _
    refine (ensures_refused fun h => ?_).weaken fun _ _ _ h h' => absurd h' h
    cases h _ List.mem_cons_self

lemma ensures_applyChange_restated (hr : s.store.objects.get? (Store.location r) = some r) :
    (applyChange r change).Ensures (fun _ s' trail' => Restated r change s' trail') s trail := by
  refine ensures_applyChange_of (fun _ hunplaced _ => ?_) ?_
  · exact ⟨r, hr, .refl r, .inl ⟨hunplaced, rfl⟩⟩
  · intro ns name hplace _
    exact ensures_writeLatest_restated hplace (hplace ▸ hr)

/-- What decides on the work of a pass is the same in both. -/
structure Akin (r r' : Resource) : Prop extends Renewed r r' where
  recorded : r'.recordedTarget? = r.recordedTarget?
  observed : r'.observedGeneration = r.observedGeneration

lemma Akin.refl (r : Resource) : Akin r r := ⟨.refl r, rfl, rfl⟩

/-- After a pass without refusals a failure has been announced. -/
def Announces (r : Resource) (reason message : String) (s' : Scene) (trail' : List Exchange) :
    Prop :=
  Unrefused trail' → ∃ r', s'.store.objects.get? (Store.location r) = some r' ∧ Akin r r' ∧
    Announced r' reason message

lemma Announces.idled (h : Announces r reason message s trail)
    (hidled : Idled s trail s' trail') : Announces r reason message s' trail' := by
  intro hunrefused
  obtain ⟨r', hstored, hakin, hannounced⟩ :=
    h fun x hx => hunrefused x (hidled.later.subset hx)
  exact ⟨r', by rw [hidled.store, hstored], hakin, hannounced⟩

lemma ensures_setNotReady_announces (hr : s.store.objects.get? (Store.location r) = some r) :
    (setNotReady r reason message).Ensures
      (fun _ s' trail' => Announces r reason message s' trail') s trail := by
  intro began s₁ htimed
  obtain rfl : s₁ = s := htimed
  refine Program.Ensures.weaken (ensures_applyChange_restated hr) ?_
  rintro outcome s' trail' hrestated hunrefused
  obtain ⟨r', hstored, hrenewed, ⟨hunplaced, rfl⟩ | ⟨now, hstatus⟩⟩ := hrestated hunrefused
  · exact ⟨r', hstored, .refl r', .inl hunplaced⟩
  · have hrecorded : r'.recordedTarget? = r.recordedTarget? := recordedTarget?_written hstatus
    have hobserved : r'.observedGeneration = r.observedGeneration :=
      observedGeneration_written hstatus
    exact ⟨r', hstored, ⟨hrenewed, hrecorded, hobserved⟩,
      announced_of_written hstatus hrenewed.generation⟩

/-- A failure is announced, and then perhaps waited out. -/
lemma ensures_announces_then {α : Type} {p : Pass Error α} (hp : p.Asks fun q => q.isIdle)
    (hr : s.store.objects.get? (Store.location r) = some r) :
    (Pass.ofStore (setNotReady r reason message) >>= fun _ => p).Ensures
      (fun _ s' trail' => Announces r reason message s' trail') s trail := by
  refine Pass.ensures_ofStore (ensures_setNotReady_announces hr) ?_ ?_
  · intro written s₁ trail₁ hannounces
    exact hp.ensures_idled.weaken fun _ _ _ => hannounces.idled
  · exact fun _ _ _ hannounces => hannounces

/-- What has been announced is only waited out. -/
lemma ensures_idled_then {α : Type} {p : Pass Error α} (hp : p.Asks fun q => q.isIdle)
    (hr : s.store.objects.get? (Store.location r) = some r)
    (hannounced : Announced r reason message) :
    (Pass.ofStore (setNotReady r reason message) >>= fun _ => p).Ensures
      (fun _ s' trail' => Idled s trail s' trail') s trail := by
  refine Pass.ensures_ofStore (ensures_setNotReady_idled hr hannounced) ?_ ?_
  · intro written s₁ trail₁ hidled
    exact hp.ensures_idled.weaken fun _ _ _ => hidled.trans
  · exact fun _ _ _ hidled => hidled

end Announcing

end Controller

end TargetRegistrar
