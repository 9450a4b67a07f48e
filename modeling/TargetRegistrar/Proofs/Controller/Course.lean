import Mathlib.Tactic.Common
import TargetRegistrar.Proofs.Controller.Footprint
import TargetRegistrar.Proofs.Registration.Requests

/-!
# The course of a pass

A pass is a program with many branches, but what it asks of the store and of the gateway depends on
little: the copy of the resource that it works on, what it has achieved so far, and the change of
status that is still to be written.  `Phase` is that knowledge, and `Moves` says which questions a
phase asks and which phase follows each answer.

The main statement is `reconcile_follows`: every pass, whatever it is answered, keeps to `Moves`.
What holds of a pass at each of its questions is then proved by cases on `Moves`, without looking at
the program again.
-/

namespace TargetRegistrar.Controller

open Gateway Registration

/-! ## Programs that keep to a relation -/

/-- The program asks only what `M` admits in the phase that it is in, for every answer there is a
next phase, and where it ends its value and phase are in `post`. -/
def Program.Follows {α P : Type} (M : P → (q : Query) → q.Answer → P → Prop)
    (post : α → P → Prop) : Program α → P → Prop
  | .done a, ph => post a ph
  | .ask q next, ph => ∀ answer, ∃ ph', M ph q answer ph' ∧ (next answer).Follows M post ph'

namespace Program

variable {α β P : Type} {M : P → (q : Query) → q.Answer → P → Prop}

lemma Follows.weaken {post post' : α → P → Prop} (h : ∀ a ph, post a ph → post' a ph) :
    ∀ {p : Program α} {ph : P}, p.Follows M post ph → p.Follows M post' ph := by
  intro p
  induction p with
  | done a => exact fun hp => h a _ hp
  | ask q next ih =>
    intro ph hp answer
    obtain ⟨ph', hM, hnext⟩ := hp answer
    exact ⟨ph', hM, ih answer hnext⟩

/-- A program that asks only what leaves its phase as it is stays in that phase. -/
lemma Asks.follows {Q : Query → Prop} {p : Program α} {ph : P} (hp : p.Asks Q)
    (hM : ∀ {q : Query} (answer : q.Answer), Q q → M ph q answer ph) :
    p.Follows M (fun _ ph' => ph' = ph) ph := by
  induction p with
  | done a => exact rfl
  | ask q next ih => exact fun answer => ⟨ph, hM answer hp.1, ih answer (hp.2 answer)⟩

lemma Follows.bind {post : β → P → Prop} {f : α → Program β} :
    ∀ {p : Program α} {ph : P}, p.Follows M (fun a ph' => (f a).Follows M post ph') ph →
      (p.bind f).Follows M post ph := by
  intro p
  induction p with
  | done a => exact fun hp => hp
  | ask q next ih =>
    intro ph hp answer
    obtain ⟨ph', hM, hnext⟩ := hp answer
    exact ⟨ph', hM, ih answer hnext⟩

end Program

/-! ## Phases -/

/-- How far a pass has come. -/
inductive Phase where
  /-- Nothing has been read. -/
  | opening
  /-- The copy is valid, but carries no finalizer yet. -/
  | unguarded (copy : Resource) (v : Validated)
  /-- The copy is valid and carries the finalizer. -/
  | guarded (copy : Resource) (v : Validated)
  /-- Nothing is left to do but to set conditions. -/
  | reporting (copy : Resource)
  /-- A change waits for the latest copy. -/
  | changing (copy : Resource) (change : StatusChange)
  /-- A change is to be written to the latest copy. -/
  | writing (copy : Resource) (change : StatusChange) (latest : Resource)
  /-- The target of a copy that is marked for deletion is to be deleted. -/
  | deleting (copy : Resource) (gatewayId targetId : String)
  /-- The finalizer may be detached. -/
  | released (copy : Resource)
  /-- Neither the store nor the gateway is asked anything more. -/
  | ended

/-- Whether a change reports what a call has returned. -/
def StatusChange.isRemote : StatusChange → Bool
  | condition _ => false
  | _ => true

namespace Phase

/-- The copy that a pass works on. -/
def subject? : Phase → Option Resource
  | opening => none
  | unguarded r _ => some r
  | guarded r _ => some r
  | reporting r => some r
  | changing r _ => some r
  | writing r _ _ => some r
  | deleting r _ _ => some r
  | released r => some r
  | ended => none

/-- The copy that a write is to be based on. -/
def basis? : Phase → Option Resource
  | unguarded r _ => some r
  | writing _ _ latest => some latest
  | deleting r _ _ => some r
  | released r => some r
  | _ => none

/-- The copy whose target is looked after: it carries the finalizer, and its status has not been
written. -/
def ward? : Phase → Option Resource
  | guarded r _ => some r
  | changing r change => if change.isRemote then some r else none
  | writing r change _ => if change.isRemote then some r else none
  | deleting r _ _ => some r
  | released r => some r
  | _ => none

/-- The copy of a pass and the change that is still to be written. -/
def pending? : Phase → Option (Resource × StatusChange)
  | changing r change => some (r, change)
  | writing r change _ => some (r, change)
  | _ => none

/-- The phase in which a copy is taken up. -/
inductive Begins (c : Config) (r : Resource) : Phase → Prop where
  | released (hdel : r.isBeingDeleted) (hfin : r.hasFinalizer finalizer)
      (hrec : r.recordedTarget? = none) : Begins c r (.released r)
  | deleting {gatewayId targetId : String} (hdel : r.isBeingDeleted)
      (hfin : r.hasFinalizer finalizer) (hrec : r.recordedTarget? = some targetId)
      (hgw : resolveGateway c.defaultGateway r.spec = .ok gatewayId) :
      Begins c r (.deleting r gatewayId targetId)
  | unguarded {v : Validated} (hdel : r.isBeingDeleted = false)
      (hv : validate c.defaultGateway r = .ok v) (hfin : r.hasFinalizer finalizer = false) :
      Begins c r (.unguarded r v)
  | guarded {v : Validated} (hdel : r.isBeingDeleted = false)
      (hv : validate c.defaultGateway r = .ok v) (hfin : r.hasFinalizer finalizer) :
      Begins c r (.guarded r v)
  | invalid {e : ValidationError} (hdel : r.isBeingDeleted = false)
      (hv : validate c.defaultGateway r = .error e) : Begins c r (.reporting r)
  | ended (hdel : r.isBeingDeleted) : Begins c r .ended

/-- The request of a create for a copy: the one that was built, under the token of the copy if that
has one. -/
structure Requests (r : Resource) (v : Validated) (request : CreateRequest) : Prop where
  built : v.createRequest = .ok { request with clientToken := none }
  token : ∃ token, request.clientToken = some token ∧
    ∀ chosen, createToken r = some chosen → token = chosen

/-- The call that is made in a phase, and the phase that follows its success. -/
inductive Calls : Phase → (call : Call) → (call.Reply → Phase) → Prop where
  | create {r : Resource} {v : Validated} {request : CreateRequest}
      (hrec : r.recordedTarget? = none) (hreq : Requests r v request) :
      Calls (guarded r v) (.create request)
        fun target => changing r (.created r.metadata.generation target)
  | update {r : Resource} {v : Validated} {targetId : String} {request : UpdateRequest}
      (hrec : r.recordedTarget? = some targetId)
      (hgen : r.metadata.generation ≠ r.observedGeneration)
      (hreq : v.updateRequest targetId = .ok request) :
      Calls (guarded r v) (.update request)
        fun state => changing r (.observed r.metadata.generation state)
  | poll {r : Resource} {v : Validated} {targetId : String}
      (hrec : r.recordedTarget? = some targetId)
      (hgen : r.metadata.generation = r.observedGeneration) (hset : r.isSettled = false) :
      Calls (guarded r v) (.get v.gatewayId targetId)
        fun state => changing r (.observed r.metadata.generation state)
  | delete {r : Resource} {gatewayId targetId : String} :
      Calls (deleting r gatewayId targetId) (.delete gatewayId targetId) fun _ => released r

/-- The change of status that the latest copy may be fetched for: the one that waits, or else a
condition. -/
inductive Fetches (r : Resource) : Phase → StatusChange → Prop where
  | changing (change : StatusChange) : Fetches r (.changing r change) change
  | guarded (v : Validated) (condition : Condition) :
      Fetches r (.guarded r v) (.condition condition)
  | reporting (condition : Condition) : Fetches r (.reporting r) (.condition condition)
  | writing (change : StatusChange) (latest : Resource) (condition : Condition) :
      Fetches r (.writing r change latest) (.condition condition)

end Phase

/-- Whether a question concerns neither the store nor the gateway. -/
def Query.isIdle : Query → Bool
  | store _ => false
  | gateway _ => false
  | _ => true

/-- The moves of a pass on the resource with a name in a namespace. -/
inductive Moves (c : Config) (ns name : String) :
    Phase → (q : Query) → q.Answer → Phase → Prop where
  | idle {ph : Phase} {q : Query} (answer : q.Answer) (h : q.isIdle) :
      Moves c ns name ph q answer ph
  | read {r : Resource} {ph : Phase} (h : ph.Begins c r) :
      Moves c ns name .opening (.store (.get ns name)) (.ok (some r)) ph
  | readNothing {outcome : Except Store.Error (Option Resource)}
      (h : ∀ r, outcome ≠ .ok (some r)) :
      Moves c ns name .opening (.store (.get ns name)) outcome .ended
  | attach {r r' : Resource} {v : Validated} :
      Moves c ns name (.unguarded r v)
        (.store (.replaceFinalizers r (r.finalizers ++ [finalizer]))) (.ok r') (.guarded r' v)
  | attachRefused {r : Resource} {v : Validated} {e : Store.Error} :
      Moves c ns name (.unguarded r v)
        (.store (.replaceFinalizers r (r.finalizers ++ [finalizer]))) (.error e) .ended
  | called {ph : Phase} {call : Call} {next : call.Reply → Phase} {outcome : call.Outcome}
      {reply : call.Reply} (h : ph.Calls call next) (hreply : settle call outcome = .ok reply) :
      Moves c ns name ph (.gateway call) (.finished outcome) (next reply)
  | failed {ph : Phase} {call : Call} {next : call.Reply → Phase} {raced : Raced call.Outcome}
      (h : ph.Calls call next)
      (hfail : ∀ outcome reply, raced = .finished outcome → settle call outcome ≠ .ok reply) :
      Moves c ns name ph (.gateway call) raced ph
  | fetch {ph : Phase} {r latest : Resource} {change : StatusChange} {ns' name' : String}
      (h : ph.Fetches r change) (hns : r.metadata.ns = some ns')
      (hname : r.metadata.name = some name') :
      Moves c ns name ph (.store (.get ns' name')) (.ok (some latest)) (.writing r change latest)
  | fetchNothing {ph : Phase} {r : Resource} {change : StatusChange} {ns' name' : String}
      {outcome : Except Store.Error (Option Resource)} (h : ph.Fetches r change)
      (hns : r.metadata.ns = some ns') (hname : r.metadata.name = some name')
      (hnothing : ∀ latest, outcome ≠ .ok (some latest)) :
      Moves c ns name ph (.store (.get ns' name')) outcome .ended
  | write {r r' latest : Resource} {change : StatusChange} {now : Timestamp} :
      Moves c ns name (.writing r change latest)
        (.store (.replaceStatus latest (change.applyTo now latest))) (.ok r') (.reporting r)
  | writeRefused {r latest : Resource} {change : StatusChange} {now : Timestamp} {e : Store.Error} :
      Moves c ns name (.writing r change latest)
        (.store (.replaceStatus latest (change.applyTo now latest))) (.error e) (.changing r change)
  | detach {r : Resource} (outcome : Except Store.Error Resource) :
      Moves c ns name (.released r)
        (.store (.replaceFinalizers r (r.finalizers.filter (· ≠ finalizer)))) outcome .ended

/-! ## Parts of a pass -/

section Parts

variable {ε α β : Type} {c : Config} {ns name : String} {ph : Phase}

/-- A part of a pass keeps to the moves, and ends in `post`. -/
abbrev Pass.Follows (c : Config) (ns name : String) (post : Except ε α → Phase → Prop)
    (p : Pass ε α) (ph : Phase) : Prop :=
  Program.Follows (Moves c ns name) post p.run ph

/-- Where a part goes on with `post`, and may stop anywhere. -/
def unlessStopped (post : α → Phase → Prop) : Except ε α → Phase → Prop
  | .ok a, ph => post a ph
  | .error _, _ => True

/-- A part of a pass keeps to the moves, wherever it ends. -/
abbrev Pass.Keeps (c : Config) (ns name : String) (p : Pass ε α) (ph : Phase) : Prop :=
  p.Follows c ns name (unlessStopped fun _ _ => True) ph

lemma Pass.follows_pure {post : α → Phase → Prop} {a : α} (h : post a ph) :
    Pass.Follows c ns name (unlessStopped post) (pure a : Pass ε α) ph := h

lemma Pass.follows_throw {post : α → Phase → Prop} (e : ε) :
    Pass.Follows c ns name (unlessStopped post) (throw e : Pass ε α) ph := trivial

lemma Pass.follows_bind {post : β → Phase → Prop} {p : Pass ε α} {f : α → Pass ε β}
    (h : p.Follows c ns name
      (unlessStopped fun a ph' => (f a).Follows c ns name (unlessStopped post) ph') ph) :
    (p >>= f).Follows c ns name (unlessStopped post) ph := by
  refine Program.Follows.bind (Program.Follows.weaken ?_ h)
  rintro (e | a) ph' hend
  · exact trivial
  · exact hend

lemma Pass.follows_lift {post : α → Phase → Prop} {p : Program α}
    (h : p.Follows (Moves c ns name) post ph) :
    (Pass.lift p : Pass ε α).Follows c ns name (unlessStopped post) ph :=
  Program.Follows.bind (Program.Follows.weaken (fun _ _ hend => hend) h)

lemma Pass.follows_ofStore {post : α → Phase → Prop} {p : Pass Store.Error α}
    (h : p.Follows c ns name (unlessStopped post) ph) :
    (Pass.ofStore p).Follows c ns name (unlessStopped post) ph := by
  refine Program.Follows.bind (Program.Follows.weaken ?_ h)
  rintro (e | a) ph' hend
  · exact trivial
  · exact hend

/-- A part goes on after another one, unless that stops. -/
lemma Pass.keeps_bind {post : α → Phase → Prop} {p : Pass ε α} {f : α → Pass ε β}
    (h : p.Follows c ns name (unlessStopped post) ph)
    (hf : ∀ a ph', post a ph' → (f a).Keeps c ns name ph') : (p >>= f).Keeps c ns name ph := by
  refine Pass.follows_bind (Program.Follows.weaken ?_ h)
  rintro (e | a) ph' hend
  · exact trivial
  · exact hf a ph' hend

/-- A part of a pass that only the store can stop is followed by another one. -/
lemma Pass.keeps_ofStore {post : α → Phase → Prop} {p : Pass Store.Error α} {f : α → Pass Error β}
    (h : p.Follows c ns name (unlessStopped post) ph)
    (hf : ∀ a ph', post a ph' → (f a).Keeps c ns name ph') :
    (Pass.ofStore p >>= f).Keeps c ns name ph :=
  Pass.keeps_bind (Pass.follows_ofStore h) hf

lemma Pass.follows_ite {P : Prop} [Decidable P] {post : α → Phase → Prop} {p q : Pass ε α}
    (hp : P → p.Follows c ns name (unlessStopped post) ph)
    (hq : ¬P → q.Follows c ns name (unlessStopped post) ph) :
    (if P then p else q).Follows c ns name (unlessStopped post) ph := by
  by_cases h : P
  · rw [if_pos h]
    exact hp h
  · rw [if_neg h]
    exact hq h

/-- A question that concerns neither store nor gateway leaves the phase as it is. -/
lemma Pass.follows_query {q : Query} {post : q.Answer → Phase → Prop} (hq : q.isIdle)
    (h : ∀ answer, post answer ph) :
    (Pass.query q : Pass ε q.Answer).Follows c ns name (unlessStopped post) ph :=
  fun answer => ⟨ph, .idle answer hq, h answer⟩

lemma Pass.follows_store {request : Store.Request} {post : request.Reply → Phase → Prop}
    (h : ∀ outcome, ∃ ph', Moves c ns name ph (.store request) outcome ph' ∧
      unlessStopped post outcome ph') :
    (Pass.store request).Follows c ns name (unlessStopped post) ph := h

/-- A request of the store is followed by the rest of the pass. -/
lemma Pass.keeps_store {request : Store.Request} {f : request.Reply → Pass Error β}
    (h : ∀ outcome, ∃ ph', Moves c ns name ph (.store request) outcome ph' ∧
      unlessStopped (fun reply ph' => (f reply).Keeps c ns name ph') outcome ph') :
    (Pass.ofStore (Pass.store request) >>= f).Keeps c ns name ph :=
  Pass.follows_bind (Pass.follows_ofStore (Pass.follows_store h))

/-! ### Calls -/

lemma settle_delete_eq_ok {gatewayId targetId : String} {outcome : Except Gateway.Error Unit}
    (h : settle (.delete gatewayId targetId) outcome = .ok ()) :
    outcome = .ok () ∨ ∃ e, outcome = .error e ∧ e.isNotFound := by
  cases outcome with
  | ok _ => exact .inl rfl
  | error e =>
    by_cases hmissing : e.isNotFound = true
    · exact .inr ⟨e, rfl, hmissing⟩
    · simp [settle, hmissing] at h

/-- Where a call of a phase leads: on from its success, and nowhere from its failure. -/
def afterCall {ρ : Type} (ph : Phase) (next : ρ → Phase) : Except Gateway.Error ρ → Phase → Prop
  | .ok reply, ph' => ph' = next reply
  | .error _, ph' => ph' = ph

lemma follows_callOnce {call : Call} {next : call.Reply → Phase} (h : ph.Calls call next) :
    (callOnce call).Follows (Moves c ns name) (afterCall ph next) ph := by
  intro raced
  cases raced with
  | cancelled =>
    exact ⟨ph, .failed h (fun _ _ hr => nomatch hr), rfl⟩
  | finished outcome =>
    cases hreply : settle call outcome with
    | ok reply =>
      refine ⟨next reply, .called h hreply, ?_⟩
      show afterCall ph next (settle call outcome) (next reply)
      rw [hreply]
      rfl
    | error e =>
      refine ⟨ph, .failed h ?_, ?_⟩
      · intro outcome' reply hr
        cases hr
        simp [hreply]
      · show afterCall ph next (settle call outcome) ph
        rw [hreply]
        rfl

/-- However often a call is repeated, the phase stays the same until it succeeds. -/
lemma follows_repeatCall {call : Call} {next : call.Reply → Phase} (h : ph.Calls call next)
    (policy : RetryPolicy) (left made : Nat) (backoff : Duration) :
    (repeatCall policy call left made backoff).Follows (Moves c ns name) (afterCall ph next)
      ph := by
  induction left generalizing made backoff with
  | zero =>
    refine Program.Follows.bind (Program.Follows.weaken ?_ (follows_callOnce h))
    rintro (e | reply) ph' hend
    · exact hend
    · exact hend
  | succ left ih =>
    refine Program.Follows.bind (Program.Follows.weaken ?_ (follows_callOnce h))
    rintro (e | reply) ph' rfl
    · by_cases hretry : e.isRetryable = true
      · simp only [hretry, if_true]
        intro waited
        refine ⟨_, .idle waited rfl, ?_⟩
        cases waited with
        | cancelled => exact rfl
        | finished _ => exact ih _ _
      · simp only [hretry]
        exact rfl
    · exact rfl

lemma follows_createTarget {r : Resource} {v : Validated} {request : CreateRequest}
    (hrec : r.recordedTarget? = none) (hreq : v.createRequest = .ok request)
    (policy : RetryPolicy) :
    (createTarget policy { request with clientToken := createToken r }).Follows (Moves c ns name)
      (afterCall (.guarded r v) fun target => .changing r (.created r.metadata.generation target))
      (.guarded r v) := by
  obtain ⟨config, -, rfl⟩ := createRequest_eq_ok hreq
  unfold createTarget
  cases htoken : createToken r with
  | some token =>
    have hrequests : Phase.Requests r v ⟨v.gatewayId, config, some token⟩ :=
      ⟨hreq, token, rfl, fun chosen hchosen => Option.some.inj (htoken.symm.trans hchosen)⟩
    exact follows_repeatCall (.create hrec hrequests) _ _ _ _
  | none =>
    intro token
    have hrequests : Phase.Requests r v ⟨v.gatewayId, config, some token⟩ :=
      ⟨hreq, token, rfl, fun chosen hchosen => nomatch htoken.symm.trans hchosen⟩
    exact ⟨_, .idle token rfl, follows_repeatCall (.create hrec hrequests) _ _ _ _⟩

/-! ### Status writes -/

/-- What a part of a pass does in the place of a stop is a part of its own. -/
lemma Pass.follows_orElse {post : α → Phase → Prop} {p : Pass ε α} {instead : ε → Pass ε α}
    (h : p.Follows c ns name (fun outcome ph' => match outcome with
      | .ok a => post a ph'
      | .error e => (instead e).Follows c ns name (unlessStopped post) ph') ph) :
    (p.orElse instead).Follows c ns name (unlessStopped post) ph := by
  refine Program.Follows.bind (Program.Follows.weaken ?_ h)
  rintro (e | a) ph' hend
  · exact hend
  · exact hend

/-- Whether conditions of a copy may be set. -/
def Phase.CanReport (r : Resource) (ph : Phase) : Prop :=
  ∀ condition, ph.Fetches r (.condition condition)

lemma Phase.canReport_guarded (r : Resource) (v : Validated) : (guarded r v).CanReport r :=
  fun condition => .guarded v condition

lemma Phase.canReport_reporting (r : Resource) : (reporting r).CanReport r :=
  fun condition => .reporting condition

lemma Phase.canReport_writing (r : Resource) (change : StatusChange) (latest : Resource) :
    (writing r change latest).CanReport r :=
  fun condition => .writing change latest condition

variable {r : Resource} {change : StatusChange}

lemma follows_writeLatest {ns' name' key : String}
    {refused : Store.Error → Pass Store.Error Resource} (h : ph.Fetches r change)
    (hns : r.metadata.ns = some ns') (hname : r.metadata.name = some name')
    (hrefused : ∀ e, (refused e).Follows c ns name
      (unlessStopped fun _ ph' => ph'.CanReport r) (.changing r change)) :
    (writeLatest ns' name' key change refused).Follows c ns name
      (unlessStopped fun _ ph' => ph'.CanReport r) ph := by
  refine Pass.follows_bind (Pass.follows_store fun outcome => ?_)
  rcases outcome with e | _ | latest
  · exact ⟨.ended, .fetchNothing h hns hname (fun _ hlatest => nomatch hlatest), trivial⟩
  · exact ⟨.ended, .fetchNothing h hns hname (fun _ hlatest => nomatch hlatest), trivial⟩
  · refine ⟨_, .fetch h hns hname, Pass.follows_bind (Pass.follows_query rfl fun now => ?_)⟩
    by_cases hsame : latest.status = some (change.applyTo now latest)
    · simp only [hsame, if_true]
      exact Pass.follows_pure (Phase.canReport_writing r change latest)
    · simp only [hsame, if_false]
      refine Pass.follows_orElse fun outcome => ?_
      cases outcome with
      | ok r' => exact ⟨_, .write, Phase.canReport_reporting r⟩
      | error e => exact ⟨_, .writeRefused, hrefused e⟩

lemma follows_writeChange {ns' name' : String} (key : String) (hns : r.metadata.ns = some ns')
    (hname : r.metadata.name = some name') (left : Nat) {ph : Phase} (h : ph.Fetches r change) :
    (writeChange ns' name' key change left).Follows c ns name
      (unlessStopped fun _ ph' => ph'.CanReport r) ph := by
  induction left generalizing ph with
  | zero => exact follows_writeLatest h hns hname fun e => Pass.follows_throw e
  | succ left ih =>
    refine follows_writeLatest h hns hname fun e => Pass.follows_ite (fun _ => ?_) fun _ => ?_
    · exact ih (.changing change)
    · exact Pass.follows_throw e

lemma follows_applyChange (h : ph.Fetches r change) :
    (applyChange r change).Follows c ns name (unlessStopped fun _ ph' => ph'.CanReport r) ph := by
  unfold applyChange
  cases hns : r.metadata.ns with
  | none => exact Pass.follows_throw _
  | some ns' =>
    cases hname : r.metadata.name with
    | none => exact Pass.follows_throw _
    | some name' => exact follows_writeChange _ hns hname _ h

lemma follows_setReadiness (h : ph.CanReport r) (verdict : Verdict) (reason message : String) :
    (setReadiness r verdict reason message).Follows c ns name
      (unlessStopped fun _ ph' => ph'.CanReport r) ph :=
  Pass.follows_bind (Pass.follows_query rfl fun _ => follows_applyChange (h _))

/-! ## The steps of a pass -/

lemma follows_reportBuildError (e : BuildError) (h : ph.CanReport r) :
    (reportBuildError r e).Keeps c ns name ph :=
  Pass.keeps_ofStore (follows_setReadiness h _ _ _) fun _ _ _ => trivial

lemma follows_backOff (key : String) :
    (backOff key).Keeps c ns name ph :=
  Pass.follows_bind (Pass.follows_query rfl fun _ => trivial)

lemma follows_reportFailure (key reason context : String) (e : Gateway.Error)
    (h : ph.CanReport r) :
    (reportFailure r key reason context e).Keeps c ns name ph := by
  refine Pass.keeps_ofStore (follows_setReadiness h _ _ _) fun _ ph' _ => ?_
  refine Pass.follows_ite (fun _ => ?_) fun _ => ?_
  · exact follows_backOff key
  · exact trivial

/-- What follows a failure keeps to what is done unless it was cancelled. -/
lemma follows_afterFailure {operation : Operation} {e : Gateway.Error} {p : Pass Error Directive}
    (hp : p.Keeps c ns name ph) : (afterFailure c operation e p).Keeps c ns name ph :=
  Pass.follows_ite (fun _ => trivial) fun _ =>
    Pass.follows_bind (Pass.follows_query rfl fun _ => hp)

/-- What follows a success writes the change that was waiting for it. -/
lemma follows_afterSuccess {operation : Operation} {key : String} {p : Pass Error Directive}
    (hp : ∀ ph' : Phase, ph'.CanReport r → p.Keeps c ns name ph') :
    (afterSuccess operation r change key p).Keeps c ns name (.changing r change) := by
  refine Pass.follows_bind (Pass.follows_query rfl fun _ => ?_)
  refine Pass.keeps_ofStore (follows_applyChange (.changing change)) fun _ ph' hreport => ?_
  exact Pass.follows_bind (Pass.follows_query rfl fun _ => hp ph' hreport)

variable {v : Validated} {key : String}

lemma follows_createStep (hrec : r.recordedTarget? = none) :
    (createStep c r v key).Keeps c ns name (.guarded r v) := by
  unfold createStep
  have hreport := Phase.canReport_guarded r v
  cases hreq : v.createRequest with
  | error e => exact follows_reportBuildError e hreport
  | ok request =>
    refine Pass.keeps_bind (Pass.follows_lift (follows_createTarget hrec hreq c.policy)) ?_
    rintro (e | target) ph' rfl
    · exact follows_afterFailure (follows_reportFailure _ _ _ _ hreport)
    · exact follows_afterSuccess fun _ _ => trivial

lemma follows_updateStep {targetId : String} (hrec : r.recordedTarget? = some targetId)
    (hgen : r.metadata.generation ≠ r.observedGeneration) :
    (updateStep c r v targetId key).Keeps c ns name (.guarded r v) := by
  unfold updateStep
  have hreport := Phase.canReport_guarded r v
  cases hreq : v.updateRequest targetId with
  | error e => exact follows_reportBuildError e hreport
  | ok request =>
    have hcall : Phase.Calls (.guarded r v) (.update request) _ := .update hrec hgen hreq
    refine Pass.keeps_bind (Pass.follows_lift (follows_repeatCall hcall _ _ _ _)) ?_
    rintro (e | state) ph' rfl
    · exact follows_afterFailure (follows_reportFailure _ _ _ _ hreport)
    · exact follows_afterSuccess fun _ _ => trivial

lemma follows_pollStep {targetId : String} (hrec : r.recordedTarget? = some targetId)
    (hgen : r.metadata.generation = r.observedGeneration) (hset : r.isSettled = false) :
    (pollStep c r v targetId key).Keeps c ns name (.guarded r v) := by
  unfold pollStep
  refine Pass.keeps_bind (Pass.follows_lift (follows_callOnce (.poll hrec hgen hset))) ?_
  rintro (e | state) ph' rfl
  · exact follows_afterFailure (follows_backOff key)
  · refine follows_afterSuccess fun ph' hreport => ?_
    refine Pass.follows_ite (fun _ => ?_) fun _ => trivial
    exact Pass.keeps_ofStore (follows_setReadiness hreport _ _ _) fun _ _ _ => trivial

lemma follows_removeFinalizer :
    (removeFinalizer r key).Keeps c ns name (.released r) := by
  refine Pass.keeps_store fun outcome => ⟨.ended, .detach outcome, ?_⟩
  cases outcome with
  | error e => exact trivial
  | ok r' => exact Pass.follows_bind (Pass.follows_query rfl fun _ => trivial)

lemma follows_deleteRecorded {gatewayId targetId : String} :
    (deleteRecorded c r gatewayId targetId key).Keeps c ns name
      (.deleting r gatewayId targetId) := by
  refine Pass.keeps_bind (Pass.follows_lift (follows_repeatCall .delete _ _ _ _)) ?_
  rintro (e | _) ph' rfl
  · exact follows_afterFailure (follows_backOff key)
  · exact Pass.follows_bind (Pass.follows_query rfl fun _ => follows_removeFinalizer)

lemma follows_advance : (advance c r v key).Keeps c ns name (.guarded r v) :=
  advance_cases (motive := fun p => p.Keeps c ns name (.guarded r v)) follows_createStep
    follows_updateStep (fun _ _ _ => Pass.follows_bind (Pass.follows_query rfl fun _ => trivial))
    follows_pollStep

/-- A copy that is marked for deletion is taken up. -/
lemma exists_begins_deleteStep (hdel : r.isBeingDeleted) :
    ∃ ph, Phase.Begins c r ph ∧ (deleteStep c r key).Keeps c ns name ph :=
  deleteStep_cases (motive := fun p => ∃ ph, Phase.Begins c r ph ∧ p.Keeps c ns name ph)
    (fun _ => ⟨.ended, .ended hdel, trivial⟩)
    (fun hfin hrec => ⟨_, .released hdel hfin hrec, follows_removeFinalizer⟩)
    (fun _ _ _ => ⟨.ended, .ended hdel, trivial⟩)
    fun hfin hrec hgw => ⟨_, .deleting hdel hfin hrec hgw, follows_deleteRecorded⟩

/-- A copy is taken up in a phase that depends on nothing but the copy. -/
lemma exists_begins_follows (r : Resource) :
    ∃ ph, Phase.Begins c r ph ∧ (reconcileCopy c r key).Keeps c ns name ph := by
  refine reconcileCopy_cases
    (motive := fun p => ∃ ph, Phase.Begins c r ph ∧ p.Keeps c ns name ph)
    exists_begins_deleteStep ?invalid
    (fun hdel hv hfin => ⟨_, .guarded hdel hv hfin, follows_advance⟩) ?unguarded
  case invalid =>
    intro e hdel hv
    have hreport := Phase.canReport_reporting r
    refine ⟨_, .invalid hdel hv, ?_⟩
    exact Pass.keeps_ofStore (follows_setReadiness hreport _ _ _) fun _ _ _ => trivial
  case unguarded =>
    intro v hdel hv hfin
    refine ⟨_, .unguarded hdel hv hfin, Pass.keeps_store fun outcome => ?_⟩
    cases outcome with
    | error e => exact ⟨_, .attachRefused, trivial⟩
    | ok r' => exact ⟨_, .attach, follows_advance⟩

lemma follows_reconcileLatest :
    (reconcileLatest c ns name key).Keeps c ns name .opening := by
  refine Pass.keeps_store fun outcome => ?_
  rcases outcome with e | _ | r
  · exact ⟨.ended, .readNothing (fun _ h => nomatch h), trivial⟩
  · exact ⟨.ended, .readNothing (fun _ h => nomatch h),
      Pass.follows_bind (Pass.follows_query rfl fun _ => trivial)⟩
  · obtain ⟨ph, hbegins, hfollows⟩ := exists_begins_follows r
    exact ⟨ph, .read hbegins, hfollows⟩

end Parts

/-- Every pass keeps to the moves, whatever it is answered. -/
theorem reconcile_follows (c : Config) (ns name : String) :
    (reconcile c ns name).Keeps c ns name .opening := by
  rw [Pass.Keeps, Pass.Follows, run_reconcile]
  intro cancelled
  refine ⟨.opening, .idle cancelled rfl, ?_⟩
  cases cancelled with
  | true => exact trivial
  | false =>
    refine Program.Follows.bind (Program.Follows.weaken ?_ follows_reconcileLatest)
    intro ending ph' _
    cases surface c ending <;> exact trivial

end TargetRegistrar.Controller
