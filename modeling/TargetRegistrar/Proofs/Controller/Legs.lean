import TargetRegistrar.Proofs.Controller.Writing

/-!
# The legs of a pass

A pass goes its way in legs: it wakes up, reads a copy, attaches the finalizer if that is wanting,
has its remote operation, and writes what has come of it.  `Moves` tells which questions a pass may
ask; here it matters how a pass ends, and what lies between two questions.  `Proceeds` says which
leg follows each answer, `Leg.Ends` how a pass may end in each leg.  A status write within a pass
keeps to `Writes`, as it does on its own.

The main statement is `reconcile_proceeds`: every pass, whatever it is answered, keeps to the legs
and ends as they allow.  Invariants of a `Dialogue`, which is all that a pass has asked and was
answered, follow from it one leg at a time (`Dialogue.exists_follows`).  No leg ends with an error
of the gateway, so that what a pass would do about one is never done (`exists_refusal_of_failed`).
-/

namespace TargetRegistrar.Controller

open Gateway Registration

/-- What keeps to a relation keeps to another one under which its phases are relabelled. -/
lemma Program.Follows.relabel {α P Q : Type} {M : P → (q : Query) → q.Answer → P → Prop}
    {N : Q → (q : Query) → q.Answer → Q → Prop} {post : α → P → Prop} (g : P → Q)
    (h : ∀ {ph q} {answer : q.Answer} {ph'}, M ph q answer ph' → N (g ph) q answer (g ph')) :
    ∀ {p : Program α} {ph : P}, p.Follows M post ph →
      p.Follows N (fun a leg => ∃ ph', leg = g ph' ∧ post a ph') (g ph) := by
  intro p
  induction p with
  | done a => exact fun hp => ⟨_, rfl, hp⟩
  | ask q next ih =>
    intro ph hp answer
    obtain ⟨ph', hM, hnext⟩ := hp answer
    exact ⟨g ph', h hM, ih answer hnext⟩

/-! ## Dialogues -/

/-- A question of a program, and what it was answered. -/
structure Turn where
  query : Query
  answer : query.Answer

/-- The program `p` is left with `rest` to do after the turns, the last one first. -/
inductive Dialogue {α : Type} (p : Program α) : Program α → List Turn → Prop where
  | start : Dialogue p p []
  | asked {q : Query} {next : q.Answer → Program α} {turns : List Turn}
      (h : Dialogue p (.ask q next) turns) (answer : q.Answer) :
      Dialogue p (next answer) (⟨q, answer⟩ :: turns)

/-- What every step of a relation hands on holds wherever a program has come to that keeps to the
relation. -/
lemma Dialogue.exists_follows {α P : Type} {M : P → (q : Query) → q.Answer → P → Prop}
    {post : α → P → Prop} {At : P → List Turn → Prop} {p rest : Program α} {start : P}
    {turns : List Turn} (hstart : At start [])
    (hmoved : ∀ {ph q} {answer : q.Answer} {ph' turns}, At ph turns → M ph q answer ph' →
      At ph' (⟨q, answer⟩ :: turns))
    (hp : p.Follows M post start) (h : Dialogue p rest turns) :
    ∃ ph, rest.Follows M post ph ∧ At ph turns := by
  induction h with
  | start => exact ⟨start, hp, hstart⟩
  | asked _ answer ih =>
    obtain ⟨ph, hfollows, hph⟩ := ih
    obtain ⟨ph', hM, hnext⟩ := hfollows answer
    exact ⟨ph', hnext, hmoved hph hM⟩

lemma Dialogue.exists_ends {α P : Type} {M : P → (q : Query) → q.Answer → P → Prop}
    {post : α → P → Prop} {p : Program α} {a : α} {start : P} {turns : List Turn}
    (h : Dialogue p (.done a) turns) (hp : p.Follows M post start) : ∃ ph, post a ph := by
  let anywhere : P → List Turn → Prop := fun _ _ => True
  have hstart : anywhere start [] := trivial
  obtain ⟨ph, hends, -⟩ := Dialogue.exists_follows hstart (fun _ _ => trivial) hp h
  exact ⟨ph, hends⟩

/-! ## Legs -/

/-- How far a pass has come, with the copy that it works on. -/
inductive Leg where
  /-- Nothing has been asked. -/
  | waking
  /-- The latest copy is to be read. -/
  | opening
  /-- There is no copy. -/
  | absent
  /-- The copy is valid, but carries no finalizer yet. -/
  | unguarded (copy : Resource)
  /-- The copy is valid and carries the finalizer. -/
  | guarded (copy : Resource)
  /-- There is nothing left to do for the target of the copy. -/
  | settled (copy : Resource)
  /-- The target of a copy that is marked for deletion is to be deleted. -/
  | deleting (copy : Resource) (gatewayId targetId : String)
  /-- The finalizer may be detached. -/
  | released (copy : Resource)
  /-- There is nothing left to do for a copy that is marked for deletion. -/
  | resigned (copy : Resource)
  /-- A failure is to be announced or waited out. -/
  | failing (copy : Resource)
  /-- An update of the status is under way. -/
  | updating (copy : Resource) (u : StatusUpdate) (ph : WritePhase)
  /-- The store has stopped the pass. -/
  | stopped (e : Store.Error)
  /-- Cancellation has come first. -/
  | cancelled

/-- Whether a question concerns nothing but the ledger and the counters. -/
def Query.isBookkeeping : Query → Bool
  | fail _ => true
  | succeed _ => true
  | forget _ => true
  | countCall _ _ => true
  | countPass => true
  | countError _ => true
  | countRequeue _ => true
  | _ => false

namespace Leg

/-- Whether the pass may keep its books: it has been stopped by nothing, and its remote operation,
if it has one, has returned. -/
def keepsBooks : Leg → Bool
  | absent => true
  | settled _ => true
  | released _ => true
  | resigned _ => true
  | failing _ => true
  | updating _ _ _ => true
  | _ => false

/-- The leg in which a copy is taken up. -/
inductive Opens (r : Resource) : Leg → Prop where
  | unguarded (hdel : r.isBeingDeleted = false) : Opens r (.unguarded r)
  | guarded (hdel : r.isBeingDeleted = false) (hfin : r.hasFinalizer finalizer) :
      Opens r (.guarded r)
  | invalid (hdel : r.isBeingDeleted = false) : Opens r (.failing r)
  | deleting {gatewayId targetId : String} (hdel : r.isBeingDeleted) :
      Opens r (.deleting r gatewayId targetId)
  | released (hdel : r.isBeingDeleted) : Opens r (.released r)
  | resigned (hdel : r.isBeingDeleted) : Opens r (.resigned r)

/-- The legs with a remote operation. -/
inductive Operates : Leg → Resource → Prop where
  | guarded (r : Resource) : Operates (.guarded r) r
  | deleting (r : Resource) (gatewayId targetId : String) :
      Operates (.deleting r gatewayId targetId) r

/-- The call that is made in a leg, and the leg that follows its success. -/
inductive Calls : Leg → (call : Call) → (call.Reply → Leg) → Prop where
  | create {r : Resource} {request : CreateRequest} (hrec : r.recordedTarget? = none) :
      Calls (guarded r) (.create request) fun target => updating r (.created target)
        (.fetching (.created r.metadata.generation target) statusRetries)
  | update {r : Resource} {targetId : String} {request : UpdateRequest}
      (hrec : r.recordedTarget? = some targetId)
      (hgen : r.metadata.generation ≠ r.observedGeneration) :
      Calls (guarded r) (.update request) fun state => updating r (.observed state)
        (.fetching (.observed r.metadata.generation state) statusRetries)
  | poll {r : Resource} {gatewayId targetId : String}
      (hrec : r.recordedTarget? = some targetId)
      (hgen : r.metadata.generation = r.observedGeneration) (hset : r.isSettled = false) :
      Calls (guarded r) (.get gatewayId targetId) fun state => updating r (.observed state)
        (.fetching (.observed r.metadata.generation state) statusRetries)
  | delete {r : Resource} {gatewayId targetId : String} :
      Calls (deleting r gatewayId targetId) (.delete gatewayId targetId) fun _ => released r

lemma Calls.operates {leg : Leg} {call : Call} {next : call.Reply → Leg}
    (h : leg.Calls call next) : ∃ r, leg.Operates r := by
  cases h with
  | delete => exact ⟨_, .deleting ..⟩
  | _ => exact ⟨_, .guarded _⟩

/-- The update by which a leg announces whether the target can be used. -/
inductive Announces : Leg → Resource → StatusUpdate → Prop where
  | ready {r written : Resource} {state : TargetState} (hstate : state.status = targetReady) :
      Announces (updating r (.observed state) (.ended (.ok written))) r .ready
  | unbuilt {r : Resource} (reason message : String) :
      Announces (guarded r) r (.notReady reason message)
  | failed {r : Resource} (reason message : String) :
      Announces (failing r) r (.notReady reason message)

end Leg

/-- What a pass asks in the legs with a remote operation, until that has returned. -/
inductive Works : Leg → (q : Query) → q.Answer → Leg → Prop where
  | rest {r : Resource} {key : String} (hgen : r.metadata.generation = r.observedGeneration)
      (hset : r.isSettled) : Works (.guarded r) (.succeed key) () (.settled r)
  | draw {r : Resource} (token : CreateToken) : Works (.guarded r) .freshToken token (.guarded r)
  | call {leg : Leg} {call : Call} {next : call.Reply → Leg} {outcome : call.Outcome}
      {reply : call.Reply} (h : leg.Calls call next) (hreply : settle call outcome = .ok reply) :
      Works leg (.gateway call) (.finished outcome) (next reply)
  | fail {leg : Leg} {call : Call} {next : call.Reply → Leg} (h : leg.Calls call next)
      (outcome : call.Outcome) : Works leg (.gateway call) (.finished outcome) leg
  | wait {leg : Leg} {r : Resource} {delay : Duration} (h : leg.Operates r) :
      Works leg (.wait delay) (.finished ()) leg
  | cutCall {leg : Leg} {call : Call} {next : call.Reply → Leg} (h : leg.Calls call next) :
      Works leg (.gateway call) .cancelled .cancelled
  | cutWait {leg : Leg} {r : Resource} {delay : Duration} (h : leg.Operates r) :
      Works leg (.wait delay) .cancelled .cancelled
  | giveUp {leg : Leg} {r : Resource} {operation : Operation} (h : leg.Operates r) :
      Works leg (.countCall operation false) () (.failing r)

lemma Works.operates {leg leg' : Leg} {q : Query} {answer : q.Answer}
    (h : Works leg q answer leg') : ∃ r, leg.Operates r := by
  cases h with
  | rest _ _ => exact ⟨_, .guarded _⟩
  | draw _ => exact ⟨_, .guarded _⟩
  | call hcalls _ => exact hcalls.operates
  | fail hcalls _ => exact hcalls.operates
  | cutCall hcalls => exact hcalls.operates
  | wait hoperates => exact ⟨_, hoperates⟩
  | cutWait hoperates => exact ⟨_, hoperates⟩
  | giveUp hoperates => exact ⟨_, hoperates⟩

/-- The legs of a pass on the resource with a name in a namespace. -/
inductive Proceeds (ns name : String) : Leg → (q : Query) → q.Answer → Leg → Prop where
  | wake : Proceeds ns name .waking .isCancelled false .opening
  | oversleep : Proceeds ns name .waking .isCancelled true .cancelled
  | read {r : Resource} {leg : Leg} (h : leg.Opens r) :
      Proceeds ns name .opening (.store (.get ns name)) (.ok (some r)) leg
  | miss : Proceeds ns name .opening (.store (.get ns name)) (.ok none) .absent
  | unread {e : Store.Error} :
      Proceeds ns name .opening (.store (.get ns name)) (.error e) (.stopped e)
  | attach {r r' : Resource} : Proceeds ns name (.unguarded r)
      (.store (.replaceFinalizers r (r.finalizers ++ [finalizer]))) (.ok r') (.guarded r')
  | unattached {r : Resource} {e : Store.Error} : Proceeds ns name (.unguarded r)
      (.store (.replaceFinalizers r (r.finalizers ++ [finalizer]))) (.error e) (.stopped e)
  | work {leg leg' : Leg} {q : Query} {answer : q.Answer} (h : Works leg q answer leg') :
      Proceeds ns name leg q answer leg'
  | announce {leg : Leg} {r : Resource} {u : StatusUpdate} {ph : WritePhase} {began : Timestamp}
      (h : leg.Announces r u) (hbegins : Writes u r .unbegun .now began ph) :
      Proceeds ns name leg .now began (.updating r u ph)
  | update {r : Resource} {u : StatusUpdate} {ph ph' : WritePhase} {q : Query}
      {answer : q.Answer} (h : Writes u r ph q answer ph') :
      Proceeds ns name (.updating r u ph) q answer (.updating r u ph')
  | detach {r r' : Resource} : Proceeds ns name (.released r)
      (.store (.replaceFinalizers r (r.finalizers.filter (· ≠ finalizer)))) (.ok r') (.resigned r)
  | undetached {r : Resource} {e : Store.Error} : Proceeds ns name (.released r)
      (.store (.replaceFinalizers r (r.finalizers.filter (· ≠ finalizer)))) (.error e)
      (.stopped e)
  | book {leg : Leg} {q : Query} (answer : q.Answer) (hleg : leg.keepsBooks)
      (hq : q.isBookkeeping) : Proceeds ns name leg q answer leg

/-! ## Endings -/

/-- What a pass may direct after its last update. -/
inductive StatusUpdate.Concludes : StatusUpdate → Directive → Prop where
  | created (target : CreatedTarget) (delay : Duration) :
      Concludes (.created target) (.requeueAfter delay)
  | observed (state : TargetState) (delay : Duration) :
      Concludes (.observed state) (.requeueAfter delay)
  | ready : Concludes .ready .done
  | stop (reason message : String) : Concludes (.notReady reason message) .stop
  | backOff (reason message : String) (delay : Duration) :
      Concludes (.notReady reason message) (.requeueAfter delay)

/-- How a pass may end in a leg, before conflicts are told from other refusals. -/
inductive Leg.Ends (c : Config) : Leg → Except Error Directive → Prop where
  | cancelled : Ends c .cancelled (.ok (.requeueAfter c.pollInterval))
  /-- The gateway has reported a cancellation. -/
  | abandoned {leg : Leg} {r : Resource} (h : leg.Operates r) :
      Ends c leg (.ok (.requeueAfter c.pollInterval))
  | absent : Ends c .absent (.ok .done)
  | settled {r : Resource} : Ends c (.settled r) (.ok .done)
  | resigned {r : Resource} : Ends c (.resigned r) (.ok .done)
  /-- The target cannot be reached for want of a gateway. -/
  | unreachable {r : Resource} : Ends c (.resigned r) (.ok .stop)
  | failing {r : Resource} {delay : Duration} : Ends c (.failing r) (.ok (.requeueAfter delay))
  | updated {r written : Resource} {u : StatusUpdate} {directive : Directive}
      (h : u.Concludes directive) :
      Ends c (.updating r u (.ended (.ok written))) (.ok directive)
  | refused {r : Resource} {u : StatusUpdate} {e : Store.Error} :
      Ends c (.updating r u (.ended (.error e))) (.error (.store e))
  /-- The copy does not say where it belongs. -/
  | unplaced {r : Resource} {u : StatusUpdate} {change : StatusChange} {field : String} :
      Ends c (.updating r u (.fetching change statusRetries))
        (.error (.store (.missingMetadata field)))
  | stopped {e : Store.Error} : Ends c (.stopped e) (.error (.store e))

/-- How a whole pass may end in a leg. -/
def Leg.Results (c : Config) (outcome : Except Error Directive) (leg : Leg) : Prop :=
  ∃ ending, leg.Ends c ending ∧ outcome = surface c ending

/-- Nothing but the store stops a part of a pass. -/
lemma Leg.Ends.exists_store {c : Config} {leg : Leg} {e : Error} (h : leg.Ends c (.error e)) :
    ∃ e', e = .store e' := by
  cases h with
  | refused => exact ⟨_, rfl⟩
  | unplaced => exact ⟨_, rfl⟩
  | stopped => exact ⟨_, rfl⟩

/-- A pass fails with nothing but a refusal of the store that is no conflict. -/
lemma Leg.Results.exists_refusal {c : Config} {leg : Leg} {e : Error}
    (h : leg.Results c (.error e)) : ∃ e', e = .store e' ∧ e'.isConflict = false := by
  obtain ⟨ending, hends, herror⟩ := h
  cases ending with
  | ok directive => cases herror
  | error e' =>
    obtain ⟨refusal, rfl⟩ := hends.exists_store
    rw [surface_store] at herror
    by_cases hconflict : refusal.isConflict = true
    · rw [if_pos hconflict] at herror
      cases herror
    · rw [if_neg hconflict] at herror
      cases herror
      exact ⟨refusal, rfl, Bool.eq_false_iff.mpr hconflict⟩

/-! ## Parts of a pass -/

/-- A part of a pass keeps to the legs, and ends as they allow. -/
abbrev Pass.Proceeds (c : Config) (ns name : String) (p : Pass Error Directive) (leg : Leg) :
    Prop :=
  Program.Follows (Controller.Proceeds ns name) (fun ending leg => leg.Ends c ending) p.run leg

section Parts

variable {α : Type} {c : Config} {ns name key : String} {leg : Leg} {r : Resource}

/-- A part goes on after a program that the store cannot stop. -/
lemma Pass.proceeds_lift {post : α → Leg → Prop} {p : Program α} {f : α → Pass Error Directive}
    (hp : p.Follows (Controller.Proceeds ns name) post leg)
    (hf : ∀ a leg', post a leg' → (f a).Proceeds c ns name leg') :
    (Pass.lift p >>= f).Proceeds c ns name leg := by
  rw [Pass.Proceeds, Pass.run_lift_bind]
  exact Program.Follows.bind (Program.Follows.weaken hf hp)

/-! ### Updates -/

/-- A part goes on after an update that has succeeded. -/
lemma Pass.proceeds_update {u : StatusUpdate} {p : Pass Store.Error Resource}
    {f : Resource → Pass Error Directive} {ph : WritePhase} (hp : p.Updates u r ph)
    (hf : ∀ written, (f written).Proceeds c ns name (.updating r u (.ended (.ok written)))) :
    (Pass.ofStore p >>= f).Proceeds c ns name (.updating r u ph) := by
  have hlegs := hp.relabel (N := Controller.Proceeds ns name) (Leg.updating r u) .update
  refine Program.Follows.bind (Program.Follows.bind (Program.Follows.weaken ?_ hlegs))
  rintro outcome _ ⟨ph', rfl, rfl | ⟨change, field, rfl, rfl⟩⟩
  · cases outcome with
    | error e => exact .refused
    | ok written => exact hf written
  · exact .unplaced

/-- A failure is announced. -/
lemma proceeds_setNotReady {reason message : String} {f : Resource → Pass Error Directive}
    (h : leg.Announces r (.notReady reason message))
    (hf : ∀ written, (f written).Proceeds c ns name
      (.updating r (.notReady reason message) (.ended (.ok written)))) :
    (Pass.ofStore (setNotReady r reason message) >>= f).Proceeds c ns name leg := by
  intro began
  refine ⟨_, .announce h (.begin fun before => .notReady reason message began before), ?_⟩
  exact Pass.proceeds_update updates_applyChange hf

lemma proceeds_setReady {f : Resource → Pass Error Directive} (h : leg.Announces r .ready)
    (hf : ∀ written, (f written).Proceeds c ns name (.updating r .ready (.ended (.ok written)))) :
    (Pass.ofStore (setReady r) >>= f).Proceeds c ns name leg := by
  intro began
  refine ⟨_, .announce h (.begin fun before => .ready began before), ?_⟩
  exact Pass.proceeds_update updates_applyChange hf

lemma proceeds_reportBuildError (e : BuildError) :
    (reportBuildError r e).Proceeds c ns name (.guarded r) :=
  proceeds_setNotReady (.unbuilt ..) fun _ => .updated (.stop ..)

/-- What follows a failure is counted and goes on from there, unless the operation was cancelled. -/
lemma proceeds_afterFailure {operation : Operation} {e : Gateway.Error} {p : Pass Error Directive}
    (hleg : leg.Operates r ∨ leg = .cancelled ∧ e.isCancelled)
    (hp : p.Proceeds c ns name (.failing r)) :
    (afterFailure c operation e p).Proceeds c ns name leg := by
  unfold afterFailure
  by_cases he : e.isCancelled = true
  · rw [if_pos he]
    obtain hleg | ⟨rfl, -⟩ := hleg
    · exact .abandoned hleg
    · exact .cancelled
  · rw [if_neg he]
    exact fun _ => ⟨.failing r, .work (.giveUp (hleg.resolve_right fun h => he h.2)), hp⟩

lemma proceeds_reportFailure {reason context : String} (e : Gateway.Error) :
    (reportFailure r key reason context e).Proceeds c ns name (.failing r) := by
  refine proceeds_setNotReady (.failed ..) fun written => ?_
  by_cases hretry : e.isRetryable = true
  · rw [if_pos hretry]
    exact fun delay => ⟨_, .book delay rfl rfl, .updated (.backOff ..)⟩
  · rw [if_neg hretry]
    exact .updated (.stop ..)

lemma proceeds_backOff : (backOff key).Proceeds c ns name (.failing r) :=
  fun delay => ⟨.failing r, .book delay rfl rfl, .failing⟩

/-- What follows a success is counted and recorded, and goes on from there. -/
lemma proceeds_afterSuccess {u : StatusUpdate} {change : StatusChange} {operation : Operation}
    {p : Pass Error Directive}
    (hp : ∀ written, p.Proceeds c ns name (.updating r u (.ended (.ok written)))) :
    (afterSuccess operation r change key p).Proceeds c ns name
      (.updating r u (.fetching change statusRetries)) := by
  intro counted
  refine ⟨_, .book counted rfl rfl, Pass.proceeds_update updates_applyChange fun written => ?_⟩
  exact fun succeeded => ⟨_, .book succeeded rfl rfl, hp written⟩

/-! ### Calls -/

/-- Where a call leads: on from its success, and nowhere from its failure, which is a cancellation
if cancellation came first. -/
def Leg.AfterCall {ρ : Type} (leg : Leg) (next : ρ → Leg) : Except Gateway.Error ρ → Leg → Prop
  | .ok reply, leg' => leg' = next reply
  | .error e, leg' => leg' = leg ∨ leg' = .cancelled ∧ e = .cancelled

lemma proceeds_callOnce {call : Call} {next : call.Reply → Leg} (h : leg.Calls call next) :
    (callOnce call).Follows (Proceeds ns name) (leg.AfterCall next) leg := by
  intro raced
  cases raced with
  | cancelled => exact ⟨.cancelled, .work (.cutCall h), .inr ⟨rfl, rfl⟩⟩
  | finished outcome =>
    cases hreply : settle call outcome with
    | ok reply =>
      refine ⟨next reply, .work (.call h hreply), ?_⟩
      show leg.AfterCall next (settle call outcome) (next reply)
      rw [hreply]
      rfl
    | error e =>
      refine ⟨leg, .work (.fail h outcome), ?_⟩
      show leg.AfterCall next (settle call outcome) leg
      rw [hreply]
      exact .inl rfl

lemma proceeds_repeatCall {call : Call} {next : call.Reply → Leg} (h : leg.Calls call next)
    (policy : RetryPolicy) (left made : Nat) (backoff : Duration) :
    (repeatCall policy call left made backoff).Follows (Proceeds ns name) (leg.AfterCall next)
      leg := by
  induction left generalizing made backoff with
  | zero =>
    refine Program.Follows.bind (Program.Follows.weaken ?_ (proceeds_callOnce h))
    rintro (e | reply) leg' hend
    · obtain rfl | ⟨rfl, rfl⟩ := hend
      · exact .inl rfl
      · exact .inr ⟨rfl, rfl⟩
    · exact hend
  | succ left ih =>
    refine Program.Follows.bind (Program.Follows.weaken ?_ (proceeds_callOnce h))
    rintro (e | reply) leg' hend
    · obtain rfl | ⟨rfl, rfl⟩ := hend
      · by_cases hretry : e.isRetryable = true
        · simp only [hretry, if_true]
          obtain ⟨r, hoperates⟩ := h.operates
          intro waited
          cases waited with
          | cancelled => exact ⟨.cancelled, .work (.cutWait hoperates), .inr ⟨rfl, rfl⟩⟩
          | finished _ => exact ⟨leg', .work (.wait hoperates), ih _ _⟩
        · simp only [hretry]
          exact .inl rfl
      · exact .inr ⟨rfl, rfl⟩
    · exact hend

lemma proceeds_createTarget (hrec : r.recordedTarget? = none) (policy : RetryPolicy)
    (request : CreateRequest) :
    (createTarget policy request).Follows (Proceeds ns name)
      ((Leg.guarded r).AfterCall fun target => .updating r (.created target)
        (.fetching (.created r.metadata.generation target) statusRetries)) (.guarded r) := by
  unfold createTarget
  cases request.clientToken with
  | some _ => exact proceeds_repeatCall (.create hrec) ..
  | none =>
    intro token
    exact ⟨.guarded r, .work (.draw token), proceeds_repeatCall (.create hrec) ..⟩

/-- Where a failed call leads: nowhere, unless it was cut short, and then it has been cancelled. -/
lemma Leg.Operates.afterCut {leg' : Leg} {e : Gateway.Error} (hleg : leg.Operates r)
    (h : leg' = leg ∨ leg' = .cancelled ∧ e = .cancelled) :
    leg'.Operates r ∨ leg' = .cancelled ∧ e.isCancelled := by
  obtain rfl | ⟨rfl, rfl⟩ := h
  · exact .inl hleg
  · exact .inr ⟨rfl, rfl⟩

/-! ### Steps of a pass -/

variable {v : Validated}

lemma proceeds_createStep (hrec : r.recordedTarget? = none) :
    (createStep c r v key).Proceeds c ns name (.guarded r) := by
  unfold createStep
  cases v.createRequest with
  | error e => exact proceeds_reportBuildError e
  | ok request =>
    refine Pass.proceeds_lift (proceeds_createTarget hrec c.policy _) ?_
    rintro (e | target) leg' hend
    · have hleg := (Leg.Operates.guarded r).afterCut hend
      exact proceeds_afterFailure hleg (proceeds_reportFailure e)
    · obtain rfl := hend
      exact proceeds_afterSuccess fun _ => .updated (.created target _)

lemma proceeds_updateStep {targetId : String} (hrec : r.recordedTarget? = some targetId)
    (hgen : r.metadata.generation ≠ r.observedGeneration) :
    (updateStep c r v targetId key).Proceeds c ns name (.guarded r) := by
  unfold updateStep
  cases v.updateRequest targetId with
  | error e => exact proceeds_reportBuildError e
  | ok request =>
    refine Pass.proceeds_lift (proceeds_repeatCall (.update hrec hgen) ..) ?_
    rintro (e | state) leg' hend
    · have hleg := (Leg.Operates.guarded r).afterCut hend
      exact proceeds_afterFailure hleg (proceeds_reportFailure e)
    · obtain rfl := hend
      exact proceeds_afterSuccess fun _ => .updated (.observed state _)

lemma proceeds_pollStep {targetId : String} (hrec : r.recordedTarget? = some targetId)
    (hgen : r.metadata.generation = r.observedGeneration) (hset : r.isSettled = false) :
    (pollStep c r v targetId key).Proceeds c ns name (.guarded r) := by
  unfold pollStep
  refine Pass.proceeds_lift (proceeds_callOnce (.poll hrec hgen hset)) ?_
  rintro (e | state) leg' hend
  · exact proceeds_afterFailure ((Leg.Operates.guarded r).afterCut hend) proceeds_backOff
  · obtain rfl := hend
    refine proceeds_afterSuccess fun written => ?_
    by_cases hstate : state.status = targetReady
    · rw [if_pos hstate]
      exact proceeds_setReady (.ready hstate) fun _ => .updated .ready
    · rw [if_neg hstate]
      exact .updated (.observed ..)

lemma proceeds_advance : (advance c r v key).Proceeds c ns name (.guarded r) :=
  advance_cases (motive := fun p => p.Proceeds c ns name (.guarded r)) proceeds_createStep
    proceeds_updateStep
    (fun _ hgen hset _ => ⟨.settled r, .work (.rest hgen hset), .settled⟩) proceeds_pollStep

lemma proceeds_removeFinalizer : (removeFinalizer r key).Proceeds c ns name (.released r) := by
  intro outcome
  cases outcome with
  | error e => exact ⟨.stopped e, .undetached, .stopped⟩
  | ok r' => exact ⟨.resigned r, .detach, fun forgotten => ⟨_, .book forgotten rfl rfl, .resigned⟩⟩

lemma proceeds_deleteRecorded {gatewayId targetId : String} :
    (deleteRecorded c r gatewayId targetId key).Proceeds c ns name
      (.deleting r gatewayId targetId) := by
  refine Pass.proceeds_lift (proceeds_repeatCall .delete ..) ?_
  rintro (e | _) leg' hend
  · have hleg := (Leg.Operates.deleting r gatewayId targetId).afterCut hend
    exact proceeds_afterFailure hleg proceeds_backOff
  · obtain rfl := hend
    exact fun counted => ⟨_, .book counted rfl rfl, proceeds_removeFinalizer⟩

lemma exists_opens_deleteStep (hdel : r.isBeingDeleted) :
    ∃ leg, Leg.Opens r leg ∧ (deleteStep c r key).Proceeds c ns name leg :=
  deleteStep_cases (motive := fun p => ∃ leg, Leg.Opens r leg ∧ p.Proceeds c ns name leg)
    (fun _ => ⟨_, .resigned hdel, .resigned⟩)
    (fun _ _ => ⟨_, .released hdel, proceeds_removeFinalizer⟩)
    (fun _ _ _ => ⟨_, .resigned hdel, .unreachable⟩)
    fun _ _ _ => ⟨_, .deleting hdel, proceeds_deleteRecorded⟩

/-- A copy is taken up in a leg that depends on nothing but the copy. -/
lemma exists_opens_proceeds (r : Resource) :
    ∃ leg, Leg.Opens r leg ∧ (reconcileCopy c r key).Proceeds c ns name leg := by
  refine reconcileCopy_cases
    (motive := fun p => ∃ leg, Leg.Opens r leg ∧ p.Proceeds c ns name leg)
    exists_opens_deleteStep ?invalid
    (fun hdel _ hfin => ⟨_, .guarded hdel hfin, proceeds_advance⟩) ?unguarded
  case invalid =>
    intro e hdel _
    exact ⟨_, .invalid hdel, proceeds_setNotReady (.failed ..) fun _ => .updated (.stop ..)⟩
  case unguarded =>
    intro v hdel _ _
    refine ⟨_, .unguarded hdel, fun outcome => ?_⟩
    cases outcome with
    | error e => exact ⟨.stopped e, .unattached, .stopped⟩
    | ok r' => exact ⟨.guarded r', .attach, proceeds_advance⟩

lemma proceeds_reconcileLatest :
    (reconcileLatest c ns name key).Proceeds c ns name .opening := by
  intro outcome
  rcases outcome with e | _ | r
  · exact ⟨.stopped e, .unread, .stopped⟩
  · exact ⟨.absent, .miss, fun forgotten => ⟨_, .book forgotten rfl rfl, .absent⟩⟩
  · obtain ⟨leg, hopens, hproceeds⟩ :
        ∃ leg, Leg.Opens r leg ∧ (reconcileCopy c r key).Proceeds c ns name leg :=
      exists_opens_proceeds r
    exact ⟨leg, .read hopens, hproceeds⟩

end Parts

/-- Every pass keeps to the legs, whatever it is answered, and ends as they allow. -/
theorem reconcile_proceeds (c : Config) (ns name : String) :
    (reconcile c ns name).run.Follows (Proceeds ns name) (Leg.Results c) .waking := by
  rw [run_reconcile]
  intro cancelled
  cases cancelled with
  | true => exact ⟨.cancelled, .oversleep, _, .cancelled, rfl⟩
  | false =>
    refine ⟨.opening, .wake, ?_⟩
    refine Program.Follows.bind (Program.Follows.weaken ?_ proceeds_reconcileLatest)
    exact fun ending leg hends => ⟨ending, hends, rfl⟩

/-- Nothing but a refusal of the store makes a pass fail, and no conflict does. -/
theorem exists_refusal_of_failed {c : Config} {ns name : String} {e : Error} {turns : List Turn}
    (h : Dialogue (reconcile c ns name).run (.done (.error e)) turns) :
    ∃ e', e = .store e' ∧ e'.isConflict = false := by
  obtain ⟨leg, hresults⟩ := h.exists_ends (reconcile_proceeds c ns name)
  exact hresults.exists_refusal

end TargetRegistrar.Controller
