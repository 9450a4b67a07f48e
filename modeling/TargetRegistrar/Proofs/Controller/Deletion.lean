import TargetRegistrar.Proofs.Controller.Footprint
import TargetRegistrar.Proofs.Controller.Recording
import TargetRegistrar.Proofs.Controller.Scripted
import TargetRegistrar.Proofs.Store.Versions

/-!
# Deletion, from the first look to the last

What a pass does with a resource that is being deleted is decided by three things: whether a target
is recorded, whether its gateway is known, and how the deletion of the target ends.  `Parting` says
what follows in each case: which directive, which writes, which entry in the books.  A specification
that is not valid is not among the reasons, because a deletion does not look at it.

A second run shows that by comparison.  Two resources that differ in their specifications, but not
in the gateway that these name, are not told apart: at every turn the two sessions are `Abreast`.
-/

namespace TargetRegistrar.Controller

open Gateway Registration

/-! ## What turns tell -/

/-- The write that a turn asks for. -/
def Turn.write? : Turn → Option Store.Request
  | ⟨.store (.get ..), _⟩ => none
  | ⟨.store request, _⟩ => some request
  | _ => none

/-- The writes that are asked for, the last one first. -/
def writesAsked (turns : List Turn) : List Store.Request :=
  turns.filterMap Turn.write?

/-- How the deletion of a target ends. -/
inductive Ending where
  /-- No call has been made. -/
  | uncalled
  /-- The target has been deleted, or there was none. -/
  | deleted
  | failed (e : Gateway.Error)
  | cancelled
  deriving DecidableEq, Repr

/-- What the outcome of a deletion comes to. -/
def endingOf {α : Type} : Except Gateway.Error α → Ending
  | .ok _ => .deleted
  | .error e =>
    if e.isNotFound then .deleted else if e.isCancelled then .cancelled else .failed e

/-- How the deletion ends if it ends with this turn. -/
def Turn.ending? : Turn → Option Ending
  | ⟨.gateway _, .cancelled⟩ => some .cancelled
  | ⟨.gateway _, .finished outcome⟩ => some (endingOf outcome)
  | ⟨.wait _, .cancelled⟩ => some .cancelled
  | _ => none

/-- How the deletion ends: the last call or the last wait says so. -/
def ending (turns : List Turn) : Ending :=
  (turns.findSome? Turn.ending?).getD .uncalled

/-! ## What becomes of the resource -/

/-- The finalizers of a resource without the controller's own, wherever that stands. -/
def otherFinalizers (r : Resource) : List String :=
  r.finalizers.filter (· ≠ finalizer)

/-- The resource is let go: its finalizers are written without the controller's own, and if there is
no other one the resource leaves the store. -/
structure LetGo (store : Store.InMemory) (ns name : String) (r : Resource) (turns : List Turn) :
    Prop where
  written : writesAsked turns = [.replaceFinalizers r (otherFinalizers r)]
  gone : otherFinalizers r = [] → (store.afterTurns turns).current ns name = none
  guarded : otherFinalizers r ≠ [] → ∃ r', (store.afterTurns turns).current ns name = some r' ∧
    r'.finalizers = otherFinalizers r ∧ r'.isBeingDeleted ∧ r'.spec = r.spec ∧ r'.status = r.status
  elsewhere : ∀ place ≠ (ns, name),
    (store.afterTurns turns).objects.get? place = store.objects.get? place

/-- Nothing is written. -/
structure LeftAlone (store : Store.InMemory) (turns : List Turn) : Prop where
  unwritten : writesAsked turns = []
  store : store.afterTurns turns = store

/-- A pass ends with a directive, and with the books as given. -/
structure EndsWith (directive : Directive) (ledger : Backoff.Ledger) (played : Played) : Prop where
  result : played.1 = .ok directive
  ledger : played.2.ledger = ledger

/-- What a pass does with a resource that is being deleted and carries the finalizer. -/
structure Parting (c : Config) (store : Store.InMemory) (ns name : String) (r : Resource)
    (cancel : Instant) (ledger : Backoff.Ledger) (played : Played) : Prop where
  /-- Its only call is the deletion of the recorded target. -/
  calls : ∀ call ∈ callsAsked played.2.turns, ∃ gatewayId targetId,
    r.recordedTarget? = some targetId ∧
      resolveGateway c.defaultGateway r.spec = .ok gatewayId ∧ call = .delete gatewayId targetId
  /-- It writes no status. -/
  silent : ∀ copy status, .replaceStatus copy status ∉ writesAsked played.2.turns
  /-- Without a target there is nothing to delete. -/
  untargeted : cancel ≠ some 0 → r.recordedTarget? = none →
    LetGo store ns name r played.2.turns ∧
      EndsWith .done (ledger.forget (ns ++ "/" ++ name)) played
  deleted : ending played.2.turns = .deleted →
    LetGo store ns name r played.2.turns ∧
      EndsWith .done (ledger.forget (ns ++ "/" ++ name)) played
  /-- A target whose gateway is not known cannot be deleted. -/
  unreachable : ∀ targetId e, cancel ≠ some 0 → r.recordedTarget? = some targetId →
    resolveGateway c.defaultGateway r.spec = .error e →
    callsAsked played.2.turns = [] ∧ LeftAlone store played.2.turns ∧ EndsWith .stop ledger played
  failed : ∀ e, ending played.2.turns = .failed e →
    (e.isRetryable → (callsAsked played.2.turns).length = c.policy.maxRetries + 1) ∧
      LeftAlone store played.2.turns ∧
      EndsWith (.requeueAfter (ledger.fail (ns ++ "/" ++ name)).1)
        (ledger.fail (ns ++ "/" ++ name)).2 played
  cancelled : cancel = some 0 ∨ ending played.2.turns = .cancelled →
    LeftAlone store played.2.turns ∧ EndsWith (.requeueAfter c.pollInterval) ledger played
  /-- There is no further case. -/
  decided : cancel = some 0 ∨ r.recordedTarget? = none ∨
    (∃ e, resolveGateway c.defaultGateway r.spec = .error e) ∨
    ending played.2.turns ≠ .uncalled

/-- Nobody else writes the resource, which is being deleted and carries the finalizer. -/
structure Departing (x : Script) (store : Store.InMemory) (ns name : String) (r : Resource) :
    Prop where
  keeps : x.Keeps store
  unopposed : store.Unopposed
  stored : store.current ns name = some r
  located : Store.location r = (ns, name)
  deleted : r.isBeingDeleted
  guarded : r.hasFinalizer finalizer

/-! ## Parts of the pass -/

section Parts

variable {c : Config} {ns name key gatewayId targetId : String} {r : Resource}
  {store : Store.InMemory} {x : Script} {cancel : Instant} {s s' : Session}
  {ledger : Backoff.Ledger} {metrics : Metrics} {call : Call} {policy : RetryPolicy}
  {turns : List Turn}

/-- An operation asks nothing of the store. -/
lemma Engaged.unwritten (h : Engaged call s s') : writesAsked s'.turns = writesAsked s.turns := by
  obtain ⟨later, hturns, hlater⟩ := h.turns
  have hnone : later.filterMap Turn.write? = [] := by
    rw [List.filterMap_eq_nil_iff]
    rintro ⟨q, answer⟩ ht
    cases hlater _ ht <;> rfl
  rw [hturns, writesAsked, List.filterMap_append, hnone, List.nil_append]
  rfl

lemma Engaged.afterTurns (h : Engaged call s s') :
    store.afterTurns s'.turns = store.afterTurns s.turns := by
  obtain ⟨later, hturns, hlater⟩ := h.turns
  rw [hturns]
  clear hturns
  induction later with
  | nil => rfl
  | cons t later ih =>
    obtain ⟨q, answer⟩ := t
    have hlater' := ih fun t ht => hlater t (List.mem_cons_of_mem _ ht)
    cases hlater ⟨q, answer⟩ List.mem_cons_self <;> exact hlater'

/-- A deletion that returns without a failure has ended with the target gone. -/
lemma Concluded.deleted {reply : Unit}
    (h : Concluded policy (.delete gatewayId targetId) turns (.ok reply)) :
    ending turns = .deleted := by
  generalize houtcome : (Except.ok reply : (Call.delete gatewayId targetId).Outcome) = result at h
  cases h with
  | cutCall _ => cases houtcome
  | cutWait _ => cases houtcome
  | @finished outcome earlier h _ =>
    subst h
    cases outcome with
    | ok reply' => rfl
    | error e =>
      by_cases hnone : e.isNotFound = true
      · simp [ending, Turn.ending?, endingOf, hnone]
      · simp [settle, hnone, conclude] at houtcome

/-- A deletion that returns a failure has been cancelled, or its last call has failed. -/
lemma Concluded.undeleted {e : Gateway.Error}
    (h : Concluded policy (.delete gatewayId targetId) turns (.error e)) :
    (e.isCancelled ∧ ending turns = .cancelled) ∨
      (e.isCancelled = false ∧ ∃ last, ending turns = .failed last ∧
        (last.isRetryable → (callsAsked turns).length = policy.maxRetries + 1)) := by
  generalize houtcome : (Except.error e : (Call.delete gatewayId targetId).Outcome) = result at h
  cases h with
  | cutCall h =>
    cases houtcome
    exact .inl ⟨rfl, by rw [h]; rfl⟩
  | cutWait h =>
    cases houtcome
    exact .inl ⟨rfl, by rw [h]; rfl⟩
  | @finished outcome earlier h hover =>
    cases outcome with
    | ok reply' => cases houtcome
    | error last =>
      by_cases hnone : last.isNotFound = true
      · simp [settle, hnone, conclude] at houtcome
      · have hending : ending turns = if last.isCancelled then .cancelled else .failed last := by
          rw [h]
          simp [ending, Turn.ending?, endingOf, hnone]
        have hsettled : settle (.delete gatewayId targetId) (.error last) = .error last := by
          simp [settle, hnone]
        rw [hsettled] at houtcome hover
        by_cases hcancelled : last.isCancelled = true
        · have hretry : last.isRetryable = false := by simp [Error.isRetryable, hcancelled]
          obtain rfl : e = last := by simpa [conclude, hretry] using houtcome
          exact .inl ⟨hcancelled, by rw [hending, if_pos hcancelled]⟩
        · refine .inr ⟨?_, last, by rw [hending, if_neg hcancelled], hover⟩
          rw [Bool.not_eq_true] at hcancelled
          by_cases hretry : last.isRetryable = true
          · obtain rfl : e = .retriesExhausted _ _ last := by
              simpa [conclude, hretry] using houtcome
            exact hcancelled
          · obtain rfl : e = last := by simpa [conclude, hretry] using houtcome
            exact hcancelled

/-- What a pass has asked when it has read a resource. -/
def reading (ns name : String) (r : Resource) : List Turn :=
  [⟨.store (.get ns name), .ok (some r)⟩, ⟨.isCancelled, false⟩]

/-- What a pass has asked when it has taken the finalizer off and forgotten the resource. -/
def releasing (key : String) (r written : Resource) (turns : List Turn) : List Turn :=
  ⟨.forget key, ()⟩ :: ⟨.store (.replaceFinalizers r (otherFinalizers r)), .ok written⟩ :: turns

/-- A pass that has let the resource go writes no status. -/
lemma LetGo.silent (h : LetGo store ns name r turns) (copy : Resource) (status : Status) :
    .replaceStatus copy status ∉ writesAsked turns := by
  simp [h.written]

lemma LeftAlone.silent (h : LeftAlone store turns) (copy : Resource) (status : Status) :
    .replaceStatus copy status ∉ writesAsked turns := by
  simp [h.unwritten]

/-- A resource from which the finalizer has been taken off is let go. -/
lemma letGo_releasing {written : Resource} (h : Departing x store ns name r)
    (halone : LeftAlone store turns)
    (hwritten : store.FinalizersWritten (store.replaceFinalizers r (otherFinalizers r)).2 r
      (otherFinalizers r) r written) : LetGo store ns name r (releasing key r written turns) := by
  have hafter : store.afterTurns (releasing key r written turns) =
      (store.replaceFinalizers r (otherFinalizers r)).2 := by
    simp only [releasing, Store.InMemory.afterTurns, halone.store]
    rfl
  have hget : ∀ place, (store.afterTurns (releasing key r written turns)).objects.get? place = _ :=
    fun place => by rw [hafter, hwritten.get? place]
  rw [h.located] at hget
  refine ⟨?_, fun hnone => ?_, fun hsome => ?_, fun place hne => ?_⟩
  · show .replaceFinalizers r (otherFinalizers r) :: writesAsked turns = _
    rw [halone.unwritten]
  · rw [Store.InMemory.current, hget, if_pos rfl, if_pos ⟨h.deleted, by simp [hnone]⟩]
  · refine ⟨written, ?_, ?_⟩
    · rw [Store.InMemory.current, hget, if_pos rfl, if_neg (by simp [hsome])]
    · rw [hwritten.result]
      exact ⟨rfl, h.deleted, rfl, rfl⟩
  · rw [hget, if_neg hne]

/-- Where nobody interferes the finalizer is taken off, and the resource is let go and forgotten. -/
lemma play_removeFinalizer (key : String) (cancel : Instant) (h : Departing x store ns name r)
    (halone : LeftAlone store s.turns) :
    ∃ written, LetGo store ns name r (releasing key r written s.turns) ∧
      (removeFinalizer r key).run.play x cancel s = (.ok .done,
        { s with turns := releasing key r written s.turns, ledger := s.ledger.forget key }) := by
  have hstored : store.objects.get? (Store.location r) = some r := by
    rw [h.located]
    exact h.stored
  obtain ⟨hconflict, -⟩ | ⟨written, hok, hwritten⟩ :=
    Store.InMemory.replaceFinalizers_stored hstored (otherFinalizers r)
  · rw [h.unopposed.finalizers] at hconflict
    cases hconflict
  · have hserved : x.store s.turns (.replaceFinalizers r (otherFinalizers r)) = .ok written := by
      rw [h.keeps, halone.store]
      exact hok
    exact ⟨written, letGo_releasing h halone hwritten, Pass.play_store hserved fun _ => do
      Pass.query (.forget key)
      return Directive.done⟩

/-! ## Each case -/

/-- A pass that is cancelled beforehand looks at nothing. -/
lemma parting_beforehand :
    Parting c store ns name r (some 0) ledger
      (.ok (.requeueAfter c.pollInterval), ⟨[⟨.isCancelled, true⟩], [], ledger, metrics⟩) where
  calls := by simp [callsAsked, Turn.call?]
  silent := by simp [writesAsked, Turn.write?]
  untargeted := by simp
  deleted := by simp [ending, Turn.ending?]
  unreachable := by simp
  failed := by simp [ending, Turn.ending?]
  cancelled _ := ⟨⟨rfl, rfl⟩, rfl, rfl⟩
  decided := .inl rfl

/-- A pass that cannot reach the gateway of a recorded target stops. -/
lemma parting_unreachable {e : ValidationError} (hawake : cancel ≠ some 0)
    (hrec : r.recordedTarget? = some targetId)
    (hgw : resolveGateway c.defaultGateway r.spec = .error e) :
    Parting c store ns name r cancel ledger
      (.ok .stop, ⟨reading ns name r, [], ledger, metrics⟩) := by
  have hending : ending (reading ns name r) = .uncalled := rfl
  have hcalls : callsAsked (reading ns name r) = [] := rfl
  have halone : LeftAlone store (reading ns name r) := ⟨rfl, rfl⟩
  exact {
    calls := by simp [hcalls]
    silent := halone.silent
    untargeted := by simp [hrec]
    deleted := by simp [hending]
    unreachable := fun _ _ _ _ _ => ⟨hcalls, halone, rfl, rfl⟩
    failed := by simp [hending]
    cancelled := by simp [hending, hawake]
    decided := .inr (.inr (.inl ⟨e, hgw⟩)) }

/-- A pass that has read a resource without a target lets it go. -/
lemma parting_untargeted {written : Resource} (hawake : cancel ≠ some 0)
    (hrec : r.recordedTarget? = none)
    (hletGo : LetGo store ns name r (releasing key r written (reading ns name r)))
    (hkey : key = ns ++ "/" ++ name) :
    Parting c store ns name r cancel ledger
      (.ok .done,
        ⟨releasing key r written (reading ns name r), [], ledger.forget key, metrics⟩) := by
  have hending : ending (releasing key r written (reading ns name r)) = .uncalled := rfl
  have hcalls : callsAsked (releasing key r written (reading ns name r)) = [] := rfl
  exact {
    calls := by simp [hcalls]
    silent := hletGo.silent
    untargeted := fun _ _ => ⟨hletGo, rfl, by rw [hkey]⟩
    deleted := by simp [hending]
    unreachable := by simp [hrec]
    failed := by simp [hending]
    cancelled := by simp [hending, hawake]
    decided := .inr (.inl hrec) }

/-- A deletion has been under way since a pass has read a resource: it has called for nothing else,
and it has written and booked nothing. -/
structure Called (c : Config) (store : Store.InMemory) (r : Resource) (cancel : Instant)
    (gatewayId targetId : String) (turns : List Turn) : Prop where
  awake : cancel ≠ some 0
  recorded : r.recordedTarget? = some targetId
  reached : resolveGateway c.defaultGateway r.spec = .ok gatewayId
  calls : ∀ call ∈ callsAsked turns, call = .delete gatewayId targetId
  alone : LeftAlone store turns

lemma Called.calls_known (h : Called c store r cancel gatewayId targetId turns) :
    ∀ call ∈ callsAsked turns, ∃ gatewayId targetId, r.recordedTarget? = some targetId ∧
      resolveGateway c.defaultGateway r.spec = .ok gatewayId ∧
      call = .delete gatewayId targetId :=
  fun call hcall => ⟨gatewayId, targetId, h.recorded, h.reached, h.calls call hcall⟩

/-- Once the target is gone, the resource is let go. -/
lemma parting_deleted {written : Resource} {begun : List (Nat × Call)}
    (h : Called c store r cancel gatewayId targetId turns) (hending : ending turns = .deleted)
    (hletGo : LetGo store ns name r (releasing key r written turns))
    (hkey : key = ns ++ "/" ++ name) :
    Parting c store ns name r cancel ledger
      (.ok .done, ⟨releasing key r written turns, begun, ledger.forget key, metrics⟩) := by
  have hending' : ending (releasing key r written turns) = .deleted := hending
  exact {
    calls := h.calls_known
    silent := hletGo.silent
    untargeted := by simp [h.recorded]
    deleted := fun _ => ⟨hletGo, rfl, by rw [hkey]⟩
    unreachable := by simp [h.reached]
    failed := by simp [hending']
    cancelled := by simp [hending', h.awake]
    decided := .inr (.inr (.inr (by simp [hending']))) }

/-- A deletion that fails is waited out. -/
lemma parting_failed {begun : List (Nat × Call)} {e : Gateway.Error}
    (h : Called c store r cancel gatewayId targetId turns) (hending : ending turns = .failed e)
    (hover : e.isRetryable → (callsAsked turns).length = c.policy.maxRetries + 1)
    (hkey : key = ns ++ "/" ++ name) :
    Parting c store ns name r cancel ledger (.ok (.requeueAfter (ledger.fail key).1),
      ⟨⟨.fail key, (ledger.fail key).1⟩ :: turns, begun, (ledger.fail key).2, metrics⟩) := by
  have hending' : ending (⟨.fail key, (ledger.fail key).1⟩ :: turns) = .failed e := hending
  have halone : LeftAlone store (⟨.fail key, (ledger.fail key).1⟩ :: turns) :=
    ⟨h.alone.unwritten, h.alone.store⟩
  exact {
    calls := h.calls_known
    silent := halone.silent
    untargeted := by simp [h.recorded]
    deleted := by simp [hending']
    unreachable := by simp [h.reached]
    failed := fun e' he' => by
      cases hending'.symm.trans he'
      subst hkey
      exact ⟨hover, halone, rfl, rfl⟩
    cancelled := by simp [hending', h.awake]
    decided := .inr (.inr (.inr (by simp [hending']))) }

/-- A deletion that has been cancelled is left to a later pass. -/
lemma parting_cancelled {begun : List (Nat × Call)}
    (h : Called c store r cancel gatewayId targetId turns) (hending : ending turns = .cancelled) :
    Parting c store ns name r cancel ledger
      (.ok (.requeueAfter c.pollInterval), ⟨turns, begun, ledger, metrics⟩) where
  calls := h.calls_known
  silent := h.alone.silent
  untargeted := by simp [h.recorded]
  deleted := by simp [hending]
  unreachable := by simp [h.reached]
  failed := by simp [hending]
  cancelled _ := ⟨h.alone, rfl, rfl⟩
  decided := .inr (.inr (.inr (by simp [hending])))

/-! ## The whole pass -/

/-- The session of a pass that has read a resource. -/
def readSession (ns name : String) (r : Resource) (ledger : Backoff.Ledger) (metrics : Metrics) :
    Session :=
  ⟨reading ns name r, [], ledger, metrics⟩

/-- The deletion of a recorded target is an operation, from the first call on. -/
lemma play_deleteTarget (x : Script) (store : Store.InMemory) (ns name : String)
    (ledger : Backoff.Ledger) (metrics : Metrics) (hawake : cancel ≠ some 0)
    (hrec : r.recordedTarget? = some targetId)
    (hgw : resolveGateway c.defaultGateway r.spec = .ok gatewayId) :
    let played := (deleteTarget c.policy gatewayId targetId).play x cancel
      (readSession ns name r ledger metrics)
    Called c store r cancel gatewayId targetId played.2.turns ∧
      Concluded c.policy (.delete gatewayId targetId) played.2.turns played.1 ∧
      played.2.ledger = ledger := by
  obtain ⟨hengaged, hconcluded⟩ := play_repeatCall x cancel c.policy (.delete gatewayId targetId)
    (readSession ns name r ledger metrics) c.policy.firstBackoff (Nat.zero_add _)
  refine ⟨⟨hawake, hrec, hgw, fun call hcall => ?_, hengaged.unwritten, hengaged.afterTurns⟩,
    hconcluded, hengaged.ledger⟩
  exact (hengaged.mem_callsAsked hcall).resolve_left
    (by simp [callsAsked, readSession, reading, Turn.call?])

lemma play_deleteStep (c : Config) (ledger : Backoff.Ledger) (metrics : Metrics)
    (h : Departing x store ns name r) (hawake : cancel ≠ some 0) :
    ∃ d s', (deleteStep c r (ns ++ "/" ++ name)).run.play x cancel
        (readSession ns name r ledger metrics) = (.ok d, s') ∧
      Parting c store ns name r cancel ledger (.ok d, s') := by
  simp only [deleteStep, h.guarded, if_true]
  cases hrec : r.recordedTarget? with
  | none =>
    have halone : LeftAlone store (readSession ns name r ledger metrics).turns := ⟨rfl, rfl⟩
    obtain ⟨written, hletGo, hplay⟩ := play_removeFinalizer (ns ++ "/" ++ name) cancel h halone
    exact ⟨_, _, hplay, parting_untargeted hawake hrec hletGo rfl⟩
  | some targetId =>
    cases hgw : resolveGateway c.defaultGateway r.spec with
    | error e => exact ⟨_, _, rfl, parting_unreachable hawake hrec hgw⟩
    | ok gatewayId =>
      obtain ⟨hcalled, hconcluded, hledger⟩ :=
        play_deleteTarget x store ns name ledger metrics hawake hrec hgw
      simp only [Pass.play_lift]
      generalize (deleteTarget c.policy gatewayId targetId).play x cancel _ = played at *
      obtain ⟨outcome, turns, begun, ledger', metrics'⟩ := played
      obtain rfl : ledger' = ledger := hledger
      cases outcome with
      | ok reply =>
        have hcounted : Called c store r cancel gatewayId targetId
            (⟨.countCall .delete true, ()⟩ :: turns) :=
          ⟨hawake, hrec, hgw, hcalled.calls, hcalled.alone.unwritten, hcalled.alone.store⟩
        obtain ⟨written, hletGo, hplay⟩ := play_removeFinalizer (ns ++ "/" ++ name) cancel
          (s := ⟨_, begun, ledger', metrics'.countCall "delete" true⟩) h hcounted.alone
        exact ⟨_, _, hplay, parting_deleted hcounted hconcluded.deleted hletGo rfl⟩
      | error e =>
        obtain ⟨hcancelled, hending⟩ | ⟨hfailed, last, hending, hover⟩ := hconcluded.undeleted
        · simp only [hcancelled, if_true]
          exact ⟨_, _, rfl, parting_cancelled hcalled hending⟩
        · have hcounted : Called c store r cancel gatewayId targetId
              (⟨.countCall .delete false, ()⟩ :: turns) :=
            ⟨hawake, hrec, hgw, hcalled.calls, hcalled.alone.unwritten, hcalled.alone.store⟩
          simp only [hfailed]
          exact ⟨_, _, rfl, parting_failed hcounted hending hover rfl⟩

/-- A pass begins by reading the resource, and goes on with the copy. -/
lemma play_reconcile {d : Directive} (h : Departing x store ns name r) (hawake : cancel ≠ some 0)
    (hplay : (deleteStep c r (ns ++ "/" ++ name)).run.play x cancel
      (readSession ns name r ledger metrics) = (.ok d, s')) :
    (reconcile c ns name).run.play x cancel { ledger, metrics } = (.ok d, s') := by
  have hlook : (Session.mk [] [] ledger metrics).answer x cancel .isCancelled = false := by
    cases cancel with
    | none => rfl
    | some k =>
      have hk : k ≠ 0 := fun hk => hawake (congrArg some hk)
      simp [Session.answer, Session.clock, hk]
  have hread : x.store [⟨.isCancelled, false⟩] (.get ns name) = .ok (some r) := by
    rw [h.keeps]
    exact congrArg Except.ok h.stored
  rw [reconcile, Pass.play_query, hlook]
  refine Pass.play_orElse_ok ?_
  rw [reconcileLatest, Pass.play_store hread]
  simp only [reconcileCopy, h.deleted, if_true]
  exact hplay

end Parts

/-! ## Two runs -/

/-- The finalizers that a turn writes. -/
def Turn.marks? : Turn → Option (List String)
  | ⟨.store (.replaceFinalizers _ finalizers), _⟩ => some finalizers
  | _ => none

/-- The finalizers that are written, the last ones first. -/
def marksAsked (turns : List Turn) : List (List String) :=
  turns.filterMap Turn.marks?

/-- The turns that concern the gateway, by a call or by a wait between calls. -/
def remoteTurns (turns : List Turn) : List Turn :=
  turns.filter (·.query.isRaced)

/-- Two gateways answer alike, as long as they have been asked alike. -/
def AlikeGateways (x x' : Script) : Prop :=
  ∀ turns turns' call, remoteTurns turns = remoteTurns turns' →
    x.gateway turns call = x'.gateway turns' call

/-- Two sessions have come equally far: they have made the same calls with the same answers, they
have written the same finalizers, and their books agree. -/
structure Abreast (s s' : Session) : Prop where
  clock : s'.clock = s.clock
  remote : remoteTurns s.turns = remoteTurns s'.turns
  begun : s'.begun = s.begun
  marks : marksAsked s'.turns = marksAsked s.turns
  ledger : s'.ledger = s.ledger

/-- Two runs have ended with the same result, and abreast. -/
structure Alongside {α : Type} (run run' : α × Session) : Prop where
  result : run'.1 = run.1
  abreast : Abreast run.2 run'.2

/-- Whether the answer to a question is the same in all sessions that are abreast. -/
def Query.isShared : Query → Bool
  | store _ => false
  | now => false
  | freshToken => false
  | _ => true

section Runs

variable {α : Type} {c : Config} {ns name key gatewayId targetId : String} {r r' : Resource}
  {store store' : Store.InMemory} {x x' : Script} {cancel : Instant} {s s' : Session}
  {ledger : Backoff.Ledger} {metrics : Metrics} {q : Query}

lemma Abreast.answer_eq (h : Abreast s s') (halike : AlikeGateways x x') (hq : q.isShared) :
    s'.answer x' cancel q = s.answer x cancel q := by
  cases q with
  | store request => cases hq
  | now => cases hq
  | freshToken => cases hq
  | gateway call => simp only [Session.answer, h.clock, halike _ _ call h.remote]
  | wait delay => simp only [Session.answer, h.clock]
  | isCancelled => simp only [Session.answer, h.clock]
  | fail key => simp only [Session.answer, h.ledger]
  | _ => rfl

lemma Abreast.after (h : Abreast s s') (hq : q.isShared) (answer : q.Answer) :
    Abreast (s.after cancel q answer) (s'.after cancel q answer) where
  clock := congrArg Nat.succ h.clock
  remote := by
    have hcons : ∀ turns, remoteTurns (⟨q, answer⟩ :: turns) =
        if q.isRaced then ⟨q, answer⟩ :: remoteTurns turns else remoteTurns turns :=
      fun _ => List.filter_cons
    simp only [Session.after, hcons, h.remote]
  begun := by
    cases q with
    | gateway call => simp only [Session.after, Session.begunBy, h.clock, h.begun]
    | _ => exact h.begun
  marks := by
    cases q with
    | store request => cases hq
    | _ => exact h.marks
  ledger := by
    cases q with
    | fail key => simp only [Session.after, Session.ledgerAfter, h.ledger]
    | succeed key => simp only [Session.after, Session.ledgerAfter, h.ledger]
    | forget key => simp only [Session.after, Session.ledgerAfter, h.ledger]
    | _ => exact h.ledger

/-- A program that asks only what is shared runs alike in both sessions. -/
lemma Abreast.play {p : Program α} (cancel : Instant) (h : Abreast s s')
    (halike : AlikeGateways x x') (hp : p.Asks fun q => q.isShared) :
    Alongside (p.play x cancel s) (p.play x' cancel s') := by
  induction p generalizing s s' with
  | done a => exact ⟨rfl, h⟩
  | ask q next ih =>
    simp only [Program.play, h.answer_eq halike hp.1]
    exact ih _ (h.after hp.1 _) (hp.2 _)

/-- Two copies that are read keep two sessions abreast. -/
lemma abreast_readSession (ns name : String) (r r' : Resource) (ledger : Backoff.Ledger)
    (metrics : Metrics) :
    Abreast (readSession ns name r ledger metrics) (readSession ns name r' ledger metrics) :=
  ⟨rfl, rfl, rfl, rfl, rfl⟩

/-- Two resources with the same finalizers are let go in the same way. -/
lemma Abreast.released (h : Abreast s s') (hfin : r'.finalizers = r.finalizers)
    (written written' : Resource) :
    Abreast { s with turns := releasing key r written s.turns, ledger := s.ledger.forget key }
      { s' with turns := releasing key r' written' s'.turns, ledger := s'.ledger.forget key } where
  clock := congrArg (· + 2) h.clock
  remote := h.remote
  begun := h.begun
  marks := by
    show otherFinalizers r' :: marksAsked s'.turns = otherFinalizers r :: marksAsked s.turns
    rw [h.marks, otherFinalizers, otherFinalizers, hfin]
  ledger := by rw [h.ledger]

lemma Abreast.removeFinalizer (hs : Abreast s s') (h : Departing x store ns name r)
    (h' : Departing x' store' ns name r') (hfin : r'.finalizers = r.finalizers)
    (halone : LeftAlone store s.turns) (halone' : LeftAlone store' s'.turns) :
    Alongside ((removeFinalizer r key).run.play x cancel s)
      ((removeFinalizer r' key).run.play x' cancel s') := by
  obtain ⟨written, -, hplay⟩ := play_removeFinalizer key cancel h halone
  obtain ⟨written', -, hplay'⟩ := play_removeFinalizer key cancel h' halone'
  rw [hplay, hplay']
  exact ⟨rfl, hs.released hfin written written'⟩

/-- What a deletion depends on is the same for two resources. -/
structure Twins (c : Config) (r r' : Resource) : Prop where
  recorded : r'.recordedTarget? = r.recordedTarget?
  gateway : resolveGateway c.defaultGateway r'.spec = resolveGateway c.defaultGateway r.spec
  finalizers : r'.finalizers = r.finalizers

lemma alongside_deleteStep (h : Departing x store ns name r) (h' : Departing x' store' ns name r')
    (htwins : Twins c r r') (halike : AlikeGateways x x') (hawake : cancel ≠ some 0) :
    Alongside ((deleteStep c r key).run.play x cancel (readSession ns name r ledger metrics))
      ((deleteStep c r' key).run.play x' cancel (readSession ns name r' ledger metrics)) := by
  have hread := abreast_readSession ns name r r' ledger metrics
  simp only [deleteStep, h.guarded, h'.guarded, if_true, htwins.recorded, htwins.gateway]
  cases hrec : r.recordedTarget? with
  | none => exact hread.removeFinalizer h h' htwins.finalizers ⟨rfl, rfl⟩ ⟨rfl, rfl⟩
  | some targetId =>
    cases hgw : resolveGateway c.defaultGateway r.spec with
    | error e => exact ⟨rfl, hread⟩
    | ok gatewayId =>
      obtain ⟨hcalled, -, -⟩ := play_deleteTarget x store ns name ledger metrics hawake hrec hgw
      obtain ⟨hcalled', -, -⟩ := play_deleteTarget x' store' ns name ledger metrics hawake
        (htwins.recorded.trans hrec) (htwins.gateway.trans hgw)
      have hshared : (deleteTarget c.policy gatewayId targetId).Asks fun q => q.isShared :=
        asks_repeatCall (P := fun q => q.isShared) rfl (fun _ => rfl) ..
      obtain ⟨houtcome, habreast⟩ := hread.play cancel halike hshared
      simp only [Pass.play_lift, houtcome]
      cases (Program.play x cancel (deleteTarget c.policy gatewayId targetId)
          (readSession ns name r ledger metrics)).1 with
      | ok reply =>
        exact (habreast.after (q := .countCall .delete true) rfl ()).removeFinalizer h h'
          htwins.finalizers ⟨hcalled.alone.unwritten, hcalled.alone.store⟩
          ⟨hcalled'.alone.unwritten, hcalled'.alone.store⟩
      | error e =>
        have hwaited : (afterFailure c .delete e (backOff key)).Asks fun q => q.isShared :=
          asks_afterFailure (P := fun q => q.isShared) rfl e
            (Pass.asks_bind (Pass.asks_query rfl) fun _ => Pass.asks_pure _)
        exact habreast.play cancel halike hwaited

end Runs

/-- A pass on a resource that is being deleted, for which nobody interferes with the store, does
what its record, its gateway and the answers to its deletion demand, wherever it is cancelled
(`Parting`).  A resource that differs in its specification, but not in the gateway that this names,
is treated alike, call by call and write by write. -/
theorem deletion_complete {c : Config} {ns name : String} {r : Resource} {store : Store.InMemory}
    {x : Script} (cancel : Instant) (ledger : Backoff.Ledger) (metrics : Metrics)
    (h : Departing x store ns name r) :
    Parting c store ns name r cancel ledger
        ((reconcile c ns name).run.play x cancel { ledger, metrics }) ∧
      ∀ (x' : Script) (store' : Store.InMemory) (r' : Resource), Departing x' store' ns name r' →
        r' = { r with spec := r'.spec } → r'.spec.gatewayId = r.spec.gatewayId →
        AlikeGateways x x' →
        Alongside ((reconcile c ns name).run.play x cancel { ledger, metrics })
          ((reconcile c ns name).run.play x' cancel { ledger, metrics }) := by
  by_cases hawake : cancel = some 0
  · subst hawake
    exact ⟨parting_beforehand, fun _ _ _ _ _ _ _ => ⟨rfl, rfl, rfl, rfl, rfl, rfl⟩⟩
  · obtain ⟨d, s, hplay, hparting⟩ := play_deleteStep c ledger metrics h hawake
    rw [play_reconcile h hawake hplay]
    refine ⟨hparting, fun x' store' r' h' hr' hgateway halike => ?_⟩
    have htwins : Twins c r r' :=
      ⟨by rw [hr']; rfl, resolveGateway_congr _ hgateway, by rw [hr']; rfl⟩
    obtain ⟨d', s', hplay', -⟩ := play_deleteStep c ledger metrics h' hawake
    rw [play_reconcile h' hawake hplay', ← hplay, ← hplay']
    exact alongside_deleteStep h h' htwins halike hawake

/-- A gateway that cannot be reached at first, and then has no such target. -/
def sampleForgetful (turns : List Turn) (call : Call) : call.Outcome :=
  if (remoteTurns turns).isEmpty then .error (.transport "connection reset")
  else .error (.api notFoundCode "no such target")

/-- A resource that is being deleted, with the finalizer before and after another one. -/
def sampleDeparting (endpoint : String) : Resource where
  metadata := { sampleRegistered.metadata with
                finalizers := some [finalizer, "backup/guard", finalizer],
                deletionTimestamp := some Store.deletionInstant }
  spec := { sampleRegistered.spec with endpoint }
  status := sampleRegistered.status

/-- The store that holds only that resource. -/
def sampleDepartingStore (endpoint : String) : Store.InMemory :=
  ({} : Store.InMemory).edit (.insert (sampleDeparting endpoint))

lemma departing_sample (endpoint : String) :
    Departing (storing (sampleDepartingStore endpoint) sampleForgetful)
      (sampleDepartingStore endpoint) "tools" "files"
      (({} : Store.InMemory).stamped (sampleDeparting endpoint)) where
  keeps _ _ := rfl
  unopposed := ⟨rfl, rfl⟩
  stored := rfl
  located := rfl
  deleted := rfl
  guarded := by rfl

/-- A resource without an endpoint is let go like one that has an endpoint: the deletion is repeated
once, the target turns out to be gone, and the other finalizer stays. -/
theorem deletion_complete_without_endpoint :
    ∃ played played' : Played,
      played = (reconcile sampleRepeating "tools" "files").run.play
        (storing (sampleDepartingStore "") sampleForgetful) none { ledger := {}, metrics := {} } ∧
      played' = (reconcile sampleRepeating "tools" "files").run.play
        (storing (sampleDepartingStore "https://files.example") sampleForgetful) none
        { ledger := {}, metrics := {} } ∧
      callsAsked played.2.turns = [.delete "gw" "target-1", .delete "gw" "target-1"] ∧
      marksAsked played.2.turns = [["backup/guard"]] ∧ played.1 = .ok .done ∧
      Alongside played played' := by
  obtain ⟨hparting, htwins⟩ :=
    deletion_complete (c := sampleRepeating) none {} {} (departing_sample "")
  have halongside := htwins _ _ _ (departing_sample "https://files.example") rfl rfl
    fun turns turns' call hremote => by simp only [storing, sampleForgetful, hremote]
  refine ⟨_, _, rfl, rfl, ?_, ?_, ?_, halongside⟩
  · decide +kernel
  · decide +kernel
  · exact (hparting.deleted (by decide +kernel)).2.result

end TargetRegistrar.Controller
