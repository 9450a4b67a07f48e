import TargetRegistrar.Proofs.Controller.Cancellation
import TargetRegistrar.Proofs.Controller.Footprint
import TargetRegistrar.Proofs.Controller.Repetition

/-!
# What a pass counts

A pass counts its remote operation, and it does so before it writes down what has come of it.  The
operation itself counts nothing, however often its call is repeated, and a pass has one operation at
most.  So all that a pass has counted is how its operation ended: with a reply, with a failure, or
not at all if there was none or it was cancelled.

`Performed` finds the operation of a pass in its turns, as a stretch of them that is a whole run of
the program of that operation, and `Performed.upshot_eq` shows that there is only one way to find
it.  `reconcile_tallied` is the main statement.
-/

namespace TargetRegistrar.Controller

open Gateway Registration

/-! ## Counts -/

/-- Something that is counted. -/
inductive Count where
  | pass
  | error (label : String)
  | requeue (reason : String)
  | call (operation : Operation) (success : Bool)
  deriving DecidableEq, Repr

/-- What a question counts. -/
def Query.count? : Query → Option Count
  | countCall operation success => some (.call operation success)
  | countPass => some .pass
  | countError label => some (.error label)
  | countRequeue reason => some (.requeue reason)
  | _ => none

/-- What has been counted in some turns, the last one first. -/
def counted (turns : List Turn) : List Count :=
  turns.filterMap (·.query.count?)

/-- Neither is anything counted, nor is it anything that can be cut short. -/
def Query.IsSilent (q : Query) : Prop :=
  q.count? = none ∧ q.isRaced = false

/-! ## Operations -/

/-- The operation of which a call is the first. -/
def operate (policy : RetryPolicy) : (call : Call) → Program call.Outcome
  | .create request => createTarget policy request
  | .get gatewayId targetId => getTarget gatewayId targetId
  | .update request => updateTarget policy request
  | .delete gatewayId targetId => deleteTarget policy gatewayId targetId

/-- What has come of the operation of a pass. -/
inductive Upshot where
  /-- There was none. -/
  | uncalled
  | succeeded (operation : Operation)
  /-- It failed, and not because it was cancelled. -/
  | failed (operation : Operation)
  | cancelled
  deriving DecidableEq, Repr

/-- What is counted of an operation. -/
def Upshot.counts : Upshot → List Count
  | uncalled => []
  | succeeded operation => [.call operation true]
  | failed operation => [.call operation false]
  | cancelled => []

/-- What has come of an operation that has returned. -/
def upshotOf {α : Type} (operation : Operation) : Except Gateway.Error α → Upshot
  | .ok _ => .succeeded operation
  | .error e => if e.isCancelled then .cancelled else .failed operation

/-- What has come of the operation of a pass, of which these are all turns, the last one first. -/
inductive Performed (policy : RetryPolicy) (turns : List Turn) : Upshot → Prop where
  | uncalled (h : ∀ t ∈ turns, t.query.isRaced = false) : Performed policy turns .uncalled
  | called {call : Call} {outcome : call.Outcome} {later during earlier : List Turn}
      (hturns : turns = later ++ during ++ earlier)
      (hduring : Dialogue (operate policy call) (.done outcome) during)
      (hlater : ∀ t ∈ later, t.query.isRaced = false)
      (hearlier : ∀ t ∈ earlier, t.query.isRaced = false) :
      Performed policy turns (upshotOf call.operation outcome)

/-! ## The record of a run -/

/-- Every turn is put before the earlier ones. -/
def Logs (turns : List Turn) (q : Query) (answer : q.Answer) (turns' : List Turn) : Prop :=
  turns' = ⟨q, answer⟩ :: turns

section Records

variable {α β : Type} {p rest rest' : Program α} {turns turns' later earlier : List Turn}

lemma Dialogue.trans (h : Dialogue p rest earlier) (h' : Dialogue rest rest' later) :
    Dialogue p rest' (later ++ earlier) := by
  induction h' with
  | start => exact h
  | asked _ answer ih => exact ih.asked answer

/-- What has been recorded when a program ends is a whole run of it. -/
lemma follows_logs (p : Program α) (turns : List Turn) :
    p.Follows Logs
      (fun a turns' => ∃ during, turns' = during ++ turns ∧ Dialogue p (.done a) during) turns := by
  induction p generalizing turns with
  | done a => exact ⟨[], rfl, .start⟩
  | ask q next ih =>
    intro answer
    refine ⟨⟨q, answer⟩ :: turns, rfl, Program.Follows.weaken ?_ (ih answer _)⟩
    rintro a turns' ⟨during, rfl, hduring⟩
    have hasked : Dialogue (.ask q next) (next answer) [⟨q, answer⟩] := Dialogue.start.asked answer
    exact ⟨during ++ [⟨q, answer⟩], by simp, hasked.trans hduring⟩

/-- The record of a run is its turns. -/
lemma Dialogue.follows {post : α → List Turn → Prop} (hp : p.Follows Logs post [])
    (h : Dialogue p rest turns) : rest.Follows Logs post turns := by
  induction h with
  | start => exact hp
  | asked _ answer ih =>
    obtain ⟨_, rfl, hnext⟩ := ih answer
    exact hnext

/-- A program that asks nothing but what keeps a property of the record keeps it. -/
lemma Program.Asks.follows_logs {P : Query → Prop} {K : List Turn → Prop} (hp : p.Asks P)
    (hkept : ∀ t turns, P t.query → K turns → K (t :: turns)) (h : K turns) :
    p.Follows Logs (fun _ => K) turns := by
  induction p generalizing turns with
  | done a => exact h
  | ask q next ih => exact fun answer => ⟨_, rfl, ih answer (hp.2 answer) (hkept _ _ hp.1 h)⟩

lemma counted_append (later earlier : List Turn) :
    counted (later ++ earlier) = counted later ++ counted earlier :=
  List.filterMap_append ..

lemma counted_cons_of_none {t : Turn} (h : t.query.count? = none) :
    counted (t :: turns) = counted turns :=
  List.filterMap_cons_none h

end Records

/-! ## How an operation ends -/

/-- What a turn tells of the operation, if the operation ends with it. -/
def Turn.upshot? : Turn → Option Upshot
  | ⟨.gateway call, .finished outcome⟩ => some (upshotOf call.operation (settle call outcome))
  | ⟨.gateway _, .cancelled⟩ => some .cancelled
  | ⟨.wait _, .cancelled⟩ => some .cancelled
  | _ => none

/-- What the turns tell, the last of them first. -/
def upshot (turns : List Turn) : Upshot :=
  (turns.findSome? Turn.upshot?).getD .uncalled

section Operations

variable {α : Type} {policy : RetryPolicy} {call : Call} {turns : List Turn}

/-- Exhausted retries are a failure of the same kind as the last one. -/
lemma upshotOf_conclude (operation : Operation) (name : String) (attempts : Nat)
    (outcome : Except Gateway.Error α) :
    upshotOf operation (conclude name attempts outcome) = upshotOf operation outcome := by
  cases outcome with
  | ok reply => rfl
  | error e =>
    by_cases hretry : e.isRetryable = true
    · simp only [conclude, hretry, if_true]
      rfl
    · simp only [conclude, hretry]
      rfl

/-- The last turn of the record is the one with which an operation has ended. -/
abbrev LastTells (operation : Operation) (outcome : Except Gateway.Error α) (turns : List Turn) :
    Prop :=
  turns.findSome? Turn.upshot? = some (upshotOf operation outcome)

lemma callOnce_ends (call : Call) (turns : List Turn) :
    (callOnce call).Follows Logs (LastTells call.operation) turns := by
  intro raced
  cases raced with
  | cancelled => exact ⟨_, rfl, rfl⟩
  | finished outcome => exact ⟨_, rfl, rfl⟩

lemma repeatCall_ends (policy : RetryPolicy) (call : Call) (left made : Nat) (backoff : Duration)
    (turns : List Turn) :
    (repeatCall policy call left made backoff).Follows Logs (LastTells call.operation) turns := by
  induction left generalizing made backoff turns with
  | zero =>
    rw [repeatCall_zero]
    intro raced
    cases raced with
    | cancelled => exact ⟨_, rfl, rfl⟩
    | finished outcome => exact ⟨_, rfl, congrArg some (upshotOf_conclude ..).symm⟩
  | succ left ih =>
    rw [repeatCall_succ]
    intro raced
    cases raced with
    | cancelled => exact ⟨_, rfl, rfl⟩
    | finished outcome =>
      refine ⟨_, rfl, ?_⟩
      dsimp only
      by_cases hpass : MayPass (settle call outcome)
      · rw [if_pos hpass]
        intro waited
        cases waited with
        | cancelled => exact ⟨_, rfl, rfl⟩
        | finished _ => exact ⟨_, rfl, ih ..⟩
      · rw [if_neg hpass]
        exact rfl

lemma createTarget_ends (policy : RetryPolicy) (request : CreateRequest) (turns : List Turn) :
    (createTarget policy request).Follows Logs (LastTells .create) turns := by
  unfold createTarget
  cases request.clientToken with
  | some _ => exact repeatCall_ends policy (.create request) ..
  | none =>
    intro token
    exact ⟨_, rfl, repeatCall_ends policy (.create { request with clientToken := some token }) ..⟩

lemma operate_ends (policy : RetryPolicy) (call : Call) (turns : List Turn) :
    (operate policy call).Follows Logs (LastTells call.operation) turns := by
  cases call with
  | create request => exact createTarget_ends policy request turns
  | get gatewayId targetId => exact callOnce_ends (.get gatewayId targetId) turns
  | update request => exact repeatCall_ends policy (.update request) ..
  | delete gatewayId targetId => exact repeatCall_ends policy (.delete gatewayId targetId) ..

lemma upshot?_eq_none {t : Turn} (h : t.query.isRaced = false) : t.upshot? = none := by
  obtain ⟨q, answer⟩ := t
  cases q with
  | gateway call => cases h
  | wait delay => cases h
  | _ => rfl

lemma findSome?_upshot?_eq_none (h : ∀ t ∈ turns, t.query.isRaced = false) :
    turns.findSome? Turn.upshot? = none :=
  List.findSome?_eq_none_iff.mpr fun t ht => upshot?_eq_none (h t ht)

/-- The turns of a pass leave no doubt about its operation: the last of them that could have been
cut short tells how it ended. -/
theorem Performed.upshot_eq {u : Upshot} (h : Performed policy turns u) : upshot turns = u := by
  cases h with
  | uncalled hnone => rw [upshot, findSome?_upshot?_eq_none hnone, Option.getD_none]
  | called hturns hduring hlater _ =>
    have hends : LastTells _ _ _ := hduring.follows (operate_ends policy _ [])
    rw [upshot, hturns, List.append_assoc, List.findSome?_append, List.findSome?_append,
      findSome?_upshot?_eq_none hlater, Option.none_or, hends, Option.some_or, Option.getD_some]

/-- A target that does not exist is as good as deleted. -/
example : upshot [⟨.gateway (.delete "gw" "target-1"),
    .finished (.error (.api notFoundCode "no such target"))⟩] = .succeeded .delete := by
  decide

lemma asks_uncounted_operate (policy : RetryPolicy) (call : Call) :
    (operate policy call).Asks (·.count? = none) := by
  have hrepeated (call : Call) : (callRetrying policy call).Asks (·.count? = none) :=
    asks_repeatCall (P := (·.count? = none)) rfl (fun _ => rfl) ..
  cases call with
  | create request =>
    exact asks_createTarget (P := (·.count? = none)) (fun _ => rfl) (fun _ => rfl) rfl ..
  | get gatewayId targetId => exact asks_callOnce (P := (·.count? = none)) rfl
  | update request => exact hrepeated _
  | delete gatewayId targetId => exact hrepeated _

end Operations

/-! ## Parts of a pass -/

/-- What has been counted is what has come of the operation. -/
def Tallied (policy : RetryPolicy) (turns : List Turn) : Prop :=
  ∃ u, Performed policy turns u ∧ counted turns = u.counts

/-- Nothing has been counted or could have been cut short. -/
def Silent (turns : List Turn) : Prop :=
  ∀ t ∈ turns, t.query.IsSilent

section Parts

variable {α : Type} {c : Config} {policy : RetryPolicy} {turns : List Turn} {u : Upshot}
  {key : String} {r : Resource} {v : Validated}

lemma Silent.cons (h : Silent turns) {t : Turn} (ht : t.query.IsSilent) : Silent (t :: turns) :=
  List.forall_mem_cons.mpr ⟨ht, h⟩

lemma Silent.counted_eq (h : Silent turns) : counted turns = [] :=
  List.filterMap_eq_nil_iff.mpr fun t ht => (h t ht).1

lemma Silent.tallied (h : Silent turns) : Tallied policy turns :=
  ⟨.uncalled, .uncalled fun t ht => (h t ht).2, h.counted_eq⟩

/-- The operation stays what it was when other things are asked. -/
lemma Performed.cons (h : Performed policy turns u) {t : Turn} (ht : t.query.isRaced = false) :
    Performed policy (t :: turns) u := by
  cases h with
  | uncalled hnone => exact .uncalled (List.forall_mem_cons.mpr ⟨ht, hnone⟩)
  | called hturns hduring hlater hearlier =>
    exact .called (congrArg (t :: ·) hturns) hduring (List.forall_mem_cons.mpr ⟨ht, hlater⟩)
      hearlier

lemma Tallied.cons {t : Turn} (ht : t.query.IsSilent) (h : Tallied policy turns) :
    Tallied policy (t :: turns) := by
  obtain ⟨u, hperformed, hcounted⟩ := h
  exact ⟨u, hperformed.cons ht.2, (counted_cons_of_none ht.1).trans hcounted⟩

/-- Wherever a part of a pass ends, what has been counted is what has come of the operation. -/
abbrev Pass.Tallies (policy : RetryPolicy) (p : Pass Error α) (turns : List Turn) : Prop :=
  Program.Follows Logs (fun _ turns' => Tallied policy turns') p.run turns

lemma Pass.tallies_silent {p : Pass Error α} (hp : p.Asks Query.IsSilent)
    (h : Tallied policy turns) : p.Tallies policy turns :=
  Program.Asks.follows_logs hp (fun _ _ => Tallied.cons) h

/-- An operation has returned, and is to be counted. -/
structure Returned (policy : RetryPolicy) (u : Upshot) (turns : List Turn) : Prop where
  performed : Performed policy turns u
  uncounted : counted turns = []

/-- A part of a pass goes on with what its operation has returned. -/
lemma Pass.tallies_operate (call : Call) {f : call.Outcome → Pass Error Directive}
    (hsilent : Silent turns)
    (hf : ∀ outcome turns', Returned policy (upshotOf call.operation outcome) turns' →
      (f outcome).Tallies policy turns') :
    (Pass.lift (operate policy call) >>= f).Tallies policy turns := by
  rw [Pass.Tallies, Pass.run_lift_bind]
  refine Program.Follows.bind (Program.Follows.weaken ?_
    (follows_logs (operate policy call) turns))
  rintro outcome _ ⟨during, rfl, hduring⟩
  have hnothing : (operate policy call).Follows Logs (fun _ during => counted during = []) [] :=
    (asks_uncounted_operate policy call).follows_logs
      (fun _ _ hquery hcounted => (counted_cons_of_none hquery).trans hcounted) rfl
  have huncounted : counted during = [] := hduring.follows hnothing
  have hturns : during ++ turns = [] ++ during ++ turns := rfl
  refine hf outcome _ ⟨.called hturns hduring ?_ fun t ht => (hsilent t ht).2, ?_⟩
  · exact List.forall_mem_nil _
  · rw [counted_append, huncounted, hsilent.counted_eq, List.append_nil]

/-- An operation that has returned is counted before anything else is done. -/
lemma Pass.tallies_counted {p : Pass Error Directive} {operation : Operation} {success : Bool}
    (hreturned : Returned policy u turns) (hu : u.counts = [.call operation success])
    (hp : p.Asks Query.IsSilent) :
    Pass.Tallies policy (do Pass.query (.countCall operation success); p) turns := by
  intro answer
  refine ⟨_, rfl, Pass.tallies_silent hp ⟨u, hreturned.performed.cons rfl, ?_⟩⟩
  show Count.call operation success :: counted turns = u.counts
  rw [hreturned.uncounted, hu]

lemma tallies_afterFailure {operation : Operation} {e : Gateway.Error} {p : Pass Error Directive}
    (hreturned : Returned policy (upshotOf operation (.error e : Except _ α)) turns)
    (hp : p.Asks Query.IsSilent) : (afterFailure c operation e p).Tallies policy turns := by
  unfold afterFailure
  by_cases he : e.isCancelled = true
  · have hu : upshotOf operation (.error e : Except _ α) = .cancelled := if_pos he
    rw [hu] at hreturned
    rw [if_pos he]
    exact ⟨.cancelled, hreturned.performed, hreturned.uncounted⟩
  · have hu : upshotOf operation (.error e : Except _ α) = .failed operation := if_neg he
    rw [hu] at hreturned
    rw [if_neg he]
    exact Pass.tallies_counted hreturned rfl hp

/-! ### What counts nothing -/

lemma household_isSilent (key : String) : Household Query.IsSilent key where
  get _ _ := ⟨rfl, rfl⟩
  now := ⟨rfl, rfl⟩
  replaceStatus _ _ _ _ := ⟨rfl, rfl⟩
  fail := ⟨rfl, rfl⟩
  succeed := ⟨rfl, rfl⟩
  forget := ⟨rfl, rfl⟩

lemma asks_silent_removeFinalizer (r : Resource) (key : String) :
    (removeFinalizer r key).Asks Query.IsSilent :=
  (household_isSilent key).asks_removeFinalizer fun _ => ⟨rfl, rfl⟩

lemma asks_silent_setReadiness (r : Resource) (verdict : Verdict) (reason message : String) :
    (Pass.ofStore (setReadiness r verdict reason message)).Asks Query.IsSilent :=
  Pass.asks_ofStore ((household_isSilent r.key).asks_setReadiness ..)

lemma tallies_afterSuccess {operation : Operation} {change : StatusChange}
    {p : Pass Error Directive} (hreturned : Returned policy (.succeeded operation) turns)
    (hown : change.IsOwn) (hp : p.Asks Query.IsSilent) :
    (afterSuccess operation r change key p).Tallies policy turns :=
  Pass.tallies_counted hreturned rfl ((household_isSilent key).asks_recording hown hp)

/-! ### Operations of a pass -/

lemma tallies_createStep (hsilent : Silent turns) :
    (createStep c r v key).Tallies c.policy turns := by
  unfold createStep
  cases v.createRequest with
  | error e =>
    exact Pass.tallies_silent ((household_isSilent key).asks_reportBuildError r e) hsilent.tallied
  | ok request =>
    refine Pass.tallies_operate (.create { request with clientToken := createToken r })
      hsilent fun outcome turns' hreturned => ?_
    cases outcome with
    | ok created => exact tallies_afterSuccess hreturned trivial (Pass.asks_pure _)
    | error e =>
      exact tallies_afterFailure hreturned ((household_isSilent key).asks_reportFailure ..)

lemma tallies_updateStep (targetId : String) (hsilent : Silent turns) :
    (updateStep c r v targetId key).Tallies c.policy turns := by
  unfold updateStep
  cases v.updateRequest targetId with
  | error e =>
    exact Pass.tallies_silent ((household_isSilent key).asks_reportBuildError r e) hsilent.tallied
  | ok request =>
    refine Pass.tallies_operate (.update request) hsilent fun outcome turns' hreturned => ?_
    cases outcome with
    | ok state => exact tallies_afterSuccess hreturned trivial (Pass.asks_pure _)
    | error e =>
      exact tallies_afterFailure hreturned ((household_isSilent key).asks_reportFailure ..)

lemma tallies_pollStep (targetId : String) (hsilent : Silent turns) :
    (pollStep c r v targetId key).Tallies c.policy turns := by
  unfold pollStep
  refine Pass.tallies_operate (.get v.gatewayId targetId) hsilent
    fun outcome turns' hreturned => ?_
  cases outcome with
  | ok state =>
    refine tallies_afterSuccess hreturned trivial (Pass.asks_ite ?_ (Pass.asks_pure _))
    exact Pass.asks_bind (asks_silent_setReadiness ..) fun _ => Pass.asks_pure _
  | error e => exact tallies_afterFailure hreturned (household_isSilent key).asks_backOff

lemma tallies_deleteRecorded (gatewayId targetId : String) (hsilent : Silent turns) :
    (deleteRecorded c r gatewayId targetId key).Tallies c.policy turns := by
  refine Pass.tallies_operate (.delete gatewayId targetId) hsilent
    fun outcome turns' hreturned => ?_
  cases outcome with
  | ok _ => exact Pass.tallies_counted hreturned rfl (asks_silent_removeFinalizer r key)
  | error e => exact tallies_afterFailure hreturned (household_isSilent key).asks_backOff

lemma tallies_advance (hsilent : Silent turns) : (advance c r v key).Tallies c.policy turns :=
  advance_cases (motive := fun p => p.Tallies c.policy turns)
    (fun _ => tallies_createStep hsilent) (fun _ _ => tallies_updateStep _ hsilent)
    (fun _ _ _ => Pass.tallies_silent (household_isSilent key).asks_letRest hsilent.tallied)
    fun _ _ _ => tallies_pollStep _ hsilent

/-! ### Whole passes -/

lemma tallies_deleteStep (hsilent : Silent turns) :
    (deleteStep c r key).Tallies c.policy turns :=
  deleteStep_cases (motive := fun p => p.Tallies c.policy turns) (fun _ => hsilent.tallied)
    (fun _ _ => Pass.tallies_silent (asks_silent_removeFinalizer r key) hsilent.tallied)
    (fun _ _ _ => hsilent.tallied) fun _ _ _ => tallies_deleteRecorded _ _ hsilent

lemma tallies_reconcileCopy (hsilent : Silent turns) :
    (reconcileCopy c r key).Tallies c.policy turns := by
  refine reconcileCopy_cases (motive := fun p => p.Tallies c.policy turns)
    (fun _ => tallies_deleteStep hsilent) ?invalid (fun _ _ _ => tallies_advance hsilent)
    ?unguarded
  case invalid =>
    intro e _ _
    refine Pass.tallies_silent ?_ hsilent.tallied
    exact Pass.asks_bind (asks_silent_setReadiness ..) fun _ => Pass.asks_pure _
  case unguarded =>
    intro v _ _ _ outcome
    refine ⟨_, rfl, ?_⟩
    cases outcome with
    | error e => exact (hsilent.cons ⟨rfl, rfl⟩).tallied
    | ok r' => exact tallies_advance (hsilent.cons ⟨rfl, rfl⟩)

lemma tallies_reconcileLatest {ns name : String} (hsilent : Silent turns) :
    (reconcileLatest c ns name key).Tallies c.policy turns := by
  intro outcome
  refine ⟨_, rfl, ?_⟩
  have hread := hsilent.cons (t := ⟨.store (.get ns name), outcome⟩) ⟨rfl, rfl⟩
  rcases outcome with e | _ | r
  · exact hread.tallied
  · exact fun _ => ⟨_, rfl, (hread.cons ⟨rfl, rfl⟩).tallied⟩
  · exact tallies_reconcileCopy hread

lemma tallies_reconcile (ns name : String) : (reconcile c ns name).Tallies c.policy [] := by
  rw [Pass.Tallies, run_reconcile]
  intro cancelled
  refine ⟨_, rfl, ?_⟩
  have hwoken : Silent [⟨.isCancelled, cancelled⟩] :=
    List.forall_mem_singleton.mpr ⟨rfl, rfl⟩
  cases cancelled with
  | true => exact hwoken.tallied
  | false =>
    refine Program.Follows.bind (Program.Follows.weaken ?_ (tallies_reconcileLatest hwoken))
    exact fun _ _ htallied => htallied

end Parts

/-- Whatever a pass is answered, all that it has counted when it ends is how its operation ended,
also where the store has stopped it afterwards. -/
theorem reconcile_tallied {c : Config} {ns name : String} {outcome : Except Error Directive}
    {turns : List Turn} (h : Dialogue (reconcile c ns name).run (.done outcome) turns) :
    Tallied c.policy turns := by
  have hends := h.follows (tallies_reconcile ns name)
  exact hends

end TargetRegistrar.Controller
