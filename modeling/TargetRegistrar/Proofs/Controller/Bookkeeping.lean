import TargetRegistrar.Controller.Reconcile
import TargetRegistrar.Proofs.Backoff.History
import TargetRegistrar.Proofs.Controller.Footprint
import TargetRegistrar.Proofs.Controller.Legs

/-!
# The books of a pass

A pass counts a failure, starts the count again or drops it in many of its branches, each of which
has to do so on its own, and when the pass has failed the failure rule counts once more.  Whatever
the branch, at most one failure is counted, and nothing follows it in the books.

`Page` is what a pass has booked so far, `Books` says what it may book next, and `Page.Ends` how it
may end: `reconcile_books` and `handle_books` are the main statements.  Others may book under other
keys meanwhile (`Tally`), which makes no difference to the count (`Kept`).  It follows which delay a
resource waits out (`Kept.delay`), and when a pass is over without a trace in the books.
-/

namespace TargetRegistrar.Controller

open Backoff Gateway Registration

/-! ## Entries of a program -/

/-- What a question books. -/
def Query.booking? : Query → Option Entry
  | fail key => some (.failure key)
  | succeed key => some (.success key)
  | forget key => some (.departure key)
  | _ => none

/-- What has been booked in some turns, the last one first. -/
def booked (turns : List Turn) : List Entry :=
  turns.filterMap (·.query.booking?)

/-- An answer is what the ledger says after some entries, if it concerns the ledger. -/
def Query.IsFaithful (entries : List Entry) : (q : Query) → q.Answer → Prop
  | fail key, delay => delay = ((Ledger.of entries).fail key).1
  | _, _ => True

/-- The program `p` was begun when some entries were booked, and is left with `rest` to do; then as
now the last entry and the last turn are first.  In the meantime others may have booked under other
keys. -/
inductive Tally {α : Type} (p : Program α) (key : String) (past : List Entry) :
    Program α → List Entry → List Turn → Prop where
  | start : Tally p key past p past []
  | elsewhere {rest : Program α} {entries : List Entry} {turns : List Turn} {e : Entry}
      (h : Tally p key past rest entries turns) (he : e.key ≠ key) :
      Tally p key past rest (e :: entries) turns
  | asked {q : Query} {next : q.Answer → Program α} {entries : List Entry} {turns : List Turn}
      (h : Tally p key past (.ask q next) entries turns) (answer : q.Answer)
      (ha : q.IsFaithful entries answer) :
      Tally p key past (next answer) (q.booking?.toList ++ entries) (⟨q, answer⟩ :: turns)

/-! ## Pages -/

/-- What a pass has booked, and what it has seen that bears on its books. -/
inductive Page where
  /-- Nothing has been asked. -/
  | untouched
  /-- The latest copy is to be read. -/
  | opened
  /-- Nothing is booked. -/
  | blank
  /-- Nothing is booked, and the state of an operational target is being recorded. -/
  | recording (copy : Resource) (state : TargetState) (ph : WritePhase)
  /-- Nothing is booked, for the copy is marked for deletion and carries no finalizer. -/
  | lapsed (copy : Resource)
  /-- The count was started again, perhaps for an operational target. -/
  | restarted (ready : Bool)
  | forgotten
  /-- A failure is booked, perhaps after a restart. -/
  | waiting (again : Bool) (delay : Duration)

namespace Page

/-- What is in the books. -/
def entries (key : String) : Page → List Entry
  | restarted _ => [.success key]
  | forgotten => [.departure key]
  | waiting false _ => [.failure key]
  | waiting true _ => [.failure key, .success key]
  | _ => []

/-- Whether a copy has been looked for. -/
def isBegun : Page → Bool
  | untouched => false
  | opened => false
  | _ => true

/-- Whether a failure would be the first entry. -/
def isUnbooked : Page → Bool
  | blank => true
  | recording _ _ _ => true
  | _ => false

/-- How a pass may end with its books. -/
def Ends : Page → Except Error Directive → Prop
  | untouched, _ => False
  | opened, _ => False
  | blank, outcome => outcome ≠ .ok .done
  | recording _ _ _, outcome => outcome ≠ .ok .done
  | lapsed _, outcome => outcome = .ok .done
  | restarted ready, outcome => ready ∨ ∃ directive, outcome = .ok directive
  | forgotten, outcome => outcome = .ok .done
  | waiting again delay, outcome => again = false ∧ outcome = .ok (.requeueAfter delay)

/-- What may be decided on a resource that has changed, with the books of its pass. -/
def Decides : Page → Decider × Action → Prop
  | waiting again delay, decided =>
    decided.2 = .requeue delay ∧ (again → decided.1 = .failureRule)
  | _, decided => decided.1 = .pass

end Page

/-- What a pass on the resource with a name in a namespace may book, and what it may see. -/
inductive Books (ns name key : String) : Page → (q : Query) → q.Answer → Page → Prop where
  | wake : Books ns name key .untouched .isCancelled false .opened
  | oversleep : Books ns name key .untouched .isCancelled true .blank
  | lapse {r : Resource} (hdel : r.isBeingDeleted) (hfin : r.hasFinalizer finalizer = false) :
      Books ns name key .opened (.store (.get ns name)) (.ok (some r)) (.lapsed r)
  | read (outcome : Except Store.Error (Option Resource)) :
      Books ns name key .opened (.store (.get ns name)) outcome .blank
  | quiet {page : Page} {q : Query} (answer : q.Answer) (hpage : page.isBegun)
      (hq : q.booking? = none) : Books ns name key page q answer page
  | see {r : Resource} {gatewayId targetId : String} {state : TargetState}
      (h : state.status = targetReady) :
      Books ns name key .blank (.gateway (.get gatewayId targetId)) (.finished (.ok state))
        (.recording r state (.fetching (.observed r.metadata.generation state) statusRetries))
  | record {r : Resource} {state : TargetState} {ph ph' : WritePhase} {q : Query}
      {answer : q.Answer} (h : Writes (.observed state) r ph q answer ph') :
      Books ns name key (.recording r state ph) q answer (.recording r state ph')
  | fail {page : Page} (delay : Duration) (hpage : page.isUnbooked) :
      Books ns name key page (.fail key) delay (.waiting false delay)
  /-- The target was operational, but that could not be announced. -/
  | failAgain (delay : Duration) :
      Books ns name key (.restarted true) (.fail key) delay (.waiting true delay)
  | restart : Books ns name key .blank (.succeed key) () (.restarted false)
  /-- The count starts again before it is announced that a target is operational. -/
  | restartReady {r written : Resource} {state : TargetState} :
      Books ns name key (.recording r state (.ended (.ok written))) (.succeed key) ()
        (.restarted true)
  | forget : Books ns name key .blank (.forget key) () .forgotten

/-! ## Parts of a pass -/

/-- A part of a pass keeps its books, and ends as they allow. -/
abbrev Pass.Keeping (ns name key : String) (p : Pass Error Directive) (page : Page) : Prop :=
  Program.Follows (Books ns name key) (fun outcome page => page.Ends outcome) p.run page

section Parts

variable {α : Type} {c : Config} {ns name key : String} {page : Page} {r : Resource}

/-- A program that books nothing leaves the books as they are. -/
lemma Program.Asks.follows_books {p : Program α} (hp : p.Asks (·.booking? = none))
    (hpage : page.isBegun) :
    p.Follows (Books ns name key) (fun _ page' => page' = page) page :=
  hp.follows fun answer hq => .quiet answer hpage hq

/-- A part goes on after a request or a status write, which book nothing. -/
lemma Pass.keeping_ofStore {p : Pass Store.Error α} {f : α → Pass Error Directive}
    (hp : p.Asks (·.booking? = none)) (hpage : page.isBegun) (hends : ∀ e, page.Ends (.error e))
    (hf : ∀ a, (f a).Keeping ns name key page) :
    (Pass.ofStore p >>= f).Keeping ns name key page := by
  refine Program.Follows.bind (Program.Follows.bind (Program.Follows.weaken ?_
    (hp.follows_books hpage)))
  rintro (e | a) _ rfl
  · exact hends (.store e)
  · exact hf a

/-- A part goes on after a program that the store cannot stop. -/
lemma Pass.keeping_lift {post : α → Page → Prop} {p : Program α} {f : α → Pass Error Directive}
    (hp : p.Follows (Books ns name key) post page)
    (hf : ∀ a page', post a page' → (f a).Keeping ns name key page') :
    (Pass.lift p >>= f).Keeping ns name key page := by
  rw [Pass.Keeping, Pass.run_lift_bind]
  exact Program.Follows.bind (Program.Follows.weaken hf hp)

lemma asks_unbooked_applyChange (r : Resource) (change : StatusChange) :
    (applyChange r change).Asks (·.booking? = none) :=
  asks_applyChange r (fun _ _ => rfl) rfl fun _ _ => rfl

lemma asks_unbooked_setReadiness (r : Resource) (verdict : Verdict) (reason message : String) :
    (setReadiness r verdict reason message).Asks (·.booking? = none) :=
  Pass.asks_bind (Pass.asks_query rfl) fun _ => asks_unbooked_applyChange ..

lemma asks_unbooked_callRetrying (policy : RetryPolicy) (call : Call) :
    (callRetrying policy call).Asks (·.booking? = none) :=
  asks_repeatCall (P := (·.booking? = none)) rfl (fun _ => rfl) ..

lemma asks_unbooked_createTarget (policy : RetryPolicy) (request : CreateRequest) :
    (createTarget policy request).Asks (·.booking? = none) :=
  asks_createTarget (P := (·.booking? = none)) (fun _ => rfl) (fun _ => rfl) rfl ..

lemma Pass.keeping_pure {directive : Directive} (h : page.Ends (.ok directive)) :
    (pure directive : Pass Error Directive).Keeping ns name key page := h

/-- With nothing booked a pass may end in any way but one. -/
lemma Page.ends_blank {outcome : Except Error Directive} (h : outcome ≠ .ok .done) :
    blank.Ends outcome := h

lemma Page.ends_recording (state : TargetState) (ph : WritePhase)
    {outcome : Except Error Directive} (h : outcome ≠ .ok .done) :
    (recording r state ph).Ends outcome := h

lemma keeping_backOff : (backOff key).Keeping ns name key .blank :=
  fun delay => ⟨_, .fail delay rfl, rfl, rfl⟩

lemma keeping_reportBuildError (e : BuildError) :
    (reportBuildError r e).Keeping ns name key .blank := by
  refine Pass.keeping_ofStore (asks_unbooked_setReadiness ..) rfl ?_ fun _ => ?_
  · exact fun _ => Page.ends_blank (by simp)
  · exact Pass.keeping_pure (Page.ends_blank (by simp))

lemma keeping_reportFailure {reason context : String} (e : Gateway.Error) :
    (reportFailure r key reason context e).Keeping ns name key .blank := by
  refine Pass.keeping_ofStore (asks_unbooked_setReadiness ..) rfl ?_ fun _ => ?_
  · exact fun _ => Page.ends_blank (by simp)
  · by_cases hretry : e.isRetryable = true
    · rw [if_pos hretry]
      exact keeping_backOff
    · rw [if_neg hretry]
      exact Pass.keeping_pure (Page.ends_blank (by simp))

lemma keeping_afterFailure {operation : Operation} {e : Gateway.Error} {p : Pass Error Directive}
    (hp : p.Keeping ns name key .blank) :
    (afterFailure c operation e p).Keeping ns name key .blank := by
  unfold afterFailure
  by_cases he : e.isCancelled = true
  · rw [if_pos he]
    exact Pass.keeping_pure (Page.ends_blank (by simp))
  · rw [if_neg he]
    exact fun counted => ⟨_, .quiet counted rfl rfl, hp⟩

/-- A successful operation is recorded before the count starts again. -/
lemma keeping_afterSuccess {operation : Operation} {change : StatusChange}
    {p : Pass Error Directive} (hp : p.Keeping ns name key (.restarted false)) :
    (afterSuccess operation r change key p).Keeping ns name key .blank := by
  intro counted
  refine ⟨_, .quiet counted rfl rfl, ?_⟩
  refine Pass.keeping_ofStore (asks_unbooked_applyChange r change) rfl ?_ fun _ => ?_
  · exact fun _ => Page.ends_blank (by simp)
  · exact fun _ => ⟨_, .restart, hp⟩

/-- The state of an operational target is recorded step by step. -/
lemma keeping_recordState {state : TargetState} {f : Resource → Pass Error Directive}
    (hf : ∀ written, (f written).Keeping ns name key (.recording r state (.ended (.ok written)))) :
    (Pass.ofStore (recordState r state) >>= f).Keeping ns name key
      (.recording r state (.fetching (.observed r.metadata.generation state) statusRetries)) := by
  have hupdates : (recordState r state).Updates (.observed state) r
      (.fetching (.observed r.metadata.generation state) statusRetries) := updates_applyChange
  have hpages := hupdates.relabel (N := Books ns name key) (Page.recording r state) .record
  refine Program.Follows.bind (Program.Follows.bind (Program.Follows.weaken ?_ hpages))
  rintro outcome _ ⟨ph', rfl, rfl | ⟨change, _, rfl, rfl⟩⟩
  · cases outcome with
    | error e =>
      have hne : (.error (.store e) : Except Error Directive) ≠ .ok .done := by simp
      exact Page.ends_recording (r := r) state (.ended (.error e)) hne
    | ok written => exact hf written
  · exact Page.ends_recording (r := r) state (.fetching change statusRetries) (by simp)

/-! ### Operations -/

/-- An operational target is recorded as such. -/
def afterLook (r : Resource) : Except Gateway.Error TargetState → Page
  | .ok state =>
    if state.status = targetReady then
      .recording r state (.fetching (.observed r.metadata.generation state) statusRetries)
    else .blank
  | .error _ => .blank

lemma books_getTarget (gatewayId targetId : String) :
    (getTarget gatewayId targetId).Follows (Books ns name key)
      (fun outcome page => page = afterLook r outcome) .blank := by
  intro raced
  rcases raced with _ | e | state
  · exact ⟨.blank, .quiet _ rfl rfl, rfl⟩
  · exact ⟨.blank, .quiet _ rfl rfl, rfl⟩
  · by_cases hready : state.status = targetReady
    · refine ⟨_, .see hready (r := r), ?_⟩
      exact (if_pos hready).symm
    · refine ⟨.blank, .quiet _ rfl rfl, ?_⟩
      exact (if_neg hready).symm

variable {v : Validated}

lemma keeping_createStep : (createStep c r v key).Keeping ns name key .blank := by
  unfold createStep
  cases v.createRequest with
  | error e => exact keeping_reportBuildError e
  | ok request =>
    have hcreate :=
      asks_unbooked_createTarget c.policy { request with clientToken := createToken r }
    refine Pass.keeping_lift (hcreate.follows_books rfl) ?_
    rintro (e | target) _ rfl
    · exact keeping_afterFailure (keeping_reportFailure e)
    · exact keeping_afterSuccess (Pass.keeping_pure (.inr ⟨_, rfl⟩))

lemma keeping_updateStep (targetId : String) :
    (updateStep c r v targetId key).Keeping ns name key .blank := by
  unfold updateStep
  cases v.updateRequest targetId with
  | error e => exact keeping_reportBuildError e
  | ok request =>
    have hupdate := asks_unbooked_callRetrying c.policy (.update request)
    refine Pass.keeping_lift (hupdate.follows_books rfl) ?_
    rintro (e | state) _ rfl
    · exact keeping_afterFailure (keeping_reportFailure e)
    · exact keeping_afterSuccess (Pass.keeping_pure (.inr ⟨_, rfl⟩))

lemma keeping_pollStep (targetId : String) :
    (pollStep c r v targetId key).Keeping ns name key .blank := by
  unfold pollStep
  refine Pass.keeping_lift (books_getTarget (r := r) v.gatewayId targetId) ?_
  rintro (e | state) _ rfl
  · exact keeping_afterFailure keeping_backOff
  · by_cases hready : state.status = targetReady
    · simp only [afterLook, hready, if_true]
      refine fun counted => ⟨_, .quiet counted rfl rfl, keeping_recordState fun written _ => ?_⟩
      refine ⟨_, .restartReady, ?_⟩
      refine Pass.keeping_ofStore (asks_unbooked_setReadiness ..) rfl ?_ fun _ => ?_
      · exact fun _ => .inl rfl
      · exact Pass.keeping_pure (.inr ⟨_, rfl⟩)
    · simp only [afterLook, hready, if_false]
      exact keeping_afterSuccess (Pass.keeping_pure (.inr ⟨_, rfl⟩))

lemma keeping_advance : (advance c r v key).Keeping ns name key .blank :=
  advance_cases (motive := fun p => p.Keeping ns name key .blank) (fun _ => keeping_createStep)
    (fun _ _ => keeping_updateStep _)
    (fun _ _ _ _ => ⟨.restarted false, .restart, .inr ⟨_, rfl⟩⟩) fun _ _ _ => keeping_pollStep _

/-! ### Whole passes -/

lemma keeping_removeFinalizer :
    (removeFinalizer r key).Keeping ns name key .blank := by
  refine Pass.keeping_ofStore (Pass.asks_store rfl) rfl ?_ fun _ => ?_
  · exact fun _ => Page.ends_blank (by simp)
  · exact fun _ => ⟨.forgotten, .forget, rfl⟩

lemma keeping_deleteRecorded (gatewayId targetId : String) :
    (deleteRecorded c r gatewayId targetId key).Keeping ns name key .blank := by
  have hdelete := asks_unbooked_callRetrying c.policy (.delete gatewayId targetId)
  refine Pass.keeping_lift (hdelete.follows_books rfl) ?_
  rintro (e | _) _ rfl
  · exact keeping_afterFailure keeping_backOff
  · exact fun counted => ⟨_, .quiet counted rfl rfl, keeping_removeFinalizer⟩

/-- The books of a copy that is marked for deletion without the finalizer stay as they are. -/
lemma exists_page_deleteStep (hdel : r.isBeingDeleted) :
    ∃ page, Books ns name key .opened (.store (.get ns name)) (.ok (some r)) page ∧
      (deleteStep c r key).Keeping ns name key page :=
  deleteStep_cases (motive := fun p => ∃ page, Books ns name key .opened (.store (.get ns name))
      (.ok (some r)) page ∧ p.Keeping ns name key page)
    (fun hfin => ⟨.lapsed r, .lapse hdel hfin, Pass.keeping_pure rfl⟩)
    (fun _ _ => ⟨_, .read _, keeping_removeFinalizer⟩)
    (fun _ _ _ => ⟨_, .read _, Pass.keeping_pure (Page.ends_blank (by simp))⟩)
    fun _ _ _ => ⟨_, .read _, keeping_deleteRecorded ..⟩

lemma exists_page_keeping (r : Resource) :
    ∃ page, Books ns name key .opened (.store (.get ns name)) (.ok (some r)) page ∧
      (reconcileCopy c r key).Keeping ns name key page := by
  refine reconcileCopy_cases (motive := fun p => ∃ page, Books ns name key .opened
      (.store (.get ns name)) (.ok (some r)) page ∧ p.Keeping ns name key page)
    exists_page_deleteStep ?invalid (fun _ _ _ => ⟨_, .read _, keeping_advance⟩) ?unguarded
  case invalid =>
    intro e _ _
    refine ⟨_, .read _, Pass.keeping_ofStore (asks_unbooked_setReadiness ..) rfl ?_ fun _ => ?_⟩
    · exact fun _ => Page.ends_blank (by simp)
    · exact Pass.keeping_pure (Page.ends_blank (by simp))
  case unguarded =>
    intro v _ _ _
    refine ⟨_, .read _, ?_⟩
    refine Pass.keeping_ofStore (Pass.asks_store rfl) rfl ?_ fun _ => keeping_advance
    exact fun _ => Page.ends_blank (by simp)

lemma keeping_reconcileLatest :
    (reconcileLatest c ns name key).Keeping ns name key .opened := by
  intro outcome
  rcases outcome with e | _ | r
  · exact ⟨_, .read _, Page.ends_blank (by simp)⟩
  · exact ⟨_, .read _, fun _ => ⟨.forgotten, .forget, rfl⟩⟩
  · exact exists_page_keeping r

/-- Where an error may stop a pass, so may what comes of the error. -/
lemma Page.Ends.surface {ending : Except Error Directive} (h : page.Ends ending) :
    page.Ends (surface c ending) := by
  cases ending with
  | ok directive => exact h
  | error e =>
    obtain herror | ⟨directive, hne, hdirective⟩ := surface_error c e
    · rw [herror]
      exact h
    · rw [hdirective]
      cases page with
      | untouched => exact h
      | opened => exact h
      | blank => exact Page.ends_blank (by simpa using hne)
      | recording r state ph => exact Page.ends_recording state ph (by simpa using hne)
      | lapsed copy => cases h
      | restarted ready => exact .inr ⟨directive, rfl⟩
      | forgotten => cases h
      | waiting again delay => cases h.2

end Parts

/-- Every pass keeps its books, whatever it is answered, and ends as they allow. -/
theorem reconcile_books (c : Config) (ns name : String) :
    (reconcile c ns name).Keeping ns name (ns ++ "/" ++ name) .untouched := by
  rw [Pass.Keeping, run_reconcile]
  intro cancelled
  cases cancelled with
  | true => exact ⟨_, .oversleep, Page.ends_blank (by simp)⟩
  | false =>
    refine ⟨.opened, .wake, ?_⟩
    refine Program.Follows.bind (Program.Follows.weaken ?_ keeping_reconcileLatest)
    exact fun _ _ hends => hends.surface

/-! ## Whole rounds -/

/-- A pass that has not failed decides on the action. -/
lemma Page.Ends.decides {page : Page} {directive : Directive} (h : page.Ends (.ok directive)) :
    page.Decides (.pass, directive.action) := by
  cases page with
  | untouched => exact h.elim
  | opened => exact h.elim
  | waiting again delay =>
    obtain ⟨rfl, hdirective⟩ := h
    obtain rfl : directive = .requeueAfter delay := Except.ok.inj hdirective
    exact ⟨rfl, by simp⟩
  | _ => exact rfl

/-- With nothing booked the failure rule counts the first failure. -/
lemma keeping_handleFailure_unbooked {ns name : String} {r : Resource} {page : Page}
    {e : Error} (hbegun : page.isBegun) (hpage : page.isUnbooked) :
    (handleFailure r e).Follows (Books ns name r.key)
      (fun action page' => page'.Decides (.failureRule, action)) page := by
  intro counted
  refine ⟨_, .quiet counted hbegun rfl, fun delay => ⟨_, .fail delay hpage, fun requeued => ?_⟩⟩
  exact ⟨_, .quiet requeued rfl rfl, rfl, by simp⟩

/-- After a failed pass the failure rule counts a failure, and its delay is waited out. -/
lemma keeping_handleFailure {ns name : String} {r : Resource} {page : Page} {e : Error}
    (h : page.Ends (.error e)) :
    (handleFailure r e).Follows (Books ns name r.key)
      (fun action page' => page'.Decides (.failureRule, action)) page := by
  cases page with
  | blank => exact keeping_handleFailure_unbooked rfl rfl
  | recording copy state ph => exact keeping_handleFailure_unbooked rfl rfl
  | restarted ready =>
    obtain hready | ⟨directive, hdirective⟩ := h
    · obtain rfl : ready = true := hready
      intro counted
      refine ⟨_, .quiet counted rfl rfl, fun delay => ⟨_, .failAgain delay, fun requeued => ?_⟩⟩
      exact ⟨_, .quiet requeued rfl rfl, rfl, fun _ => rfl⟩
    · cases hdirective
  | untouched => exact h.elim
  | opened => exact h.elim
  | lapsed copy => cases h
  | forgotten => cases h
  | waiting again delay => cases h.2

/-- How the handling of a changed resource may end, before a failure of its pass is dealt with. -/
def Page.Leaves : Except Error Action → Page → Prop
  | .ok action, page => page.Decides (.pass, action)
  | .error e, page => page.Ends (.error e)

lemma keeping_handleChange (c : Config) (r : Resource) :
    (handleChange c r).run.Follows (Books (r.metadata.ns.getD "") r.anyName r.key) Page.Leaves
      .untouched := by
  unfold handleChange
  cases hns : r.metadata.ns with
  | none => exact rfl
  | some ns =>
    have hkey : r.key = ns ++ "/" ++ r.anyName := by simp [Resource.key, hns]
    have hpass := reconcile_books c ns r.anyName
    rw [← hkey] at hpass
    refine Program.Follows.bind (Program.Follows.bind (Program.Follows.weaken ?_ hpass))
    intro outcome page hends counted
    have hbegun : page.isBegun := by
      cases page with
      | untouched => exact hends.elim
      | opened => exact hends.elim
      | _ => rfl
    refine ⟨page, .quiet counted hbegun rfl, ?_⟩
    cases outcome with
    | error e => exact hends
    | ok directive =>
      by_cases hrequeue : directive.isRequeue = true
      · simp only [hrequeue, if_true]
        exact fun requeued => ⟨page, .quiet requeued hbegun rfl, hends.decides⟩
      · simp only [hrequeue]
        exact hends.decides

/-- A changed resource is handled with the books kept, whether or not its pass fails. -/
theorem handle_books (c : Config) (r : Resource) :
    (handle c r).Follows (Books (r.metadata.ns.getD "") r.anyName r.key)
      (fun decided page => page.Decides decided) .untouched := by
  refine Program.Follows.bind (Program.Follows.weaken ?_ (keeping_handleChange c r))
  rintro (e | action) page hleaves
  · refine Program.Follows.bind (Program.Follows.weaken ?_ (keeping_handleFailure hleaves))
    exact fun _ _ hdecides => hdecides
  · exact hleaves

/-! ## Along a tally -/

/-- A target was seen in a state. -/
def Saw (state : TargetState) (turns : List Turn) : Prop :=
  ∃ gatewayId targetId : String,
    (⟨.gateway (.get gatewayId targetId), .finished (.ok state)⟩ : Turn) ∈ turns

/-- A turn puts a state on record: the status of the latest copy is written with it, or that copy is
found to have it already. -/
inductive Turn.Records (state : TargetState) : Turn → Prop where
  | written {generation : Option Int} {latest written : Resource} {now : Timestamp} :
      Records state ⟨.store (.replaceStatus latest
        ((StatusChange.observed generation state).applyTo now latest)), .ok written⟩
  | unchanged {ns name : String} {generation : Option Int} {latest : Resource} {now : Timestamp}
      (h : latest.status = some ((StatusChange.observed generation state).applyTo now latest)) :
      Records state ⟨.store (.get ns name), .ok (some latest)⟩

/-- A state was put on record after the target was seen in it. -/
def Recorded (state : TargetState) (turns : List Turn) : Prop :=
  ∃ (t : Turn) (earlier : List Turn), t :: earlier <:+ turns ∧ t.Records state ∧ Saw state earlier

/-- The target was seen operational, and that was put on record. -/
def RecordedReady (turns : List Turn) : Prop :=
  ∃ state : TargetState, state.status = targetReady ∧ Recorded state turns

/-- The first thing that was done was to read a copy. -/
def ReadFirst (ns name : String) (r : Resource) (turns : List Turn) : Prop :=
  [⟨.store (.get ns name), .ok (some r)⟩, ⟨.isCancelled, false⟩] <:+ turns

/-- What a phase shows of the turns in which a state is put on record. -/
def WritePhase.Shows (r : Resource) (state : TargetState) (turns : List Turn) : WritePhase → Prop
  | unbegun => False
  | fetching change _ => change = .observed r.metadata.generation state ∧ Saw state turns
  | fetched change _ latest => change = .observed r.metadata.generation state ∧
    ∃ earlier, ⟨.store (fetchLatest r), .ok (some latest)⟩ :: earlier <:+ turns ∧ Saw state earlier
  | timed change _ _ _ => change = .observed r.metadata.generation state ∧ Saw state turns
  | ended (.ok _) => Recorded state turns
  | ended (.error _) => True

/-- What a page shows of the turns. -/
def Page.Shows (ns name : String) (turns : List Turn) : Page → Prop
  | untouched => turns = []
  | opened => turns = [⟨.isCancelled, false⟩]
  | recording r state ph => state.status = targetReady ∧ ph.Shows r state turns
  | lapsed r =>
    ReadFirst ns name r turns ∧ r.isBeingDeleted ∧ r.hasFinalizer finalizer = false
  | restarted ready => ready → RecordedReady turns
  | waiting again _ => again → RecordedReady turns
  | _ => True

/-- What holds of the books of a pass, wherever it has come to. -/
structure Kept (ns name key : String) (past : List Entry) (page : Page) (entries : List Entry)
    (turns : List Turn) : Prop where
  booked : booked turns = page.entries key
  /-- The entries of others do not count. -/
  count : failuresInRow key entries = failuresInRow key (page.entries key ++ past)
  delay : ∀ again delay, page = .waiting again delay →
    delay = delayAfter (failuresInRow key entries)
  shows : page.Shows ns name turns

section Along

variable {ns name key : String} {past entries : List Entry} {page page' : Page} {turns : List Turn}
  {q : Query} {answer : q.Answer}

lemma booked_cons : booked (⟨q, answer⟩ :: turns) = q.booking?.toList ++ booked turns := by
  cases h : q.booking? with
  | none => simp [booked, h]
  | some e => simp [booked, h]

lemma Saw.weaken {state : TargetState} (h : Saw state turns) (t : Turn) :
    Saw state (t :: turns) := by
  obtain ⟨gatewayId, targetId, hmem⟩ := h
  exact ⟨gatewayId, targetId, List.mem_cons_of_mem t hmem⟩

lemma Recorded.weaken {state : TargetState} (h : Recorded state turns) (t : Turn) :
    Recorded state (t :: turns) := by
  obtain ⟨t', earlier, hsuffix, hrecords, hsaw⟩ := h
  exact ⟨t', earlier, hsuffix.trans (List.suffix_cons t turns), hrecords, hsaw⟩

lemma RecordedReady.weaken (h : RecordedReady turns) (t : Turn) : RecordedReady (t :: turns) := by
  obtain ⟨state, hstate, hrecorded⟩ := h
  exact ⟨state, hstate, hrecorded.weaken t⟩

lemma WritePhase.Shows.weaken {r : Resource} {state : TargetState} {ph : WritePhase}
    (h : ph.Shows r state turns) (t : Turn) : ph.Shows r state (t :: turns) := by
  cases ph with
  | unbegun => exact h
  | fetching change left => exact ⟨h.1, h.2.weaken t⟩
  | fetched change left latest =>
    obtain ⟨hchange, earlier, hsuffix, hsaw⟩ := h
    exact ⟨hchange, earlier, hsuffix.trans (List.suffix_cons t turns), hsaw⟩
  | timed change left latest now => exact ⟨h.1, h.2.weaken t⟩
  | ended outcome =>
    cases outcome with
    | ok written => exact Recorded.weaken h t
    | error e => trivial

lemma Page.Shows.weaken (h : page.Shows ns name turns) (hpage : page.isBegun) (t : Turn) :
    page.Shows ns name (t :: turns) := by
  cases page with
  | untouched => cases hpage
  | opened => cases hpage
  | blank => trivial
  | recording r state ph => exact ⟨h.1, h.2.weaken t⟩
  | lapsed r => exact ⟨h.1.trans (List.suffix_cons t turns), h.2⟩
  | restarted ready => exact fun hready => (h hready).weaken t
  | forgotten => trivial
  | waiting again delay => exact fun hagain => (h hagain).weaken t

lemma Saw.of_suffix {state : TargetState} {earlier : List Turn} (h : Saw state earlier)
    (hsuffix : earlier <:+ turns) : Saw state turns := by
  obtain ⟨gatewayId, targetId, hmem⟩ := h
  exact ⟨gatewayId, targetId, hsuffix.subset hmem⟩

/-- The recording of a state shows its progress, and in the end the state on record. -/
lemma Writes.shows {r : Resource} {state : TargetState} {ph ph' : WritePhase}
    (h : Writes (.observed state) r ph q answer ph') (hshows : ph.Shows r state turns) :
    ph'.Shows r state (⟨q, answer⟩ :: turns) := by
  cases h with
  | begin _ => exact hshows.elim
  | fetch => exact ⟨hshows.1, turns, List.suffix_rfl, hshows.2⟩
  | gone => trivial
  | unfetched => trivial
  | same hsame =>
    obtain ⟨rfl, earlier, hsuffix, hsaw⟩ := hshows
    exact ⟨_, earlier, hsuffix.trans (List.suffix_cons ..), .unchanged hsame, hsaw⟩
  | time _ =>
    obtain ⟨hchange, earlier, hsuffix, hsaw⟩ := hshows
    refine ⟨hchange, (hsaw.of_suffix ?_).weaken _⟩
    exact (List.suffix_cons ..).trans hsuffix
  | write =>
    obtain ⟨rfl, hsaw⟩ := hshows
    exact ⟨_, turns, List.suffix_rfl, .written, hsaw⟩
  | again _ => exact ⟨hshows.1, hshows.2.weaken _⟩
  | refused _ => trivial

/-- Nothing is booked while a status is updated. -/
lemma Writes.booking?_eq {u : StatusUpdate} {r : Resource} {ph ph' : WritePhase}
    (h : Writes u r ph q answer ph') : q.booking? = none := by
  cases h <;> rfl

/-- What is asked is what is added to the books. -/
lemma Books.entries_eq (h : Books ns name key page q answer page') :
    page'.entries key = q.booking?.toList ++ page.entries key := by
  cases h with
  | quiet _ _ hq => simp [hq]
  | record hwrites => simp [hwrites.booking?_eq, Page.entries]
  | fail _ hpage =>
    cases page with
    | blank => rfl
    | recording r state ph => rfl
    | _ => cases hpage
  | _ => rfl

lemma Books.shows (h : Books ns name key page q answer page') (hshows : page.Shows ns name turns) :
    page'.Shows ns name (⟨q, answer⟩ :: turns) := by
  cases h with
  | wake =>
    obtain rfl : turns = [] := hshows
    rfl
  | oversleep => trivial
  | lapse hdel hfin =>
    obtain rfl : turns = _ := hshows
    exact ⟨List.suffix_rfl, hdel, hfin⟩
  | read _ => trivial
  | quiet _ hpage _ => exact hshows.weaken hpage _
  | see hstate => exact ⟨hstate, rfl, _, _, List.mem_cons_self⟩
  | record hwrites => exact ⟨hshows.1, hwrites.shows hshows.2⟩
  | fail _ _ => exact fun hagain => nomatch hagain
  | failAgain _ => exact fun _ => (hshows rfl).weaken _
  | restart => exact fun hready => nomatch hready
  | restartReady => exact fun _ => ⟨_, hshows.1, Recorded.weaken hshows.2 _⟩
  | forget => trivial

namespace Kept

lemma start : Kept ns name key past .untouched past [] where
  booked := rfl
  count := rfl
  delay := by simp
  shows := rfl

lemma elsewhere {e : Entry} (h : Kept ns name key past page entries turns) (he : e.key ≠ key) :
    Kept ns name key past page (e :: entries) turns where
  booked := h.booked
  count := by rw [failuresInRow_cons_of_ne he, h.count]
  delay := by
    rw [failuresInRow_cons_of_ne he]
    exact h.delay
  shows := h.shows

lemma count_asked (h : Kept ns name key past page entries turns)
    (hbooks : Books ns name key page q answer page') :
    failuresInRow key (q.booking?.toList ++ entries) =
      failuresInRow key (page'.entries key ++ past) := by
  rw [hbooks.entries_eq, List.append_assoc]
  cases q.booking? with
  | none => exact h.count
  | some e => exact failuresInRow_cons_congr e h.count

/-- The delay that is waited out is the one of the failure that has just been counted. -/
lemma delay_asked (h : Kept ns name key past page entries turns)
    (hbooks : Books ns name key page q answer page') (ha : q.IsFaithful entries answer)
    (again : Bool) (delay : Duration) (hpage : page' = .waiting again delay) :
    delay = delayAfter (failuresInRow key (q.booking?.toList ++ entries)) := by
  have hfailed : failuresInRow key (.failure key :: entries) = failuresInRow key entries + 1 :=
    if_pos rfl
  cases hbooks with
  | quiet _ _ hq =>
    rw [hq]
    exact h.delay again delay hpage
  | fail delay' _ =>
    obtain ⟨-, rfl⟩ := Page.waiting.inj hpage
    have hdelay : delay' = ((Ledger.of entries).fail key).1 := ha
    rw [hdelay, Ledger.fail_of]
    exact congrArg delayAfter hfailed.symm
  | failAgain delay' =>
    obtain ⟨-, rfl⟩ := Page.waiting.inj hpage
    have hdelay : delay' = ((Ledger.of entries).fail key).1 := ha
    rw [hdelay, Ledger.fail_of]
    exact congrArg delayAfter hfailed.symm
  | _ => cases hpage

lemma asked (h : Kept ns name key past page entries turns)
    (hbooks : Books ns name key page q answer page') (ha : q.IsFaithful entries answer) :
    Kept ns name key past page' (q.booking?.toList ++ entries) (⟨q, answer⟩ :: turns) where
  booked := by rw [booked_cons, h.booked, hbooks.entries_eq]
  count := h.count_asked hbooks
  delay := h.delay_asked hbooks ha
  shows := hbooks.shows h.shows

end Kept

/-- The books are kept wherever a program has come to that keeps its books. -/
theorem Tally.exists_kept {α : Type} {post : α → Page → Prop} {p rest : Program α}
    (hp : p.Follows (Books ns name key) post .untouched)
    (h : Tally p key past rest entries turns) :
    ∃ page, rest.Follows (Books ns name key) post page ∧
      Kept ns name key past page entries turns := by
  induction h with
  | start => exact ⟨.untouched, hp, .start⟩
  | elsewhere _ he ih =>
    obtain ⟨page, hfollows, hkept⟩ := ih
    exact ⟨page, hfollows, hkept.elsewhere he⟩
  | asked _ answer ha ih =>
    obtain ⟨page, hfollows, hkept⟩ := ih
    obtain ⟨page', hbooks, hnext⟩ := hfollows answer
    exact ⟨page', hnext, hkept.asked hbooks ha⟩

end Along

end TargetRegistrar.Controller
