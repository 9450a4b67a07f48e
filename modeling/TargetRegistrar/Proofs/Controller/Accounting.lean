import Mathlib.Data.List.Forall2
import TargetRegistrar.Controller.Reconcile
import TargetRegistrar.Proofs.Controller.Counting
import TargetRegistrar.Proofs.Metrics.Counters

/-!
# The counters account for every pass

Changed resources are handled side by side.  Each has its pass, and the failure rule if the pass
fails, and all of them ask their questions in any order and are answered anything.  They share the
counters, and they count in the middle of a pass as well as after it.

When all of them are dealt with, the counters agree with what has come of the passes.  A
`PassReport` holds what that is: what the pass returned, how its remote operation ended, and which
action was decided on.  It is read off the turns of the handling, and there is only one way to do so
(`Reported`, `Explains`).  Each question keeps the counters in step with what has been counted
(`Shows.after`, and from it `Watching.sound` for a whole run), `handle_concludes` says what one
handling counts, and `counters_account_for_passes` is the result.
-/

namespace TargetRegistrar.Controller

open Gateway

/-! ## Runs of passes -/

/-- The handling of a changed resource. -/
structure Handling where
  resource : Resource
  /-- What is left to do. -/
  rest : Program (Decider × Action)
  /-- What has been asked, the last turn first. -/
  turns : List Turn

/-- The resource has been dealt with. -/
def Handling.IsOver (x : Handling) : Prop :=
  ∃ decided, x.rest = .done decided

/-- The resources of some namespace that have been taken up so far, the last one first, and the
counters.  Any of the handlings may go on at any time, and be answered anything. -/
inductive Watching (c : Config) : List Handling → Metrics → Prop where
  | start : Watching c [] {}
  | begun {handlings : List Handling} {m : Metrics} (h : Watching c handlings m) (r : Resource)
      (hns : r.metadata.ns.isSome) : Watching c (⟨r, handle c r, []⟩ :: handlings) m
  | asked (before after : List Handling) {m : Metrics} {r : Resource} {q : Query}
      {next : q.Answer → Program (Decider × Action)} {turns : List Turn}
      (h : Watching c (before ++ ⟨r, .ask q next, turns⟩ :: after) m) (answer : q.Answer)
      (seconds : Float) :
      Watching c (before ++ ⟨r, next answer, ⟨q, answer⟩ :: turns⟩ :: after) (m.after seconds q)

/-! ## Reports -/

/-- What has come of the pass on a changed resource. -/
structure PassReport where
  /-- What the pass returned. -/
  outcome : Except Error Directive
  upshot : Upshot
  action : Action

/-- Who decides on the action: the failure rule exactly if the pass has failed. -/
def deciderAfter : Except Error Directive → Decider
  | .error _ => .failureRule
  | .ok _ => .pass

namespace PassReport

def isFailed (r : PassReport) : Bool :=
  match r.outcome with
  | .error _ => true
  | .ok _ => false

/-- Whether another writer was first. -/
def isContended (r : PassReport) : Bool :=
  match r.outcome with
  | .ok .requeueNow => true
  | _ => false

/-- Whether the resource is to be looked at again without a change. -/
def isRequeued (r : PassReport) : Bool :=
  match r.action with
  | .requeue _ => true
  | .awaitChange => false

end PassReport

/-- The report on the handling of a resource: the pass is what was asked first, and the failure rule
was applied to it exactly if it failed. -/
structure Reported (c : Config) (x : Handling) (report : PassReport) : Prop where
  passed : ∃ ns turns, x.resource.metadata.ns = some ns ∧ turns <:+ x.turns ∧
    Dialogue (reconcile c ns x.resource.anyName).run (.done report.outcome) turns ∧
    Performed c.policy turns report.upshot
  decided : x.rest = .done (deciderAfter report.outcome, report.action)

/-- The counters agree with the reports on all passes. -/
structure AccountFor (m : Metrics) (reports : List PassReport) : Prop where
  passes : m.passes = reports.length
  errors : Metrics.total m.errors = reports.countP (·.isFailed)
  storeErrors : Metrics.countOf m.errors "store" = reports.countP (·.isFailed)
  otherErrors : ∀ label ≠ "store", Metrics.countOf m.errors label = 0
  requeues : Metrics.total m.requeues = reports.countP (·.isRequeued)
  failedRequeues : Metrics.countOf m.requeues "error" = reports.countP (·.isFailed)
  contendedRequeues : Metrics.countOf m.requeues "conflict" = reports.countP (·.isContended)
  delayedRequeues : Metrics.countOf m.requeues "requeue_after" =
    reports.countP fun r => r.isRequeued && !r.isFailed && !r.isContended
  successes : ∀ operation : Operation, Metrics.countOf m.calls (operation.label, "success") =
    reports.countP fun r => r.upshot = .succeeded operation
  failures : ∀ operation : Operation, Metrics.countOf m.calls (operation.label, "error") =
    reports.countP fun r => r.upshot = .failed operation

/-! ## What the counters show -/

def Count.isError : Count → Bool
  | error _ => true
  | _ => false

def Count.isRequeue : Count → Bool
  | requeue _ => true
  | _ => false

/-- The number of times that something has been counted, as the counters have it. -/
def number (m : Metrics) : Count → Nat
  | .pass => m.passes
  | .error label => Metrics.countOf m.errors label
  | .requeue reason => Metrics.countOf m.requeues reason
  | .call operation success => Metrics.countOf m.calls (operation.label, Metrics.outcome success)

/-- The counters are the numbers of what has been counted. -/
structure Shows (m : Metrics) (counts : List Count) : Prop where
  number : ∀ x, number m x = counts.count x
  errors : Metrics.total m.errors = counts.countP (·.isError)
  requeues : Metrics.total m.requeues = counts.countP (·.isRequeue)

section Counters

variable {m : Metrics} {counts counts' : List Count}

lemma shows_nil : Shows {} [] := by
  refine ⟨fun x => ?_, rfl, rfl⟩
  cases x <;> rfl

lemma Shows.perm (h : Shows m counts) (hperm : counts.Perm counts') : Shows m counts' :=
  ⟨fun x => (h.number x).trans (hperm.count_eq x), h.errors.trans (hperm.countP_eq _),
    h.requeues.trans (hperm.countP_eq _)⟩

/-- What a question counts goes to its own counter and to no other. -/
lemma number_after (m : Metrics) (seconds : Float) (q : Query) (x : Count) :
    number (m.after seconds q) x = number m x + q.count?.toList.count x := by
  cases q with
  | countCall operation success =>
    cases x with
    | call operation' success' =>
      simp [number, Metrics.after, Metrics.countCall, Metrics.countOf_increment,
        Operation.label_inj, Metrics.outcome_inj, Query.count?, List.count_singleton]
    | _ => rfl
  | countPass => cases x <;> rfl
  | countError label =>
    cases x with
    | error label' =>
      simp [number, Metrics.after, Metrics.countError, Metrics.countOf_increment, Query.count?,
        List.count_singleton]
    | _ => rfl
  | countRequeue reason =>
    cases x with
    | requeue reason' =>
      simp [number, Metrics.after, Metrics.countRequeue, Metrics.countOf_increment, Query.count?,
        List.count_singleton]
    | _ => rfl
  | _ => rfl

/-- The counters go on to show what has been counted. -/
lemma Shows.after (h : Shows m counts) (seconds : Float) (q : Query) :
    Shows (m.after seconds q) (q.count?.toList ++ counts) := by
  refine ⟨fun x => ?_, ?_, ?_⟩
  · rw [number_after, h.number, List.count_append, Nat.add_comm]
  · cases q with
    | countError label =>
      exact (Metrics.total_increment ..).trans
        ((congrArg (· + 1) h.errors).trans (List.countP_cons_of_pos rfl).symm)
    | _ => exact h.errors
  · cases q with
    | countRequeue reason =>
      exact (Metrics.total_increment ..).trans
        ((congrArg (· + 1) h.requeues).trans (List.countP_cons_of_pos rfl).symm)
    | _ => exact h.requeues

end Counters

/-- What holds of a run of passes wherever it has come to. -/
lemma Watching.sound {c : Config} {handlings : List Handling} {m : Metrics}
    (h : Watching c handlings m) :
    Shows m (handlings.flatMap (counted ·.turns)) ∧ ∀ x ∈ handlings,
      x.resource.metadata.ns.isSome ∧ Dialogue (handle c x.resource) x.rest x.turns := by
  induction h with
  | start => exact ⟨shows_nil, List.forall_mem_nil _⟩
  | begun _ r hns ih => exact ⟨ih.1, List.forall_mem_cons.mpr ⟨⟨hns, .start⟩, ih.2⟩⟩
  | @asked before after _ _ q _ turns _ answer seconds ih =>
    obtain ⟨hshows, hall⟩ := ih
    rw [List.forall_mem_append, List.forall_mem_cons] at hall
    obtain ⟨hbefore, ⟨hns, hdialogue⟩, hafter⟩ := hall
    refine ⟨(hshows.after seconds q).perm ?_, ?_⟩
    · have hcounted : counted (⟨q, answer⟩ :: turns) = q.count?.toList ++ counted turns := by
        unfold counted
        cases h : q.count? with
        | none => simp [h]
        | some x => simp [h]
      simp only [List.flatMap_append, List.flatMap_cons, hcounted, List.append_assoc]
      exact List.perm_append_comm_assoc ..
    · rw [List.forall_mem_append, List.forall_mem_cons]
      exact ⟨hbefore, ⟨hns, hdialogue.asked answer⟩, hafter⟩

/-! ## The handling of one resource -/

/-- What is done about a resource when its pass has returned. -/
def react (r : Resource) : Except Error Directive → Program (Decider × Action)
  | .error e =>
    .ask .countPass fun _ => .ask (.countError e.label) fun _ => .ask (.fail r.key) fun delay =>
      .ask (.countRequeue "error") fun _ => .done (.failureRule, .requeue delay)
  | .ok directive =>
    .ask .countPass fun _ =>
      if directive.isRequeue then
        .ask (.countRequeue directive.label) fun _ => .done (.pass, directive.action)
      else .done (.pass, directive.action)

/-- What is counted when a pass has returned, the last count first. -/
def reaction : Except Error Directive → List Count
  | .error e => [.requeue "error", .error e.label, .pass]
  | .ok directive => (if directive.isRequeue then [.requeue directive.label] else []) ++ [.pass]

/-- The actions that may be decided on when a pass has returned; a failure is one of the store. -/
def Entails : Except Error Directive → Action → Prop
  | .error e, action => e.label = "store" ∧ ∃ delay, action = .requeue delay
  | .ok directive, action => action = directive.action

section Handlings

variable {c : Config} {r : Resource} {ns : String}

lemma handle_eq (hns : r.metadata.ns = some ns) :
    handle c r = (reconcile c ns r.anyName).run.bind (react r) := by
  unfold handle handleChange
  simp only [hns]
  show Program.bind (Program.bind (Program.bind _ _) _) _ = _
  rw [Program.bind_assoc, Program.bind_assoc]
  refine congrArg (Program.bind _) (funext fun outcome => ?_)
  cases outcome with
  | error e => rfl
  | ok directive =>
    refine congrArg (Program.ask .countPass) (funext fun _ => ?_)
    by_cases hrequeue : directive.isRequeue = true
    · simp only [hrequeue, if_true]
      rfl
    · simp only [hrequeue]
      rfl

/-- The handling of a resource begins with its pass, which is counted when it has returned. -/
lemma handle_concludes (hns : r.metadata.ns = some ns) :
    (handle c r).Follows Logs (fun decided turns => ∃ outcome pass,
      Dialogue (reconcile c ns r.anyName).run (.done outcome) pass ∧ pass <:+ turns ∧
      counted turns = reaction outcome ++ counted pass ∧ decided.1 = deciderAfter outcome ∧
      Entails outcome decided.2) [] := by
  rw [handle_eq hns]
  refine Program.Follows.bind (Program.Follows.weaken ?_ (follows_logs _ []))
  rintro outcome _ ⟨pass, rfl, hpass⟩
  rw [List.append_nil]
  have hsuffix (later : List Turn) : pass <:+ later ++ pass := List.suffix_append ..
  cases outcome with
  | error e =>
    have hlabel : e.label = "store" := by
      obtain ⟨refusal, rfl, -⟩ := exists_refusal_of_failed hpass
      rfl
    intro _
    refine ⟨_, rfl, fun _ => ⟨_, rfl, fun delay => ⟨_, rfl, fun _ => ⟨_, rfl, ?_⟩⟩⟩⟩
    exact ⟨.error e, pass, hpass, hsuffix [_, _, _, _], rfl, rfl, hlabel, delay, rfl⟩
  | ok directive =>
    intro _
    refine ⟨_, rfl, ?_⟩
    dsimp only
    by_cases hrequeue : directive.isRequeue = true
    · rw [if_pos hrequeue]
      intro _
      refine ⟨_, rfl, .ok directive, pass, hpass, hsuffix [_, _], ?_, rfl, rfl⟩
      simp only [reaction, hrequeue, if_true]
      rfl
    · rw [if_neg hrequeue]
      refine ⟨.ok directive, pass, hpass, hsuffix [_], ?_, rfl, rfl⟩
      simp only [reaction, hrequeue]
      rfl

end Handlings

/-! ## One report for each handling -/

section Determinacy

variable {α : Type} {p rest mid : Program α} {earlier later turns turns' whole : List Turn}
  {a b : α}

/-- The turns determine what is left to do. -/
lemma Dialogue.rest_unique (h : Dialogue p rest turns) (h' : Dialogue p mid turns) :
    rest = mid := by
  induction h generalizing mid with
  | start =>
    cases h'
    rfl
  | asked _ answer ih =>
    cases h' with
    | asked h' _ =>
      cases ih h'
      rfl

/-- What comes after some turns goes on from where these have led. -/
lemma Dialogue.resume (h : Dialogue p rest (later ++ earlier)) (h' : Dialogue p mid earlier) :
    Dialogue mid rest later := by
  induction later generalizing rest with
  | nil =>
    cases h.rest_unique h'
    exact .start
  | cons t later ih =>
    cases h with
    | asked h answer => exact (ih h).asked answer

/-- Nothing comes after the end. -/
lemma Dialogue.eq_nil_of_done (h : Dialogue (.done a) rest turns) :
    turns = [] ∧ rest = .done a := by
  induction h with
  | start => exact ⟨rfl, rfl⟩
  | asked _ _ ih => cases ih.2

lemma Dialogue.eq_of_suffix (h : Dialogue p (.done a) turns) (h' : Dialogue p (.done b) turns')
    (hsuffix : turns <:+ turns') : turns' = turns ∧ b = a := by
  obtain ⟨later, rfl⟩ := hsuffix
  obtain ⟨rfl, hdone⟩ := (h'.resume h).eq_nil_of_done
  cases hdone
  exact ⟨rfl, rfl⟩

/-- A program comes to its end once in a course of turns. -/
lemma Dialogue.end_unique (h : Dialogue p (.done a) turns) (h' : Dialogue p (.done b) turns')
    (hwhole : turns <:+ whole) (hwhole' : turns' <:+ whole) : turns' = turns ∧ b = a := by
  obtain hsuffix | hsuffix := List.suffix_or_suffix_of_suffix hwhole hwhole'
  · exact h.eq_of_suffix h' hsuffix
  · obtain ⟨hturns, hab⟩ := h'.eq_of_suffix h hsuffix
    exact ⟨hturns.symm, hab.symm⟩

end Determinacy

/-- What is counted of a pass and after it. -/
def PassReport.counts (r : PassReport) : List Count :=
  reaction r.outcome ++ r.upshot.counts

/-- A handling comes to one report, and that says all that it has counted. -/
structure Explains (c : Config) (x : Handling) (report : PassReport) : Prop where
  counted : counted x.turns = report.counts
  entailed : Entails report.outcome report.action
  reported : ∀ report', Reported c x report' ↔ report' = report

lemma exists_explaining {c : Config} {x : Handling} (hns : x.resource.metadata.ns.isSome)
    (h : Dialogue (handle c x.resource) x.rest x.turns) (hover : x.IsOver) :
    ∃ report, Explains c x report := by
  obtain ⟨resource, rest, turns⟩ := x
  obtain ⟨⟨decider, action⟩, hdecided⟩ := hover
  obtain rfl : rest = .done (decider, action) := hdecided
  obtain ⟨ns, hsome⟩ := Option.isSome_iff_exists.mp hns
  have hends := h.follows (handle_concludes hsome)
  obtain ⟨outcome, pass, hpass, hsuffix, hcounted, rfl, hentails⟩ := hends
  obtain ⟨u, hperformed, htallied⟩ := reconcile_tallied hpass
  refine ⟨⟨outcome, u, action⟩, ?_, hentails, ?_⟩
  · rw [hcounted, htallied]
    rfl
  · rintro ⟨outcome', u', action'⟩
    constructor
    · rintro ⟨⟨ns', pass', hns', hsuffix', hpass', hperformed'⟩, hdecided'⟩
      obtain rfl : ns = ns' := Option.some.inj (hsome.symm.trans hns')
      obtain ⟨rfl, rfl⟩ := hpass.end_unique hpass' hsuffix hsuffix'
      obtain rfl : u' = u := hperformed'.upshot_eq.symm.trans hperformed.upshot_eq
      obtain rfl : action = action' := congrArg Prod.snd (Program.done.inj hdecided')
      rfl
    · rintro h
      cases h
      exact ⟨⟨ns, pass, hsome, hsuffix, hpass, hperformed⟩, rfl⟩

/-- All handlings together come to one list of reports. -/
lemma exists_reports {c : Config} {handlings : List Handling}
    (h : ∀ x ∈ handlings, ∃ report, Explains c x report) :
    ∃ reports, handlings.flatMap (counted ·.turns) = reports.flatMap PassReport.counts ∧
      (∀ r ∈ reports, Entails r.outcome r.action) ∧
      ∀ reports', List.Forall₂ (Reported c) handlings reports' ↔ reports' = reports := by
  induction handlings with
  | nil => exact ⟨[], rfl, List.forall_mem_nil _, fun _ => List.forall₂_nil_left_iff⟩
  | cons x handlings ih =>
    rw [List.forall_mem_cons] at h
    obtain ⟨report, hcounted, hentailed, hreported⟩ := h.1
    obtain ⟨reports, hall, hentails, hunique⟩ := ih h.2
    refine ⟨report :: reports, ?_, List.forall_mem_cons.mpr ⟨hentailed, hentails⟩, ?_⟩
    · rw [List.flatMap_cons, List.flatMap_cons, hcounted, hall]
    · intro reports'
      rw [List.forall₂_cons_left_iff]
      constructor
      · rintro ⟨report', rest, hfirst, hrest, rfl⟩
        rw [(hreported report').mp hfirst, (hunique rest).mp hrest]
      · rintro rfl
        exact ⟨report, reports, (hreported report).mpr rfl, (hunique reports).mpr rfl, rfl⟩

/-! ## The account -/

section Account

variable {reports : List PassReport} {m : Metrics} {counts? : Count → Bool}

/-- What is counted at most once for each report is counted as often as there are such reports. -/
lemma countP_counts {holds : PassReport → Bool}
    (h : ∀ r ∈ reports, r.counts.countP counts? = if holds r then 1 else 0) :
    (reports.flatMap PassReport.counts).countP counts? = reports.countP holds := by
  induction reports with
  | nil => rfl
  | cons r reports ih =>
    rw [List.forall_mem_cons] at h
    rw [List.flatMap_cons, List.countP_append, List.countP_cons, ih h.2, h.1, Nat.add_comm]

/-- What is not an operation is counted after the pass, as its outcome demands. -/
lemma countP_reactions {holds : PassReport → Bool}
    (hcall : ∀ operation success, counts? (.call operation success) = false)
    (hfailed : ∀ e u delay, e.label = "store" → (reaction (.error e)).countP counts? =
      if holds ⟨.error e, u, .requeue delay⟩ then 1 else 0)
    (hreturned : ∀ directive u, (reaction (.ok directive)).countP counts? =
      if holds ⟨.ok directive, u, directive.action⟩ then 1 else 0)
    (hentailed : ∀ r ∈ reports, Entails r.outcome r.action) :
    (reports.flatMap PassReport.counts).countP counts? = reports.countP holds := by
  refine countP_counts fun r hr => ?_
  have hentails := hentailed r hr
  obtain ⟨outcome, u, action⟩ := r
  have hnone : u.counts.countP counts? = 0 := by cases u <;> simp [Upshot.counts, hcall]
  rw [PassReport.counts, List.countP_append, hnone, Nat.add_zero]
  cases outcome with
  | error e =>
    obtain ⟨hlabel, delay, rfl⟩ := hentails
    exact hfailed e u delay hlabel
  | ok directive =>
    obtain rfl : action = directive.action := hentails
    exact hreturned directive u

/-- An operation is counted in the middle of its pass, and not again after it. -/
lemma count_operations (operation : Operation) (success : Bool) {u : Upshot}
    (h : ∀ r : PassReport, r.upshot.counts.count (.call operation success) =
      if r.upshot = u then 1 else 0) :
    (reports.flatMap PassReport.counts).count (.call operation success) =
      reports.countP fun r => r.upshot = u := by
  refine countP_counts fun r _ => ?_
  have hnone : (reaction r.outcome).count (.call operation success) = 0 := by
    rcases r.outcome with e | directive
    · rfl
    · cases directive <;> rfl
  have hupshot := h r
  show (reaction r.outcome ++ r.upshot.counts).count _ = _
  rw [List.count_append, hnone, hupshot, Nat.zero_add]
  simp only [decide_eq_true_eq]

lemma accountFor_of_shows (h : Shows m (reports.flatMap PassReport.counts))
    (hentailed : ∀ r ∈ reports, Entails r.outcome r.action) : AccountFor m reports where
  passes := by
    refine (h.number .pass).trans (Eq.trans ?_ (congrFun List.countP_true reports))
    refine countP_reactions (fun _ _ => rfl) (fun _ _ _ _ => rfl) (fun directive _ => ?_) hentailed
    cases directive <;> rfl
  errors := by
    refine h.errors.trans (countP_reactions (fun _ _ => rfl) (fun _ _ _ _ => rfl) ?_ hentailed)
    rintro ⟨⟩ _ <;> rfl
  storeErrors := by
    refine (h.number (.error "store")).trans
      (countP_reactions (fun _ _ => rfl) (fun e _ _ hlabel => ?_) ?_ hentailed)
    · rw [reaction, hlabel]
      rfl
    · rintro ⟨⟩ _ <;> rfl
  otherErrors := by
    intro label hlabel
    refine (h.number (.error label)).trans (Eq.trans ?_ (congrFun List.countP_false reports))
    refine countP_reactions (fun _ _ => rfl) (fun e _ _ hstore => ?_)
      (fun directive _ => ?_) hentailed
    · simp [reaction, hstore, Ne.symm hlabel]
    · cases directive <;> rfl
  requeues := by
    refine h.requeues.trans (countP_reactions (fun _ _ => rfl) (fun _ _ _ _ => rfl) ?_ hentailed)
    rintro ⟨⟩ _ <;> rfl
  failedRequeues := by
    refine (h.number (.requeue "error")).trans
      (countP_reactions (fun _ _ => rfl) (fun _ _ _ _ => rfl) ?_ hentailed)
    rintro ⟨⟩ _ <;> rfl
  contendedRequeues := by
    refine (h.number (.requeue "conflict")).trans
      (countP_reactions (fun _ _ => rfl) (fun _ _ _ _ => rfl) ?_ hentailed)
    rintro ⟨⟩ _ <;> rfl
  delayedRequeues := by
    refine (h.number (.requeue "requeue_after")).trans
      (countP_reactions (fun _ _ => rfl) (fun _ _ _ _ => rfl) ?_ hentailed)
    rintro ⟨⟩ _ <;> rfl
  successes := by
    intro operation
    refine (h.number (.call operation true)).trans (count_operations operation true fun r => ?_)
    cases r.upshot <;> simp [Upshot.counts, List.count_singleton]
  failures := by
    intro operation
    refine (h.number (.call operation false)).trans (count_operations operation false fun r => ?_)
    cases r.upshot <;> simp [Upshot.counts, List.count_singleton]

end Account

lemma Watching.exists_accounted {c : Config} {handlings : List Handling} {m : Metrics}
    (h : Watching c handlings m) (hover : ∀ x ∈ handlings, x.IsOver) :
    ∃ reports, AccountFor m reports ∧
      ∀ reports', List.Forall₂ (Reported c) handlings reports' ↔ reports' = reports := by
  obtain ⟨hshows, hall⟩ := h.sound
  obtain ⟨reports, hcounted, hentailed, hreported⟩ := exists_reports fun x hx =>
    exists_explaining (hall x hx).1 (hall x hx).2 (hover x hx)
  rw [hcounted] at hshows
  exact ⟨reports, accountFor_of_shows hshows hentailed, hreported⟩

/-- When all resources that have been taken up are dealt with, there is one report on each, and the
counters agree with the reports. -/
theorem counters_account_for_passes {c : Config} {handlings : List Handling} {m : Metrics}
    (h : Watching c handlings m) (hover : ∀ x ∈ handlings, x.IsOver) :
    ∃ reports, AccountFor m reports ∧
      ∀ reports', List.Forall₂ (Reported c) handlings reports' ↔ reports' = reports :=
  h.exists_accounted hover

/-- While the target of a resource cannot be reached, the same resource cannot be read in another
pass. -/
theorem two_passes_accounted :
    ∃ (handlings : List Handling) (m : Metrics), Watching sampleConfig handlings m ∧
      handlings.length = 2 ∧ (∀ x ∈ handlings, x.IsOver) ∧
      Metrics.countOf m.calls ("get", "error") = 1 ∧ Metrics.total m.errors = 1 ∧
      ∃ reports, AccountFor m reports ∧
        ∀ reports', List.Forall₂ (Reported sampleConfig) handlings reports' ↔
          reports' = reports := by
  have hbegun := (Watching.start.begun sampleRegistered rfl : Watching sampleConfig _ _)
  have hopened := Watching.asked (q := .isCancelled) [] [] hbegun false 0
  have hread := Watching.asked (q := .store (.get "tools" "files")) [] [] hopened
    (.ok (some sampleRegistered)) 0
  -- the second pass begins while the first one waits for the gateway
  have hjoined := hread.begun sampleRegistered rfl
  have hreopened := Watching.asked (q := .isCancelled) [] [_] hjoined false 0
  have hpolled := Watching.asked (q := .gateway (.get "gw" "target-1")) [_] [] hreopened
    (.finished (.error (.transport "timeout"))) 0
  have hcounted := Watching.asked (q := .countCall .get false) [_] [] hpolled () 0
  have hunread := Watching.asked (q := .store (.get "tools" "files")) [] [_] hcounted
    (.error (.apiServer (some 500))) 0
  have hpassed := Watching.asked (q := .countPass) [] [_] hunread () 0
  have hfailed := Watching.asked (q := .countError "store") [] [_] hpassed () 0
  have hdelayed := Watching.asked (q := .fail "tools/files") [_] [] hfailed (.ofSeconds 5) 0
  have hpassed := Watching.asked (q := .countPass) [_] [] hdelayed () 0
  have hended := Watching.asked (q := .countRequeue "requeue_after") [_] [] hpassed () 0
  have hdelayed := Watching.asked (q := .fail "tools/files") [] [_] hended (.ofSeconds 5) 0
  have hwatched := Watching.asked (q := .countRequeue "error") [] [_] hdelayed () 0
  refine ⟨_, _, hwatched, rfl, ?hover, by decide +kernel, by decide +kernel,
    counters_account_for_passes hwatched ?hover⟩
  exact List.forall_mem_cons.mpr ⟨⟨_, rfl⟩, List.forall_mem_singleton.mpr ⟨_, rfl⟩⟩

end TargetRegistrar.Controller
