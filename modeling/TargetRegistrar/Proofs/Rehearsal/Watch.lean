import TargetRegistrar.Proofs.Controller.Accounting
import TargetRegistrar.Rehearsal.Script

/-!
# A watch that is rehearsed is accounted for

A rehearsal runs the handling of one resource after another against a world that answers each
question.  Every answer that the world gives is one that `Watching` allows, and the world's counters
go on as they do there (`Stage.metrics_answer`), so that what is known of a run of passes holds of
the rehearsal.  The main statement is `watch_accounted`: whatever the script makes of the store and
of the gateway, a watch that deals with all its resources leaves counters that agree with one report
on each pass.
-/

namespace TargetRegistrar

open Controller

/-! ## Counters in a rehearsal -/

namespace Rehearsal

lemma World.metrics_edit (w : World) (e : Edit) : (w.edit e).2.metrics = w.metrics := by
  cases e with
  | save label ns name => cases h : w.store.current ns name <;> simp only [World.edit, h]
  | replaceFinalizers copy finalizers => cases h : w.copy? copy <;> simp only [World.edit, h]
  | replaceStatus copy status => cases h : w.copy? copy <;> simp only [World.edit, h]
  | _ => rfl

lemma World.metrics_editAll (w : World) (edits : List Edit) :
    (w.editAll edits).metrics = w.metrics := by
  induction edits generalizing w with
  | nil => rfl
  | cons e edits ih => exact (ih _).trans (w.metrics_edit e)

lemma World.metrics_spring (w : World) (due : List Ambush) :
    (w.spring due).2.metrics = w.metrics := by
  induction due generalizing w with
  | nil => rfl
  | cons a due ih =>
    cases h : a.error with
    | none => simp only [World.spring, h, ih, metrics_editAll]
    | some e => simp only [World.spring, h, metrics_editAll]

/-- A part of a performance that leaves the counters alone. -/
def Uncounting {α : Type} (p : Performance α) : Prop :=
  ∀ w, (p.run.run w).2.metrics = w.metrics

section Parts

variable {α β : Type}

lemma Uncounting.bind {p : Performance α} {f : α → Performance β} (hp : Uncounting p)
    (hf : ∀ a, Uncounting (f a)) : Uncounting (p >>= f) := by
  intro w
  have hfirst := hp w
  simp only [ExceptT.run_bind, StateT.run_bind]
  rcases h : StateT.run (ExceptT.run p) w with ⟨dropped | a, w'⟩
  · rw [h] at hfirst
    exact hfirst
  · rw [h] at hfirst
    exact (hf a w').trans hfirst

/-- A part that looks at the world first may depend on it. -/
lemma uncounting_get {f : World → Performance α}
    (hf : ∀ w, ((f w).run.run w).2.metrics = w.metrics) : Uncounting (get >>= f) := hf

lemma uncounting_elapse (s : Stage) (millis : Nat) : Uncounting (s.elapse millis) := by
  refine uncounting_get fun w => ?_
  dsimp only
  -- the performance ends, or the wait is cut short, or it comes to its end
  split
  · rfl
  · split
    · rfl
    · rfl

lemma uncounting_serveStore (request : Store.Request) : Uncounting (Stage.serveStore request) :=
  uncounting_get fun _ => World.metrics_spring ..

lemma uncounting_serveGateway (s : Stage) (call : Gateway.Call) :
    Uncounting (s.serveGateway call) := by
  refine uncounting_get fun w => uncounting_get (fun w' => ?_) w
  refine Uncounting.bind (uncounting_elapse s _) (fun raced => ?_) w'
  cases raced with
  | cancelled => exact fun _ => rfl
  | finished _ => exact uncounting_get fun _ => rfl

end Parts

/-- A rehearsal counts what it is asked to count and nothing else; passes take no time there. -/
lemma Stage.metrics_answer (s : Stage) (q : Query) (w : World) :
    ((s.answer q).run.run w).2.metrics = w.metrics.after 0 q := by
  cases q with
  | store request => exact uncounting_serveStore request w
  | gateway call => exact uncounting_serveGateway s call w
  | wait delay => exact uncounting_elapse s _ w
  | _ => rfl

/-- A question that is dropped is not one that counts. -/
lemma Stage.metrics_of_dropped {s : Stage} {q : Query} {w : World}
    (h : ((s.answer q).run.run w).1 = .error .unfinished) :
    ((s.answer q).run.run w).2.metrics = w.metrics := by
  rw [s.metrics_answer]
  cases q with
  | countCall operation success => cases h
  | countPass => cases h
  | countError label => cases h
  | countRequeue reason => cases h
  | _ => rfl

/-! ## Handlings in a rehearsal -/

section Handlings

variable {c : Config} {s : Stage} {handlings : List Handling}

/-- A performance goes on with the handling that was taken up last, and comes to its end unless it
is dropped. -/
lemma exists_performed {r : Resource} {p : Program (Decider × Action)} {turns : List Turn}
    {w : World} (h : Watching c (⟨r, p, turns⟩ :: handlings) w.metrics) :
    ∃ rest turns', Watching c (⟨r, rest, turns'⟩ :: handlings) (s.perform p w).2.metrics ∧
      ∀ decided, (s.perform p w).1 = some decided → rest = .done decided := by
  unfold Stage.perform
  induction p generalizing turns w with
  | done decided =>
    refine ⟨.done decided, turns, h, fun _ hdecided => ?_⟩
    cases hdecided
    rfl
  | ask q next ih =>
    have hcounted := s.metrics_answer q w
    have hdropped := Stage.metrics_of_dropped (s := s) (q := q) (w := w)
    simp only [Program.interpret, ExceptT.run_bind, StateT.run_bind]
    rcases hanswer : StateT.run (ExceptT.run (s.answer q)) w with ⟨⟨⟩ | answer, w'⟩
    · rw [hanswer] at hdropped
      rw [← hdropped rfl] at h
      exact ⟨.ask q next, turns, h, fun _ hdecided => by cases hdecided⟩
    · rw [hanswer] at hcounted
      have hasked := Watching.asked [] handlings h answer 0
      rw [← hcounted] at hasked
      exact ih answer hasked

/-- The resources that are handed over are taken up one after another, and those whose actions are
decided on have been dealt with. -/
lemma exists_handedOver {resources : List Resource} {w : World} (h : Watching c handlings w.metrics)
    (hns : ∀ r ∈ resources, r.metadata.ns.isSome) :
    ∃ taken, Watching c (taken ++ handlings) (handOver c s resources w).2.metrics ∧
      ((handOver c s resources w).1.1.length = resources.length →
        taken.map (·.resource) = resources.reverse ∧
        taken.map (·.rest) = (handOver c s resources w).1.1.reverse.map .done) := by
  induction resources generalizing handlings w with
  | nil => exact ⟨[], h, fun _ => ⟨rfl, rfl⟩⟩
  | cons r resources ih =>
    rw [List.forall_mem_cons] at hns
    obtain ⟨rest, turns, hperformed, hends⟩ := exists_performed (s := s) (h.begun r hns.1)
    unfold handOver
    rcases hresult : s.perform (handle c r) w with ⟨_ | decided, w'⟩
    · rw [hresult] at hperformed
      exact ⟨[⟨r, rest, turns⟩], hperformed, by simp⟩
    · rw [hresult] at hperformed hends
      obtain ⟨taken, hwatching, hall⟩ := ih hperformed hns.2
      refine ⟨taken ++ [⟨r, rest, turns⟩], by simpa using hwatching, fun hlength => ?_⟩
      obtain ⟨hresources, hrests⟩ := hall (Nat.succ.inj hlength)
      simp [hresources, hrests, hends decided rfl]

end Handlings

/-- The reports on handlings that are over name the actions that were decided on. -/
lemma decided_of_reported {c : Config} {handlings : List Handling} {reports : List PassReport}
    {decided : List (Decider × Action)} (h : List.Forall₂ (Reported c) handlings reports)
    (hrests : handlings.map (·.rest) = decided.map .done) :
    reports.map (fun report => (deciderAfter report.outcome, report.action)) = decided := by
  induction h generalizing decided with
  | nil => simpa using hrests
  | cons hreported _ ih =>
    obtain _ | ⟨first, decided⟩ := decided
    · cases hrests
    · obtain ⟨hfirst, hrest⟩ := List.cons.inj hrests
      have hdone : Program.done _ = Program.done first := hreported.decided.symm.trans hfirst
      rw [List.map_cons, Program.done.inj hdone, ih hrest]

/-- A watch that begins with fresh counters and decides on an action for each of its resources
leaves counters that agree with one report on each pass, the last one first, and the reports name
the actions. -/
theorem watch_accounted {c : Config} {resources : List Resource} {openFor : Option Nat}
    {w : World} (hfresh : w.metrics = {}) (hns : ∀ r ∈ resources, r.metadata.ns.isSome)
    (hall : (watch c resources openFor w).1.actions.length = resources.length) :
    ∃ handlings reports, handlings.map (·.resource) = resources.reverse ∧
      List.Forall₂ (Reported c) handlings reports ∧
      AccountFor (watch c resources openFor w).2.metrics reports ∧
      reports.map (fun report => (deciderAfter report.outcome, report.action)) =
        (watch c resources openFor w).1.actions.reverse := by
  let s : Stage := ⟨w.token, openFor.map w.endOfWait⟩
  have hmetrics : (watch c resources openFor w).2.metrics =
      (handOver c s resources w).2.metrics := by cases openFor <;> rfl
  have hactions : (watch c resources openFor w).1.actions =
      (handOver c s resources w).1.1 := by cases openFor <;> rfl
  have hstart : Watching c [] w.metrics := hfresh ▸ .start
  obtain ⟨taken, hwatching, hdealt⟩ := exists_handedOver (s := s) hstart hns
  rw [hactions] at hall ⊢
  obtain ⟨hresources, hrests⟩ := hdealt hall
  rw [List.append_nil, ← hmetrics] at hwatching
  have hover : ∀ x ∈ taken, x.IsOver := by
    intro x hx
    have hrest : x.rest ∈ taken.map (·.rest) := List.mem_map_of_mem hx
    rw [hrests, List.mem_map] at hrest
    obtain ⟨decided, -, hdone⟩ := hrest
    exact ⟨decided, hdone.symm⟩
  obtain ⟨reports, haccount, hreported⟩ := hwatching.exists_accounted hover
  have hreports : List.Forall₂ (Reported c) taken reports := (hreported reports).mpr rfl
  exact ⟨taken, reports, hresources, hreports, haccount, decided_of_reported hreports hrests⟩

end Rehearsal

end TargetRegistrar
