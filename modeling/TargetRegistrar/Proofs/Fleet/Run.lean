import TargetRegistrar.Proofs.Fleet.Invariant

/-!
# Runs

A run is told by its states, the last one first.  What holds in every reachable state is a matter of
invariants; runs are there for statements that compare two states, or say how a state has come
about.

`State.told` is a run by cues, for passes that are disturbed between two given questions.
-/

namespace TargetRegistrar.Fleet

open Store Gateway Controller

/-- The states of a run from an empty store and an empty gateway, the last one first. -/
inductive Run (step : State → State → Prop) : List State → Prop where
  | start : Run step [{}]
  | next {f f' : State} {earlier : List State} (h : Run step (f :: earlier))
      (hstep : step f f') : Run step (f' :: f :: earlier)

variable {c : Config} {permits : World → Act → Prop} {step : State → State → Prop}
  {f f' g : State} {run earlier : List State} {d : Deed}

/-- Deeds are not forgotten when a pass is answered. -/
lemma mem_deeds_answers {w w' : World} {copy : Option Resource} {q : Query} {answer : q.Answer}
    (h : w.Answers copy q answer w') (hd : d ∈ w.deeds) : d ∈ w'.deeds := by
  cases q with
  | store request =>
    obtain ⟨s, -, rfl⟩ := h
    exact List.mem_append_right _ hd
  | gateway call =>
    cases answer with
    | cancelled =>
      obtain rfl | ⟨time, rfl⟩ := h
      · exact hd
      · exact List.mem_append_right _ hd
    | finished outcome =>
      obtain ⟨time, -, rfl⟩ := h
      exact List.mem_append_right _ hd
  | _ =>
    obtain rfl : w' = w := h
    exact hd

lemma mem_deeds_step (h : Step c permits f f') (hd : d ∈ f.world.deeds) :
    d ∈ f'.world.deeds := by
  cases h with
  | acted a _ => exact mem_deeds_act a hd
  | answered _ _ ha => exact mem_deeds_answers ha hd
  | _ => exact hd

namespace Run

lemma weaken {step' : State → State → Prop} (h : Run step run)
    (hstep : ∀ f f', step f f' → step' f f') : Run step' run := by
  induction h with
  | start => exact .start
  | next _ hlast ih => exact ih.next (hstep _ _ hlast)

lemma reachable (h : Run (Step c permits) run) (hf : f ∈ run) : Reachable c permits f := by
  induction h generalizing f with
  | start =>
    obtain rfl := List.mem_singleton.mp hf
    exact .refl
  | next _ hstep ih =>
    obtain rfl | hf := List.mem_cons.mp hf
    · exact .tail (ih List.mem_cons_self) hstep
    · exact ih hf

lemma exists_cons (h : Run step run) : ∃ f earlier, run = f :: earlier := by
  cases h with
  | start => exact ⟨_, _, rfl⟩
  | next _ _ => exact ⟨_, _, rfl⟩

lemma last_step (h : Run step (g :: f :: earlier)) : Run step (f :: earlier) ∧ step f g := by
  cases h with
  | next h hstep => exact ⟨h, hstep⟩

/-- What comes before and with a state of a run is a run. -/
lemma of_append {later : List State} (h : Run step (later ++ f :: earlier)) :
    Run step (f :: earlier) := by
  induction later with
  | nil => exact h
  | cons g later ih =>
    apply ih
    cases later with
    | nil => exact h.last_step.1
    | cons f₁ later => exact h.last_step.1

/-- The state before the last one, where the run has come to that from another state. -/
lemma exists_step {later : List State} (h : Run step (g :: (later ++ f :: earlier))) :
    ∃ f₁ rest, later ++ f :: earlier = f₁ :: rest ∧ f₁ ∈ later ++ [f] ∧
      Run step (f₁ :: rest) ∧ step f₁ g := by
  cases later with
  | nil => exact ⟨f, earlier, rfl, List.mem_cons_self, h.last_step⟩
  | cons f₁ later => exact ⟨f₁, _, rfl, List.mem_cons_self, h.last_step⟩

/-- What has happened by the time of one state has happened by the end of the run. -/
lemma mem_deeds (h : Run (Step c permits) (f :: earlier)) (hg : g ∈ f :: earlier)
    (hd : d ∈ g.world.deeds) : d ∈ f.world.deeds := by
  generalize hrun : f :: earlier = run at h hg
  induction h generalizing f earlier with
  | start =>
    cases hrun
    obtain rfl := List.mem_singleton.mp hg
    exact hd
  | next _ hstep ih =>
    cases hrun
    obtain rfl | hg := List.mem_cons.mp hg
    · exact hd
    · exact mem_deeds_step hstep (ih rfl hg)

/-- A run goes on with the steps that lead from its last state to another one. -/
lemma leads (h : Run step (f :: earlier)) (hsteps : Relation.ReflTransGen step f g) :
    ∃ later, Run step (g :: later) ∧ f :: earlier <:+ g :: later := by
  induction hsteps with
  | refl => exact ⟨earlier, h, List.suffix_refl _⟩
  | tail _ hstep ih =>
    obtain ⟨later, hrun, hsuffix⟩ := ih
    exact ⟨_, hrun.next hstep, hsuffix.trans (List.suffix_cons _ _)⟩

end Run

/-- A state that can be reached is the last one of a run. -/
lemma Reachable.exists_run (h : Reachable c permits f) :
    ∃ earlier, Run (Step c permits) (f :: earlier) := by
  obtain ⟨later, hrun, -⟩ := Run.start.leads h
  exact ⟨later, hrun⟩

/-! ## Runs by cues -/

/-- What can be told to happen next. -/
inductive Cue where
  /-- A pass begins. -/
  | begin (place : Location)
  /-- The pass at a place is answered, and nothing disturbs it. -/
  | answer (place : Location)
  /-- The store refuses what the pass at a place asks of it. -/
  | refuse (place : Location) (e : Store.Error)
  /-- A pass has ended, or is given up. -/
  | finish (place : Location)

/-- A pass that nothing disturbs, as far as its first twenty questions. -/
def wholePass (place : Location) : List Cue :=
  .begin place :: List.replicate 20 (.answer place)

namespace State

/-- The state with the answer to a question of the pass at a place. -/
def answered (f : State) (place : Location) (q : Query)
    (next : q.Answer → Pass Controller.Error Directive) (copy : Option Resource) : State :=
  { f.setPass place (some ⟨next (f.world.answer copy q).1, handed q (f.world.answer copy q).1 copy⟩)
    with world := (f.world.answer copy q).2 }

/-- The state with the refusal of a request of the pass at a place. -/
def refused (f : State) (place : Location) (request : Store.Request)
    (next : request.Outcome → Pass Controller.Error Directive) (copy : Option Resource)
    (e : Store.Error) : State :=
  { f.setPass place (some ⟨next (.error e), copy⟩) with
    world := f.world.afterRequest f.world.store request (.error e) }

/-- The state after a cue, if that finds what it is for. -/
def follow? (c : Config) (f : State) : Cue → Option State
  | .begin place =>
    if (f.passes place).isSome then none
    else some (f.setPass place (some ⟨reconcile c place.1 place.2, none⟩))
  | .answer place =>
    (f.passes place).bind fun pass =>
      match pass.rest.run with
      | .ask q next => some (f.answered place q next pass.copy)
      | .done _ => none
  | .refuse place e =>
    (f.passes place).bind fun pass =>
      match pass.rest.run with
      | .ask (.store request) next => some (f.refused place request next pass.copy e)
      | _ => none
  | .finish place => some (f.setPass place none)

/-- The outcome of the pass at a place, if it has ended. -/
def outcome? (f : State) (place : Location) : Option (Except Controller.Error Directive) :=
  (f.passes place).bind fun pass =>
    match pass.rest.run with
    | .done outcome => some outcome
    | .ask _ _ => none

/-- The states that follow on some cues, added to a run; a cue that finds nothing is passed by. -/
def told (c : Config) : List Cue → List State → List State
  | [], run => run
  | _ :: _, [] => []
  | cue :: cues, f :: earlier =>
    match f.follow? c cue with
    | some f' => told c cues (f' :: f :: earlier)
    | none => told c cues (f :: earlier)

/-- A run with one more state, in which somebody has acted. -/
def acted (a : Act) : List State → List State
  | [] => []
  | f :: earlier => { f with world := f.world.act a } :: f :: earlier

lemma exists_of_outcome? {place : Location} {outcome : Except Controller.Error Directive}
    (h : f.outcome? place = some outcome) :
    ∃ copy, f.passes place = some ⟨Program.done outcome, copy⟩ := by
  obtain ⟨⟨rest, copy⟩, hpass, hrest⟩ := Option.bind_eq_some_iff.mp h
  cases rest with
  | done a =>
    obtain rfl := Option.some.inj hrest
    exact ⟨copy, hpass⟩
  | ask q next => cases hrest

lemma step_of_refused {place : Location} {request : Store.Request}
    {next : request.Outcome → Pass Controller.Error Directive} {copy : Option Resource}
    (e : Store.Error)
    (hpass : f.passes place = some ⟨Program.ask (.store request) next, copy⟩) :
    Step c permits f (f.refused place request next copy e) := by
  have ha : f.world.Answers copy (.store request) (.error e) _ := ⟨_, .inr ⟨e, rfl, rfl⟩, rfl⟩
  have hstep : Step c permits f _ := .answered (Except.error e : request.Outcome) hpass ha
  have hcopy : handed (.store request) (.error e) copy = copy := by cases request <;> rfl
  rw [hcopy] at hstep
  exact hstep

/-- What follows on a cue is a step. -/
lemma step_of_follow? {cue : Cue} (h : f.follow? c cue = some f') : Step c permits f f' := by
  cases cue with
  | begin place =>
    by_cases hpass : (f.passes place).isSome
    · simp [follow?, hpass] at h
    · obtain rfl := by simpa [follow?, hpass] using h
      exact .begun place (by simpa using hpass)
  | answer place =>
    obtain ⟨⟨rest, copy⟩, hpass, hnext⟩ := Option.bind_eq_some_iff.mp h
    cases rest with
    | done a => cases hnext
    | ask q next =>
      obtain rfl := Option.some.inj hnext
      exact .answered _ hpass (f.world.answers_answer copy q)
  | refuse place e =>
    obtain ⟨⟨rest, copy⟩, hpass, hnext⟩ := Option.bind_eq_some_iff.mp h
    cases rest with
    | done a => cases hnext
    | ask q next =>
      cases q with
      | store request =>
        obtain rfl := Option.some.inj hnext
        exact step_of_refused e hpass
      | _ => cases hnext
  | finish place =>
    obtain rfl := Option.some.inj h
    exact .ended place

end State

namespace Run

lemma told (cues : List Cue) (h : Run (Step c permits) run) :
    Run (Step c permits) (State.told c cues run) := by
  induction cues generalizing run with
  | nil => exact h
  | cons cue cues ih =>
    obtain ⟨f, earlier, rfl⟩ := h.exists_cons
    unfold State.told
    split
    · rename_i f' hf'
      exact ih (h.next (State.step_of_follow? hf'))
    · exact ih h

lemma acted {a : Act} (h : Run (Step c permits) run)
    (ha : ∀ f ∈ run.head?, permits f.world a) : Run (Step c permits) (State.acted a run) := by
  obtain ⟨f, earlier, rfl⟩ := h.exists_cons
  exact h.next (.acted a (ha f rfl))

end Run

end TargetRegistrar.Fleet
