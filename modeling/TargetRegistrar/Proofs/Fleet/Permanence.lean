import TargetRegistrar.Proofs.Fleet.Records
import TargetRegistrar.Proofs.Fleet.Run

/-!
# Recorded targets are genuine and permanent

A target that is recorded has been returned by a create for the very resource that records it, and
nothing replaces it for as long as that resource stays in the store.  Identities play no part in
this: a resource is the same one as long as its place has not been empty.  Nothing is assumed of the
gateway either, whose targets and tokens may change at any time (`AnyGatewayStep`).

`Stays` says that a copy is one of the resource that is still stored, `Obtains` is the step in which
a pass learns of a target for its copy, and `Earned` puts the two together.  The invariant speaks of
the whole run (`Chronicled`): what is recorded has been earned, and so has what a pass is about to
record, for a copy that records nothing yet.  Since the stored status is still that of the copy, the
write replaces nothing (`Chronicled.turn`).
-/

namespace TargetRegistrar.Fleet

open Store Gateway Controller Registration

/-! ## Steps -/

/-- A step in which users keep to what is theirs in the store; to the gateway anything can
happen. -/
inductive AnyGatewayStep (c : Config) : State → State → Prop where
  | step {f f' : State} (h : Step c (Respectful fun _ => True) f f') : AnyGatewayStep c f f'
  /-- The gateway has other targets and tokens, and other errors are to come. -/
  | seeded {f : State} (g : Gateway.InMemory) :
      AnyGatewayStep c f { f with world := { f.world with gateway := g } }

/-! ## How a target is earned -/

/-- A copy of the resource in a place: it was stored there in some state, and the place has not been
empty since. -/
inductive Stays (place : Location) (r : Resource) : List State → Prop where
  | stored {f : State} {earlier : List State} (h : f.world.store.objects.get? place = some r) :
      Stays place r (f :: earlier)
  | kept {f : State} {earlier : List State} {s : Resource} (h : Stays place r earlier)
      (hs : f.world.store.objects.get? place = some s) : Stays place r (f :: earlier)

/-- A step in which the pass at a place is told that the create for its copy has returned a
target. -/
inductive Obtains (place : Location) (r : Resource) (t : String) : State → State → Prop where
  | returned {f : State} {v : Validated} {request : CreateRequest} {reply : CreatedTarget}
      {next : (Query.gateway (.create request)).Answer → Pass Controller.Error Directive}
      (time : Nat)
      (hpass : f.passes place = some ⟨Program.ask (.gateway (.create request)) next, some r⟩)
      (hrequest : Phase.Requests r v request)
      (hreply : (f.world.gateway.serve time (.create request)).1 = .ok reply)
      (ht : reply.targetId = t) :
      Obtains place r t f
        { f.setPass place (some ⟨next (.finished (.ok reply)), some r⟩) with
          world := f.world.afterCall (some r) time (.create request) }

/-- A create has returned a target for the resource in a place, and the place has not been empty
since. -/
inductive Earned (place : Location) (t : String) : List State → Prop where
  | obtained {f f' : State} {earlier : List State} {r : Resource}
      (hstays : Stays place r (f :: earlier)) (h : Obtains place r t f f') :
      Earned place t (f' :: f :: earlier)
  | kept {f : State} {earlier : List State} {s : Resource} (h : Earned place t earlier)
      (hs : f.world.store.objects.get? place = some s) : Earned place t (f :: earlier)

/-- The name under which the gateway of the recorded target is recorded. -/
def recordedArn? (s : Resource) : Option String :=
  s.status.bind Status.gatewayArn

/-- What one step does to what a resource records: nothing, or it recorded no target before and the
one that it records now has been earned. -/
inductive RecordTurn (place : Location) (run : List State) (s s' : Resource) : Prop where
  | kept (target : s'.recordedTarget? = s.recordedTarget?) (arn : recordedArn? s' = recordedArn? s)
  | recorded (hnone : s.recordedTarget? = none)
      (hearned : ∀ t, s'.recordedTarget? = some t → Earned place t run)

/-! ## Passes in a run -/

/-- What is known of a pass in the last state of a run. -/
structure Entitled (place : Location) (ph : Phase) (copy : Option Resource) (f : State)
    (earlier : List State) : Prop where
  copy : ∀ r v, ph = .guarded r v → copy = some r
  tended : Tended (fun _ => True) place ph f.world
  stays : ∀ r, ph.ward? = some r → Stays place r (f :: earlier)
  pending : ∀ r generation target, ph.pending? = some (r, .created generation target) →
    r.recordedTarget? = none ∧ Earned place target.targetId (f :: earlier)

/-- What is recorded in the last state of a run has been earned, and its passes are entitled to what
they are about to record. -/
structure Chronicled (c : Config) (f : State) (earlier : List State) : Prop where
  orderly : f.world.store.Orderly
  genuine : ∀ {place s t}, f.world.store.objects.get? place = some s →
    s.recordedTarget? = some t → Earned place t (f :: earlier)
  entitled : ∀ {place pass}, f.passes place = some pass →
    ∃ ph, pass.rest.Keeps c place.1 place.2 ph ∧ Entitled place ph pass.copy f earlier

variable {c : Config} {f f' : State} {earlier : List State} {place : Location} {ph ph' : Phase}
  {copy copy' : Option Resource} {w' : World}

/-- The copy of a pass that is about to record a new target is looked after. -/
lemma ward_of_pending {r : Resource} {generation : Option Int} {target : CreatedTarget}
    (h : ph.pending? = some (r, .created generation target)) : ph.ward? = some r := by
  cases ph with
  | changing r' change =>
    cases h
    rfl
  | writing r' change latest =>
    cases h
    rfl
  | _ => cases h

lemma entitled_opening : Entitled place .opening none f earlier where
  copy _ _ h := nomatch h
  tended := ⟨(fun _ h => nomatch h), (fun _ h => nomatch h), fun _ h => nomatch h⟩
  stays _ h := nomatch h
  pending _ _ _ h := nomatch h

/-- A pass that is not answered stays entitled, if the step takes nothing out of its custody. -/
lemma Entitled.kept (h : Entitled place ph copy f earlier)
    (htended : Tended (fun _ => True) place ph f'.world) :
    Entitled place ph copy f' (f :: earlier) where
  copy := h.copy
  tended := htended
  stays r hr := by
    obtain ⟨s, hs, -⟩ := htended.ward r hr
    exact .kept (h.stays r hr) hs
  pending r generation target hpending := by
    obtain ⟨hnone, hearned⟩ := h.pending r generation target hpending
    obtain ⟨s, hs, -⟩ := htended.ward r (ward_of_pending hpending)
    exact ⟨hnone, .kept hearned hs⟩

/-- A pass that begins looks after the copy that it has read, if any. -/
lemma ward_of_begins {r r' : Resource} (h : ph.Begins c r) (hward : ph.ward? = some r') :
    r' = r := by
  cases h with
  | released _ _ _ =>
    cases hward
    rfl
  | deleting _ _ _ _ =>
    cases hward
    rfl
  | guarded _ _ _ =>
    cases hward
    rfl
  | _ => cases hward

/-- A copy that is looked after was looked after before, or it is what is stored now. -/
lemma ward_stride {r : Resource} (h : Tended (fun _ => True) place ph f.world)
    (hs : Stride c place f.world ph copy w' ph' copy') (hward : ph'.ward? = some r) :
    ph.ward? = some r ∨ w'.store.objects.get? place = some r := by
  cases hs with
  | quiet => exact .inl hward
  | read hstored hbegins =>
    obtain rfl := ward_of_begins hbegins hward
    exact .inr hstored
  | refused _ hph =>
    obtain rfl | ⟨_, _, _, rfl, rfl⟩ := hph
    · cases hward
    · exact .inl hward
  | attached hwritten =>
    obtain ⟨-, rfl⟩ := h.basis _ rfl
    cases hward
    exact .inr (hwritten.get?_self (by simp))
  | tried _ _ => exact .inl hward
  | succeeded _ hcalls _ =>
    cases hcalls with
    | _ =>
      cases hward
      exact .inl rfl
  | fetched hfetches _ =>
    cases hfetches with
    | changing _ => exact .inl hward
    | _ => cases hward
  | _ => cases hward

section Answered

variable {q : Query} {next : q.Answer → Pass Controller.Error Directive} {answer : q.Answer}

/-- A pass that is about to record a new target was about to do so before, or it has obtained that
target in this step. -/
lemma obtains_of_moves {r : Resource} {generation : Option Int} {target : CreatedTarget}
    (hpass : f.passes place = some ⟨Program.ask q next, copy⟩)
    (hcopy : ∀ r v, ph = .guarded r v → copy = some r)
    (hm : Moves c place.1 place.2 ph q answer ph') (ha : f.world.Answers copy q answer w')
    (hpending : ph'.pending? = some (r, .created generation target)) :
    ph.pending? = some (r, .created generation target) ∨
      ph.ward? = some r ∧ r.recordedTarget? = none ∧ Obtains place r target.targetId f
        { f.setPass place (some ⟨next answer, handed q answer copy⟩) with world := w' } := by
  cases hm with
  | idle _ _ => exact .inl hpending
  | read hbegins => cases hbegins <;> cases hpending
  | called hcalls hreply =>
    cases hcalls with
    | create hrec hreq =>
      obtain ⟨time, houtcome, rfl⟩ := ha
      obtain rfl := hcopy _ _ rfl
      cases hpending
      cases hreply
      exact .inr ⟨rfl, hrec, .returned time hpass hreq houtcome.symm rfl⟩
    | _ => cases hpending
  | failed _ _ => exact .inl hpending
  | fetch hfetches _ _ =>
    cases hfetches with
    | changing _ => exact .inl hpending
    | _ => cases hpending
  | writeRefused => exact .inl hpending
  | _ => cases hpending

/-- A pass that is answered stays entitled. -/
lemma Entitled.answered (h : Entitled place ph copy f earlier) (hf : f.world.store.Orderly)
    (hpass : f.passes place = some ⟨Program.ask q next, copy⟩)
    (hm : Moves c place.1 place.2 ph q answer ph') (ha : f.world.Answers copy q answer w') :
    Entitled place ph' (handed q answer copy)
      { f.setPass place (some ⟨next answer, handed q answer copy⟩) with world := w' }
      (f :: earlier) := by
  have hs := stride_of_moves hm ha
  have htended : Tended (fun _ => True) place ph' w' := h.tended.stride hf hs
  refine ⟨copy_stride h.copy hs, htended, fun r hr => ?_, fun r generation target hpending => ?_⟩
  · obtain hward | hstored := ward_stride h.tended hs hr
    · obtain ⟨s, hs', -⟩ := htended.ward r hr
      exact .kept (h.stays r hward) hs'
    · exact .stored hstored
  · obtain hbefore | ⟨hward, hnone, hobtains⟩ := obtains_of_moves hpass h.copy hm ha hpending
    · obtain ⟨hnone, hearned⟩ := h.pending r generation target hbefore
      obtain ⟨s, hs', -⟩ := htended.ward r (ward_of_pending hpending)
      exact ⟨hnone, .kept hearned hs'⟩
    · exact ⟨hnone, .obtained (h.stays r hward) hobtains⟩

end Answered

/-! ## One step -/

/-- Only a create records another gateway. -/
lemma gatewayArn_applyTo {change : StatusChange} (now : Timestamp) (s : Resource)
    (h : ∀ generation target, change ≠ .created generation target) :
    (change.applyTo now s).gatewayArn = recordedArn? s := by
  obtain ⟨_, _, status⟩ := s
  cases change with
  | created generation target => exact absurd rfl (h generation target)
  | observed generation state => cases status <;> rfl
  | condition condition => cases status <;> rfl

lemma RecordTurn.of_status {run : List State} {s s' : Resource} (h : s'.status = s.status) :
    RecordTurn place run s s' := by
  have harn : recordedArn? s' = recordedArn? s := by rw [recordedArn?, recordedArn?, h]
  exact .kept (recordedTarget?_congr h) harn

/-- What an entitled pass writes replaces no target by another one. -/
lemma Entitled.recordTurn {r s s' : Resource} {change : StatusChange} {now : Timestamp}
    (h : Entitled place (.writing r change s) copy f earlier)
    (hs : f.world.store.objects.get? place = some s)
    (hstatus : s'.status = some (change.applyTo now s)) :
    RecordTurn place (f :: earlier) s s' := by
  have htarget := recordedTarget?_written hstatus
  have harn : recordedArn? s' = (change.applyTo now s).gatewayArn := by
    rw [recordedArn?, hstatus]
    rfl
  cases change with
  | created generation target =>
    obtain ⟨hnone, hearned⟩ := h.pending r generation target rfl
    -- the stored status is still that of the copy, which records no target
    have hsame : s.recordedTarget? = none :=
      (recordedTarget?_congr (h.tended.matches rfl hs).status).trans hnone
    refine .recorded hsame fun t ht => ?_
    rw [htarget] at ht
    obtain rfl : target.targetId = t := by simpa using (Option.filter_eq_some_iff.mp ht).1
    exact hearned
  | observed generation state =>
    exact .kept htarget (harn.trans (gatewayArn_applyTo now s (by simp)))
  | condition condition =>
    exact .kept htarget (harn.trans (gatewayArn_applyTo now s (by simp)))

/-- What is stored after a step was inserted by it without a target, or what it records has
turned. -/
lemma Chronicled.turn {s' : Resource} (h : Chronicled c f earlier)
    (hstep : AnyGatewayStep c f f')
    (hs' : f'.world.store.objects.get? place = some s') :
    (f.world.store.objects.get? place = none ∧ s'.recordedTarget? = none) ∨
      ∃ s, f.world.store.objects.get? place = some s ∧ RecordTurn place (f :: earlier) s s' := by
  cases hstep with
  | seeded g => exact .inr ⟨s', hs', .of_status rfl⟩
  | step hstep =>
    cases hstep with
    | acted a ha =>
      obtain ⟨r, rfl, rfl, rfl⟩ | ⟨s, hs, hturn⟩ := stored_act ha hs'
      · have hblank : (f.world.store.stamped r).status = none := ha.2
        exact .inl ⟨ha.1, by rw [Resource.recordedTarget?, hblank, Option.bind_none]⟩
      · exact .inr ⟨s, hs, .of_status hturn.status⟩
    | begun _ _ => exact .inr ⟨s', hs', .of_status rfl⟩
    | ended _ => exact .inr ⟨s', hs', .of_status rfl⟩
    | answered answer hpass ha =>
      obtain ⟨ph, hkeeps, hentitled⟩ := h.entitled hpass
      obtain ⟨ph', hmoves, -⟩ := hkeeps answer
      obtain ⟨s, hs, -, hstatus | ⟨r, change, now, rfl, rfl, hstatus⟩⟩ :=
        stride_turn hentitled.tended.grounded (stride_of_moves hmoves ha) hs'
      · exact .inr ⟨s, hs, .of_status hstatus⟩
      · exact .inr ⟨s, hs, hentitled.recordTurn hs hstatus⟩

lemma Chronicled.genuine_step {s' : Resource} {t : String} (h : Chronicled c f earlier)
    (hstep : AnyGatewayStep c f f')
    (hs' : f'.world.store.objects.get? place = some s') (ht : s'.recordedTarget? = some t) :
    Earned place t (f' :: f :: earlier) := by
  obtain ⟨-, hnone⟩ | ⟨s, hs, ⟨htarget, -⟩ | ⟨-, hearned⟩⟩ := h.turn hstep hs'
  · cases hnone.symm.trans ht
  · exact .kept (h.genuine hs (htarget.symm.trans ht)) hs'
  · exact .kept (hearned t ht) hs'

lemma Chronicled.orderly_step (h : Chronicled c f earlier)
    (hstep : AnyGatewayStep c f f') : f'.world.store.Orderly := by
  cases hstep with
  | seeded g => exact h.orderly
  | step hstep =>
    cases hstep with
    | acted a _ => exact h.orderly.touch (act_touch h.orderly a)
    | answered answer hpass ha =>
      obtain ⟨ph, hkeeps, hentitled⟩ := h.entitled hpass
      obtain ⟨ph', hmoves, -⟩ := hkeeps answer
      have hs := stride_of_moves hmoves ha
      exact h.orderly.touch (stride_store h.orderly hentitled.tended.grounded hs).1
    | _ => exact h.orderly

lemma Chronicled.entitled_step {pass : Underway} (h : Chronicled c f earlier)
    (hstep : AnyGatewayStep c f f') (hpass' : f'.passes place = some pass) :
    ∃ ph, pass.rest.Keeps c place.1 place.2 ph ∧
      Entitled place ph pass.copy f' (f :: earlier) := by
  have hother : ∀ {p place' : Location} {pass' : Option Underway}, place' ≠ p →
      (f.setPass p pass').passes place' = f.passes place' :=
    fun hne => Function.update_of_ne hne _ _
  cases hstep with
  | seeded g =>
    obtain ⟨ph, hkeeps, hentitled⟩ := h.entitled hpass'
    obtain ⟨hsubject, hbasis, hward⟩ := hentitled.tended
    exact ⟨ph, hkeeps, hentitled.kept ⟨hsubject, hbasis, hward⟩⟩
  | step hstep =>
    cases hstep with
    | acted a ha =>
      obtain ⟨ph, hkeeps, hentitled⟩ := h.entitled hpass'
      exact ⟨ph, hkeeps, hentitled.kept (hentitled.tended.act h.orderly ha)⟩
    | begun p _ =>
      obtain rfl | hne := eq_or_ne place p
      · obtain rfl : pass = ⟨reconcile c place.1 place.2, none⟩ := by
          simpa [State.setPass, eq_comm] using hpass'
        exact ⟨.opening, reconcile_follows c place.1 place.2, entitled_opening⟩
      · obtain ⟨ph, hkeeps, hentitled⟩ := h.entitled ((hother hne).symm.trans hpass')
        exact ⟨ph, hkeeps, hentitled.kept hentitled.tended⟩
    | ended p =>
      obtain rfl | hne := eq_or_ne place p
      · simp [State.setPass] at hpass'
      · obtain ⟨ph, hkeeps, hentitled⟩ := h.entitled ((hother hne).symm.trans hpass')
        exact ⟨ph, hkeeps, hentitled.kept hentitled.tended⟩
    | @answered p q next copy answer w hpass ha =>
      obtain ⟨ph, hkeeps, hentitled⟩ := h.entitled hpass
      obtain ⟨ph', hmoves, hnext⟩ := hkeeps answer
      obtain rfl | hne := eq_or_ne place p
      · obtain rfl : pass = ⟨next answer, handed q answer copy⟩ := by
          simpa [State.setPass, eq_comm] using hpass'
        exact ⟨ph', hnext, hentitled.answered h.orderly hpass hmoves ha⟩
      · obtain ⟨ph₂, hkeeps₂, hentitled₂⟩ := h.entitled ((hother hne).symm.trans hpass')
        have hs := stride_of_moves hmoves ha
        exact ⟨ph₂, hkeeps₂,
          hentitled₂.kept (hentitled₂.tended.other h.orderly hentitled.tended hne hs)⟩

/-! ## Whole runs -/

lemma chronicled_start : Chronicled c {} [] :=
  ⟨.empty, (fun hs _ => nomatch hs), fun hpass => nomatch hpass⟩

lemma Run.chronicled (h : Run (AnyGatewayStep c) (f :: earlier)) :
    Chronicled c f earlier := by
  generalize hrun : f :: earlier = run at h
  induction h generalizing f earlier with
  | start =>
    cases hrun
    exact chronicled_start
  | next _ hstep ih =>
    cases hrun
    have hbefore := ih rfl
    exact ⟨hbefore.orderly_step hstep, fun hs ht => hbefore.genuine_step hstep hs ht,
      fun hpass => hbefore.entitled_step hstep hpass⟩

/-- What a stored resource records is the same after a step in which the resource stays. -/
lemma Chronicled.record_step {s s' : Resource} {t : String} (h : Chronicled c f earlier)
    (hstep : AnyGatewayStep c f f')
    (hs : f.world.store.objects.get? place = some s) (ht : s.recordedTarget? = some t)
    (hs' : f'.world.store.objects.get? place = some s') :
    s'.recordedTarget? = some t ∧ recordedArn? s' = recordedArn? s := by
  obtain ⟨hfree, -⟩ | ⟨s₀, hs₀, hturn⟩ := h.turn hstep hs'
  · cases hfree.symm.trans hs
  · obtain rfl : s₀ = s := Option.some.inj (hs₀.symm.trans hs)
    cases hturn with
    | kept htarget harn => exact ⟨htarget.trans ht, harn⟩
    | recorded hnone _ => cases hnone.symm.trans ht

/-- In every state of a run, whatever happens at the gateway, a recorded target has been returned by
a create for the resource that records it.  From then on, in all states up to the one in which the
resource leaves the store, it records that target and the gateway that was recorded with it. -/
theorem recorded_target_permanent {later : List State} {s : Resource} {t : String}
    (hrun : Run (AnyGatewayStep c) (later ++ f :: earlier))
    (hs : f.world.store.objects.get? place = some s) (ht : s.recordedTarget? = some t)
    (hstays : ∀ g ∈ later, g.world.store.objects.get? place ≠ none) :
    Earned place t (f :: earlier) ∧
      ∀ g ∈ later, ∃ s', g.world.store.objects.get? place = some s' ∧
        s'.recordedTarget? = some t ∧ recordedArn? s' = recordedArn? s := by
  have hf : Run (AnyGatewayStep c) (f :: earlier) := hrun.of_append
  refine ⟨hf.chronicled.genuine hs ht, ?_⟩
  induction later with
  | nil => exact fun _ hg => nomatch hg
  | cons g later ih =>
    obtain ⟨f₁, rest, hrest, hmem, hbefore, hstep⟩ := hrun.exists_step
    have hlater := ih (hrest ▸ hbefore) fun g' hg' => hstays g' (List.mem_cons_of_mem _ hg')
    -- the last state before `g` records what `f` does
    have hsame : ∃ s₁, f₁.world.store.objects.get? place = some s₁ ∧
        s₁.recordedTarget? = some t ∧ recordedArn? s₁ = recordedArn? s := by
      obtain hmem | hmem := List.mem_append.mp hmem
      · exact hlater f₁ hmem
      · obtain rfl := List.mem_singleton.mp hmem
        exact ⟨s, hs, ht, rfl⟩
    obtain ⟨s₁, hs₁, ht₁, harn₁⟩ := hsame
    intro g' hg'
    obtain rfl | hg' := List.mem_cons.mp hg'
    · obtain ⟨s', hs'⟩ := Option.ne_none_iff_exists'.mp (hstays _ List.mem_cons_self)
      obtain ⟨htarget, harn⟩ := hbefore.chronicled.record_step hstep hs₁ ht₁ hs'
      exact ⟨s', hs', htarget, harn.trans harn₁⟩
    · exact hlater g' hg'

/-- A registered resource still records its target after an edit that moves it to another
gateway. -/
theorem recorded_target_permanent_after_edit :
    ∃ f g earlier s, Run (AnyGatewayStep exampleConfig) (g :: f :: earlier) ∧
      f.world.store.objects.get? ("tools", "files") = some s ∧
      s.recordedTarget? = some "target-1" ∧ recordedArn? s = some (gatewayArn "gw") ∧
      Earned ("tools", "files") "target-1" (f :: earlier) ∧
      ∃ s', g.world.store.objects.get? ("tools", "files") = some s' ∧
        s'.spec.gatewayId = some "other" ∧ s'.recordedTarget? = some "target-1" ∧
        recordedArn? s' = some (gatewayArn "gw") := by
  let edit : Edit := .updateSpec "tools" "files" fun spec => { spec with gatewayId := some "other" }
  obtain ⟨w, hreachable, ⟨s, hs, ht, harn⟩, s', hs', hspec⟩ : ∃ w : World,
      Reachable exampleConfig (Respectful fun _ => True) { world := w } ∧
      (∃ s ∈ w.store.objects.get? ("tools", "files"), s.recordedTarget? = some "target-1" ∧
        recordedArn? s = some (gatewayArn "gw")) ∧
      ∃ s' ∈ (w.act (.edit edit)).store.objects.get? ("tools", "files"),
        s'.spec.gatewayId = some "other" :=
    ⟨_, Reachable.start.after registered ⟨⟨rfl, rfl⟩, trivial⟩, by decide +kernel⟩
  obtain ⟨earlier, hrun⟩ := hreachable.exists_run
  have hrun' : Run (AnyGatewayStep exampleConfig)
      ([{ world := w.act (.edit edit) }] ++ { world := w } :: earlier) :=
    (hrun.weaken fun _ _ => .step).next (.step (.acted (.edit edit) trivial))
  have hstored : (w.act (.edit edit)).store.objects.get? ("tools", "files") ≠ none :=
    Option.ne_none_iff_exists'.mpr ⟨s', hs'⟩
  obtain ⟨hearned, hkept⟩ := recorded_target_permanent hrun' hs ht (by simpa using hstored)
  obtain ⟨s₂, hs₂, ht₂, harn₂⟩ := hkept _ List.mem_cons_self
  obtain rfl : s₂ = s' := Option.some.inj (hs₂.symm.trans hs')
  exact ⟨_, _, earlier, s, hrun', hs, ht, harn, hearned, s₂, hs', hspec, ht₂, harn₂.trans harn⟩

end TargetRegistrar.Fleet
