import TargetRegistrar.Proofs.Fleet.Readiness

/-!
# Announced readiness

What `Readiness` says of one answer holds along every run: stored resources are honest, and each
pass knows of its own what its leg says (`Run.truthful`).  Two statements follow.

Where the condition on readiness holds and names the generation that the status does, the target was
last seen operational (`announced_confirmed`).  While a later generation is being applied the
announcement stays, and then it does not say that the target is operational now.

A pass that reports to be done leaves an announcement behind (`done_announced`).  If it has found
the resource settled, that may be one for an earlier generation: a pass that has recorded the state
of the target, but failed to announce it, does not come back to that as long as an older
announcement stands.
-/

namespace TargetRegistrar.Fleet

open Store Gateway Controller

/-! ## The copy that a pass has read -/

/-- The copy that the pass at a place has read by the last state of a run: the first resource that
the store has handed to it. -/
def firstCopy? (place : Location) : List State → Option Resource
  | [] => none
  | f :: earlier => (f.passes place).bind fun pass => (firstCopy? place earlier).or pass.copy

/-- The copy that a pass works on in a leg. -/
def copyOf? : Leg → Option Resource
  | .unguarded r => some r
  | .guarded r => some r
  | .settled r => some r
  | .deleting r _ _ => some r
  | .released r => some r
  | .resigned r => some r
  | .failing r => some r
  | .updating r _ _ => some r
  | _ => none

/-- The legs in which a resource leaves the store. -/
def isDeparting : Leg → Bool
  | .deleting _ _ _ => true
  | .released _ => true
  | .resigned _ => true
  | _ => false

/-- How the copy that a pass works on comes from the one that it has read first. -/
inductive Reads : Leg → Option Resource → Prop where
  | waking : Reads .waking none
  | opening : Reads .opening none
  | absent : Reads .absent none
  | copied {leg : Leg} {r r₀ : Resource} (hcopy : copyOf? leg = some r)
      (hgen : r.metadata.generation = r₀.metadata.generation) (hstatus : r.status = r₀.status)
      (hdel : isDeparting leg → r₀.isBeingDeleted) : Reads leg (some r₀)
  | stopped {e : Store.Error} {first : Option Resource} : Reads (.stopped e) first
  | cancelled {first : Option Resource} : Reads .cancelled first

section Reading

variable {f f' : State} {earlier : List State} {place : Location} {pass : Underway}
  {copy first : Option Resource} {q : Query} {answer : q.Answer} {ns name : String}
  {leg leg' : Leg} {s s' : Store.InMemory} {r r' : Resource}

lemma firstCopy?_of_pass (hpass : f.passes place = some pass) :
    firstCopy? place (f :: earlier) = (firstCopy? place earlier).or pass.copy := by
  rw [firstCopy?, hpass, Option.bind_some]

/-- A pass that is not answered has read what it had. -/
lemma firstCopy?_kept (hsame : f'.passes place = f.passes place) :
    firstCopy? place (f' :: f :: earlier) = firstCopy? place (f :: earlier) := by
  cases hpass : f.passes place with
  | none => rw [firstCopy?, firstCopy?, hsame, hpass, Option.bind_none, Option.bind_none]
  | some pass =>
    rw [firstCopy?_of_pass (hsame.trans hpass), firstCopy?_of_pass hpass, Option.or_assoc,
      Option.or_self]

lemma handed_or (answer : q.Answer) (copy : Option Resource) :
    handed q answer copy = (handed q answer none).or copy := by
  cases q with
  | store request =>
    cases request with
    | get ns name =>
      rcases answer with e | _ | r <;> rfl
    | replaceFinalizers r finalizers => cases answer <;> rfl
    | replaceStatus r status => cases answer <;> rfl
  | _ => rfl

/-- A pass that is answered has read what it had, or else what it is handed now. -/
lemma firstCopy?_answered {p p' : Pass Controller.Error Directive}
    (hpass : f.passes place = some ⟨p, copy⟩)
    (hpass' : f'.passes place = some ⟨p', handed q answer copy⟩) :
    firstCopy? place (f' :: f :: earlier) =
      (firstCopy? place (f :: earlier)).or (handed q answer none) := by
  rw [firstCopy?_of_pass hpass', firstCopy?_of_pass hpass, handed_or]
  cases firstCopy? place earlier with
  | some r => rfl
  | none => cases copy <;> simp

lemma Reads.exists_first (h : Reads leg first) (hcopy : copyOf? leg = some r) :
    ∃ r₀, first = some r₀ ∧ r.metadata.generation = r₀.metadata.generation ∧
      r.status = r₀.status ∧ (isDeparting leg → r₀.isBeingDeleted) := by
  cases h with
  | copied hcopy' hgen hstatus hdel =>
    obtain rfl := Option.some.inj (hcopy.symm.trans hcopy')
    exact ⟨_, rfl, hgen, hstatus, hdel⟩
  | _ => cases hcopy

/-- A pass goes on with its copy, or with another version of it that has the same status. -/
lemma Reads.goes (h : Reads leg first) (hcopy : copyOf? leg = some r)
    (hcopy' : copyOf? leg' = some r') (hgen : r'.metadata.generation = r.metadata.generation)
    (hstatus : r'.status = r.status) (hdel : isDeparting leg' → isDeparting leg)
    (next : Option Resource) : Reads leg' (first.or next) := by
  obtain ⟨r₀, rfl, hgen₀, hstatus₀, hdel₀⟩ := h.exists_first hcopy
  exact .copied hcopy' (hgen.trans hgen₀) (hstatus.trans hstatus₀) fun h => hdel₀ (hdel h)

lemma Reads.worked (h : Reads leg first) (hworks : Works leg q answer leg')
    (next : Option Resource) : Reads leg' (first.or next) := by
  cases hworks with
  | rest _ _ => exact h.goes rfl rfl rfl rfl (by simp [isDeparting]) next
  | draw _ => exact h.goes rfl rfl rfl rfl (fun hdel => hdel) next
  | call hcalls _ => cases hcalls <;> exact h.goes rfl rfl rfl rfl (by simp [isDeparting]) next
  | fail hcalls _ => cases hcalls <;> exact h.goes rfl rfl rfl rfl (fun hdel => hdel) next
  | wait hoperates => cases hoperates <;> exact h.goes rfl rfl rfl rfl (fun hdel => hdel) next
  | giveUp hoperates =>
    cases hoperates <;> exact h.goes rfl rfl rfl rfl (by simp [isDeparting]) next
  | _ => exact .cancelled

lemma Reads.moved (h : Reads leg first) (hm : Proceeds ns name leg q answer leg')
    (hserved : Served place s s' q answer) : Reads leg' (first.or (handed q answer none)) := by
  cases hm with
  | wake =>
    cases h with
    | waking => exact .opening
    | copied hcopy _ _ _ => cases hcopy
  | read hopens =>
    cases h with
    | opening =>
      cases hopens with
      | deleting hdel => exact .copied rfl rfl rfl fun _ => hdel
      | released hdel => exact .copied rfl rfl rfl fun _ => hdel
      | resigned hdel => exact .copied rfl rfl rfl fun _ => hdel
      | _ => exact .copied rfl rfl rfl (by simp [isDeparting])
    | copied hcopy _ _ _ => cases hcopy
  | miss =>
    cases h with
    | opening => exact .absent
    | copied hcopy _ _ _ => cases hcopy
  | attach =>
    cases hserved with
    | nothing hnone _ => cases hnone
    | finalizers _ hwritten =>
      have hresult := hwritten.result
      exact h.goes rfl rfl (hresult ▸ rfl) (hresult ▸ rfl) (by simp [isDeparting]) _
  | work hworks => exact h.worked hworks _
  | announce hannounces _ =>
    cases hannounces <;> exact h.goes rfl rfl rfl rfl (by simp [isDeparting]) _
  | update _ => exact h.goes rfl rfl rfl rfl (by simp [isDeparting]) _
  | detach => exact h.goes rfl rfl rfl rfl (by simp [isDeparting]) _
  | book answer _ hq =>
    cases hserved with
    | nothing hnone _ =>
      rw [hnone, Option.or_none]
      exact h
    | _ => cases hq
  | oversleep => exact .cancelled
  | _ => exact .stopped

end Reading

/-! ## Along runs -/

/-- What is known of a pass in a leg, and of what it has read. -/
structure Informed (place : Location) (s : Store.InMemory) (leg : Leg)
    (first : Option Resource) : Prop where
  sound : leg.Sound
  knows : Knows place s leg
  reads : Reads leg first

/-- In the last state of a run stored resources are honest, and passes informed. -/
structure Truthful (c : Config) (f : State) (earlier : List State) : Prop where
  honest : ∀ {place s}, f.world.store.objects.get? place = some s → Honest s
  informed : ∀ {place pass}, f.passes place = some pass →
    ∃ leg, pass.rest.run.Follows (Proceeds place.1 place.2) (Leg.Results c) leg ∧
      Informed place f.world.store leg (firstCopy? place (f :: earlier))

section Runs

variable {c : Config} {f f' : State} {earlier run : List State} {place : Location}
  {pass : Underway} {copy first : Option Resource} {q : Query} {answer : q.Answer}
  {next : q.Answer → Pass Controller.Error Directive} {w : World} {leg : Leg}
  {s s' : Store.InMemory}

lemma Informed.kept (h : Informed place s leg first)
    (hstands : ∀ r P, Stands place s r P → Stands place s' r P) :
    Informed place s' leg first :=
  ⟨h.sound, h.knows.mono hstands, h.reads⟩

/-- A pass that is not answered stays informed. -/
lemma Truthful.kept (h : Truthful c f earlier) (hpass : f'.passes place = some pass)
    (hsame : f'.passes place = f.passes place)
    (hstands : ∀ r P, Stands place f.world.store r P → Stands place f'.world.store r P) :
    ∃ leg, pass.rest.run.Follows (Proceeds place.1 place.2) (Leg.Results c) leg ∧
      Informed place f'.world.store leg (firstCopy? place (f' :: f :: earlier)) := by
  obtain ⟨leg, hfollows, hinformed⟩ := h.informed (hsame.symm.trans hpass)
  rw [firstCopy?_kept hsame]
  exact ⟨leg, hfollows, hinformed.kept hstands⟩

/-- A pass that is answered stays informed. -/
lemma Truthful.answered {pass' : Underway} (h : Truthful c f earlier)
    (hserved : Served place f.world.store w.store q answer)
    (hpass : f.passes place = some ⟨Program.ask q next, copy⟩)
    (hpass' : f'.passes place = some pass') (hnext : pass' = ⟨next answer, handed q answer copy⟩) :
    ∃ leg, pass'.rest.run.Follows (Proceeds place.1 place.2) (Leg.Results c) leg ∧
      Informed place w.store leg (firstCopy? place (f' :: f :: earlier)) := by
  subst hnext
  obtain ⟨leg, hfollows, hsound, hknows, hreads⟩ := h.informed hpass
  obtain ⟨leg', hm, hfollows'⟩ := hfollows answer
  rw [firstCopy?_answered hpass hpass']
  exact ⟨leg', hfollows', hm.sound hsound,
    hknows.moved hm hserved hsound fun _ => h.honest, hreads.moved hm hserved⟩

/-- What is stored after an answer to a pass is honest. -/
lemma Truthful.honest_answered {p : Location} {s : Resource} (h : Truthful c f earlier)
    (hserved : Served place f.world.store w.store q answer)
    (hpass : f.passes place = some ⟨Program.ask q next, copy⟩)
    (hs : w.store.objects.get? p = some s) : Honest s := by
  obtain rfl | hne := eq_or_ne p place
  · obtain ⟨leg, hfollows, hinformed⟩ := h.informed hpass
    obtain ⟨leg', hm, -⟩ := hfollows answer
    exact honest_moved hinformed.knows hm hserved hinformed.sound (fun _ => h.honest) hs
  · exact h.honest ((hserved.other hne).symm.trans hs)

lemma Truthful.honest_step {s : Resource} (h : Truthful c f earlier)
    (hchronicled : Chronicled c f earlier) (hstep : AnyGatewayStep c f f')
    (hs : f'.world.store.objects.get? place = some s) : Honest s := by
  cases hstep with
  | seeded g => exact h.honest hs
  | step hstep =>
    cases hstep with
    | acted a ha =>
      obtain ⟨r, rfl, -, rfl⟩ | ⟨old, hold, hturn⟩ := stored_act ha hs
      · exact .blank ha.2
      · exact (h.honest hold).congr hturn.status hturn.noEarlier
    | begun _ _ => exact h.honest hs
    | ended _ => exact h.honest hs
    | answered answer hpass ha =>
      exact h.honest_answered (hchronicled.served hpass ha) hpass hs

lemma Truthful.informed_step (h : Truthful c f earlier) (hchronicled : Chronicled c f earlier)
    (hstep : AnyGatewayStep c f f') (hpass' : f'.passes place = some pass) :
    ∃ leg, pass.rest.run.Follows (Proceeds place.1 place.2) (Leg.Results c) leg ∧
      Informed place f'.world.store leg (firstCopy? place (f' :: f :: earlier)) := by
  have hother : ∀ {p place' : Location} {pass' : Option Underway}, place' ≠ p →
      (f.setPass p pass').passes place' = f.passes place' :=
    fun hne => Function.update_of_ne hne _ _
  cases hstep with
  | seeded g => exact h.kept hpass' rfl fun _ _ hstands => hstands
  | step hstep =>
    cases hstep with
    | acted a ha => exact h.kept hpass' rfl fun _ _ hstands => hstands.act ha
    | begun p hfree =>
      obtain rfl | hne := eq_or_ne place p
      · obtain rfl : pass = ⟨reconcile c place.1 place.2, none⟩ := by
          simpa [State.setPass, eq_comm] using hpass'
        refine ⟨.waking, reconcile_proceeds c place.1 place.2, trivial, .nothing rfl, ?_⟩
        rw [firstCopy?_of_pass hpass', firstCopy?, hfree]
        exact .waking
      · exact h.kept hpass' (hother hne) fun _ _ hstands => hstands
    | ended p =>
      obtain rfl | hne := eq_or_ne place p
      · simp [State.setPass] at hpass'
      · exact h.kept hpass' (hother hne) fun _ _ hstands => hstands
    | @answered p q next copy answer w hpass ha =>
      have hserved := hchronicled.served hpass ha
      obtain rfl | hne := eq_or_ne place p
      · exact h.answered hserved hpass hpass' (by simpa [State.setPass, eq_comm] using hpass')
      · exact h.kept hpass' (hother hne) fun _ _ hstands => hstands.of_objects (hserved.other hne)

/-- Along every run stored resources are honest, and passes informed. -/
lemma Run.truthful (h : Run (AnyGatewayStep c) (f :: earlier)) : Truthful c f earlier := by
  generalize hrun : f :: earlier = run at h
  induction h generalizing f earlier with
  | start =>
    cases hrun
    exact ⟨(fun hs => nomatch hs), fun hpass => nomatch hpass⟩
  | next hbefore hstep ih =>
    cases hrun
    exact ⟨(ih rfl).honest_step hbefore.chronicled hstep,
      (ih rfl).informed_step hbefore.chronicled hstep⟩

end Runs

/-! ## Announcements -/

/-- In every state of a run, whatever happens at the gateway, readiness that is announced was
confirmed: if the condition names the generation that the status does, the target was last seen
operational, and otherwise the status names a later one. -/
theorem announced_confirmed {c : Config} {run : List State} {f : State} {place : Location}
    {s : Resource} {status : Status} {ready : Condition} (hrun : Run (AnyGatewayStep c) run)
    (hf : f ∈ run) (hs : f.world.store.objects.get? place = some s)
    (hstatus : s.status = some status) (hready : status.ready? = some ready)
    (hholds : ready.verdict = .holds) :
    (ready.observedGeneration = status.observedGeneration ∧
        status.targetStatus = some targetReady) ∨
      rank ready.observedGeneration < rank status.observedGeneration := by
  obtain ⟨later, earlier, rfl⟩ := List.append_of_mem hf
  have hhonest : Honest s := hrun.of_append.truthful.honest hs
  have hready' : readiness? s = some ready := by
    rw [readiness?, conditionsOf, hstatus]
    exact hready
  obtain ⟨-, hconfirmed⟩ := hhonest.ready ready hready' hholds
  rw [Confirmed, Resource.observedGeneration, seenState?, hstatus] at hconfirmed
  exact hconfirmed

/-- A target is created and becomes operational, and its readiness is announced. -/
def announcedRun : List State :=
  State.told exampleConfig (wholePass ("tools", "files")) <|
  State.acted (.setState "target-1" ⟨targetReady, []⟩) <|
  State.told exampleConfig (wholePass ("tools", "files") ++ [.finish ("tools", "files")]) <|
  State.acted (.edit (.insert exampleResource)) [{}]

lemma run_announcedRun : Run (Step exampleConfig (Respectful fun _ => True)) announcedRun := by
  refine .told _ (.acted (.told _ (.acted .start ?_)) ?_)
  · rintro _ ⟨⟩
    exact ⟨rfl, rfl⟩
  · exact fun _ _ => trivial

/-- The announcement that ends that run was confirmed. -/
theorem announced_confirmed_once_ready :
    ∃ (f : State) (s : Resource) (status : Status) (ready : Condition),
      Run (AnyGatewayStep exampleConfig) announcedRun ∧ f ∈ announcedRun ∧
      f.world.store.objects.get? ("tools", "files") = some s ∧ s.status = some status ∧
      status.ready? = some ready ∧ ready.verdict = .holds ∧
      ((ready.observedGeneration = status.observedGeneration ∧
          status.targetStatus = some targetReady) ∨
        rank ready.observedGeneration < rank status.observedGeneration) := by
  have hrun : Run (AnyGatewayStep exampleConfig) announcedRun :=
    run_announcedRun.weaken fun _ _ => .step
  obtain ⟨f, hf, s, hs, status, hstatus, ready, hready, hholds⟩ :
      ∃ f ∈ announcedRun, ∃ s ∈ f.world.store.objects.get? ("tools", "files"),
        ∃ status ∈ s.status, ∃ ready ∈ status.ready?, ready.verdict = .holds := by decide +kernel
  exact ⟨f, s, status, ready, hrun, hf, hs, hstatus, hready, hholds,
    announced_confirmed hrun hf hs hstatus hready hholds⟩

/-- Then the specification is edited, and the target is updated. -/
def updatedRun : List State :=
  State.told exampleConfig (.finish ("tools", "files") :: wholePass ("tools", "files")) <|
  State.acted (.edit (.updateSpec "tools" "files" fun spec =>
    { spec with description := some "edited" })) announcedRun

lemma run_updatedRun : Run (Step exampleConfig (Respectful fun _ => True)) updatedRun :=
  .told _ (.acted run_announcedRun fun _ _ => trivial)

/-- Readiness may be announced while the target is not operational, because it is being updated. -/
theorem not_announced_operational :
    ¬ ∀ {c : Config} {run : List State} {f : State} {place : Location} {s : Resource}
        {status : Status} {ready : Condition},
      Run (Step c (Respectful fun _ => True)) run → f ∈ run → (f.outcome? place).isSome →
      f.world.store.objects.get? place = some s → s.status = some status →
      status.ready? = some ready → ready.verdict = .holds →
      status.targetStatus = some targetReady := by
  intro h
  obtain ⟨f, hf, hended, s, hs, status, hstatus, hupdating, ready, hready, hholds⟩ :
      ∃ f ∈ updatedRun, (f.outcome? ("tools", "files")).isSome ∧
        ∃ s ∈ f.world.store.objects.get? ("tools", "files"), ∃ status ∈ s.status,
          status.targetStatus = some "UPDATING" ∧ ∃ ready ∈ status.ready?,
            ready.verdict = .holds := by decide +kernel
  have hseen := h run_updatedRun hf hended hs hstatus hready hholds
  rw [hupdating] at hseen
  exact absurd hseen (by decide)

/-! ## Passes that report to be done -/

section Done

variable {c : Config} {f : State} {earlier : List State} {place : Location} {leg : Leg}
  {r : Resource} {s : Store.InMemory} {first : Option Resource}

/-- The legs in which a pass may report to be done. -/
inductive Concluded : Leg → Prop where
  | absent : Concluded .absent
  | settled (r : Resource) : Concluded (.settled r)
  | resigned (r : Resource) : Concluded (.resigned r)
  | announced (r written : Resource) : Concluded (.updating r .ready (.ended (.ok written)))

lemma concluded_of_done (h : leg.Results c (.ok .done)) : Concluded leg := by
  obtain ⟨ending, hends, hsurface⟩ := h
  obtain rfl := surface_eq_done hsurface.symm
  cases hends with
  | absent => exact .absent
  | settled => exact .settled _
  | resigned => exact .resigned _
  | updated hconcludes =>
    cases hconcludes with
    | ready => exact .announced ..

/-- A copy that was found settled is so still, under the announcement that it carried. -/
lemma Attends.announced (h : Attends place s r) (hset : r.isSettled)
    (hgen : r.metadata.generation = r.observedGeneration) :
    ∃ r' status ready, s.objects.get? place = some r' ∧ r'.status = some status ∧
      status.ready? = some ready ∧ ready.verdict = .holds ∧
      status.targetStatus = some targetReady ∧
      status.observedGeneration = r.metadata.generation ∧
      (ready.observedGeneration = r.metadata.generation ∨
        rank ready.observedGeneration < rank r.metadata.generation) := by
  obtain ⟨stored, hstored, -, -, hsame⟩ := h.stands
  obtain ⟨status, hstatus, hset'⟩ := (Option.any_eq_true ..).mp hset
  obtain ⟨hseen, ready, hready, hholds⟩ := isSettled_iff.mp hset'
  have hobserved : status.observedGeneration = r.metadata.generation := by
    rw [hgen, Resource.observedGeneration, hstatus]
    rfl
  have hready' : readiness? r = some ready := by
    rw [readiness?, conditionsOf, hstatus]
    exact hready
  obtain ⟨-, hconfirmed⟩ := h.honest.ready ready hready' hholds
  rw [Confirmed, ← hgen] at hconfirmed
  exact ⟨stored, status, ready, hstored, hsame.trans hstatus, hready, hholds, hseen, hobserved,
    hconfirmed.imp_left And.left⟩

end Done

/-- When a pass on a resource that is not being deleted reports to be done, the resource that is
stored announces readiness of a target that was last seen operational, and its status names the
generation of the copy that the pass has read.  So does the condition, unless the pass has found
the copy settled under an announcement for an earlier generation, which it leaves as it is. -/
theorem done_announced {c : Config} {f : State} {earlier : List State} {place : Location}
    {r : Resource} (hrun : Run (AnyGatewayStep c) (f :: earlier))
    (hdone : f.outcome? place = some (.ok .done))
    (hread : firstCopy? place (f :: earlier) = some r) (hdel : r.isBeingDeleted = false) :
    ∃ s status ready, f.world.store.objects.get? place = some s ∧ s.status = some status ∧
      status.ready? = some ready ∧ ready.verdict = .holds ∧
      status.targetStatus = some targetReady ∧
      status.observedGeneration = r.metadata.generation ∧
      (ready.observedGeneration = r.metadata.generation ∨
        r.isSettled ∧ rank ready.observedGeneration < rank r.metadata.generation) := by
  obtain ⟨copy, hpass⟩ := State.exists_of_outcome? hdone
  obtain ⟨leg, hresults, -, hknows, hreads⟩ := hrun.truthful.informed hpass
  rw [hread] at hreads
  -- the legs without a copy, and with one that is marked for deletion, contradict what was read
  cases concluded_of_done hresults with
  | absent =>
    cases hreads with
    | copied hcopy _ _ _ => cases hcopy
  | resigned r' =>
    obtain ⟨_, hfirst, -, -, hdeparting⟩ := hreads.exists_first rfl
    cases hfirst
    cases hdel.symm.trans (hdeparting rfl)
  | settled r' =>
    obtain ⟨_, hfirst, hgen, hstatus, -⟩ := hreads.exists_first rfl
    cases hfirst
    cases hknows with
    | settled h hcurrent hset =>
      obtain ⟨s, status, ready, hs, hs', hready, hholds, hseen, hobserved, hcases⟩ :=
        h.announced hset hcurrent
      have hset' : r.isSettled := by rwa [Resource.isSettled, ← hstatus]
      rw [hgen] at hobserved hcases
      exact ⟨s, status, ready, hs, hs', hready, hholds, hseen, hobserved,
        hcases.imp_right fun hlt => ⟨hset', hlt⟩⟩
    | nothing h => cases h
  | announced r' written =>
    obtain ⟨_, hfirst, hgen, -, -⟩ := hreads.exists_first rfl
    cases hfirst
    cases hknows with
    | updating h =>
      obtain ⟨s, hs, -, -, status, ready, hstatus, hready, hholds, hcurrent, hobserved, hseen⟩ := h
      exact ⟨s, status, ready, hs, hstatus, hready, hholds, hseen, hobserved.trans hgen,
        .inl (hcurrent.trans hgen)⟩
    | nothing h => cases h

/-- The pass that announces readiness reports to be done, and leaves the announcement for the
generation that it has read. -/
theorem done_announced_once_ready :
    ∃ (f : State) (earlier : List State) (r : Resource),
      Run (AnyGatewayStep exampleConfig) (f :: earlier) ∧
      f.outcome? ("tools", "files") = some (.ok .done) ∧
      firstCopy? ("tools", "files") (f :: earlier) = some r ∧ r.isBeingDeleted = false ∧
      r.isSettled = false ∧
      ∃ s status ready, f.world.store.objects.get? ("tools", "files") = some s ∧
        s.status = some status ∧ status.ready? = some ready ∧ ready.verdict = .holds ∧
        status.targetStatus = some targetReady ∧
        status.observedGeneration = r.metadata.generation ∧
        (ready.observedGeneration = r.metadata.generation ∨
          r.isSettled ∧ rank ready.observedGeneration < rank r.metadata.generation) := by
  obtain ⟨f, earlier, hcons⟩ := run_announcedRun.exists_cons
  have hrun : Run (AnyGatewayStep exampleConfig) (f :: earlier) :=
    hcons ▸ run_announcedRun.weaken fun _ _ => .step
  have hdone : (announcedRun.headD {}).outcome? ("tools", "files") = some (.ok .done) := by
    decide +kernel
  obtain ⟨r, hread, hdel, hunsettled⟩ : ∃ r ∈ firstCopy? ("tools", "files") announcedRun,
      r.isBeingDeleted = false ∧ r.isSettled = false := by decide +kernel
  rw [hcons] at hdone hread
  exact ⟨f, earlier, r, hrun, hdone, hread, hdel, hunsettled, done_announced hrun hdone hread hdel⟩

/-- After the update the target becomes operational again.  A pass records that, but the store
refuses the announcement; the pass after it reports to be done. -/
def unannouncedRun : List State :=
  State.told exampleConfig ([.finish ("tools", "files"), .begin ("tools", "files")] ++
    List.replicate 11 (.answer ("tools", "files")) ++
    [.refuse ("tools", "files") (.apiServer (some 500)), .finish ("tools", "files")] ++
    wholePass ("tools", "files")) <|
  State.acted (.setState "target-1" ⟨targetReady, []⟩) updatedRun

lemma run_unannouncedRun : Run (Step exampleConfig (Respectful fun _ => True)) unannouncedRun :=
  .told _ (.acted run_updatedRun fun _ _ => trivial)

/-- A pass may report to be done although the condition was computed from an earlier generation
than the one that the pass has read. -/
theorem not_done_announced_current :
    ¬ ∀ {c : Config} {f : State} {earlier : List State} {place : Location} {r : Resource},
      Run (Step c (Respectful fun _ => True)) (f :: earlier) →
      f.outcome? place = some (.ok .done) → firstCopy? place (f :: earlier) = some r →
      r.isBeingDeleted = false →
      ∃ s status ready, f.world.store.objects.get? place = some s ∧ s.status = some status ∧
        status.ready? = some ready ∧ ready.verdict = .holds ∧
        ready.observedGeneration = r.metadata.generation := by
  intro h
  obtain ⟨f, earlier, hcons⟩ := run_unannouncedRun.exists_cons
  have hdone : (unannouncedRun.headD {}).outcome? ("tools", "files") = some (.ok .done) := by
    decide +kernel
  obtain ⟨r, hread, hdel, hstale⟩ : ∃ r ∈ firstCopy? ("tools", "files") unannouncedRun,
      r.isBeingDeleted = false ∧
      ∀ s ∈ (unannouncedRun.headD {}).world.store.objects.get? ("tools", "files"),
        ∀ status ∈ s.status, ∀ ready ∈ status.ready?,
          ready.observedGeneration ≠ r.metadata.generation := by decide +kernel
  rw [hcons] at hdone hread hstale
  obtain ⟨s, status, ready, hs, hstatus, hready, -, hcurrent⟩ :=
    h (hcons ▸ run_unannouncedRun) hdone hread hdel
  exact hstale s hs status hstatus ready hready hcurrent

end TargetRegistrar.Fleet
