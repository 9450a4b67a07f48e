import TargetRegistrar.Proofs.Controller.Errand
import TargetRegistrar.Proofs.Controller.Recording
import TargetRegistrar.Proofs.Controller.Release

/-!
# One operation in a pass

The first look at the store decides what a pass does at the gateway: which operation, on which
target of which gateway, or nothing at all.  Others may interfere as they like afterwards, the store
may refuse and the gateway answer anything; the pass then does less, but it never does anything
else.

`firstRead?` is what that look returned, `calls` are the calls that the pass has made since, and
`OneErrand` says how the two belong together.  `Progress` is the invariant: at each stage it
compares the calls made so far with what the object called for, and the copy in hand with the
object.  The copy differs from the object by the finalizer and the version at most (`Alike`), and no
decision depends on these two.
-/

namespace TargetRegistrar.Controller

open Store Gateway Registration

/-! ## What a trail tells -/

/-- The call that a question makes. -/
def Exchange.call? : Exchange → Option Call
  | ⟨.gateway call, _, _⟩ => some call
  | _ => none

/-- What a look at the store returned. -/
def Exchange.read? : Exchange → Option (Except Store.Error (Option Resource))
  | ⟨.store (.get ..), outcome, _⟩ => some outcome
  | _ => none

/-- How a write of finalizers ended. -/
def Exchange.finalizerWrite? : Exchange → Option (Except Store.Error Resource)
  | ⟨.store (.replaceFinalizers ..), outcome, _⟩ => some outcome
  | _ => none

/-- Cancellation was noticed at the exchange. -/
def Exchange.IsCancelled : Exchange → Prop
  | ⟨.isCancelled, cancelled, _⟩ => cancelled = true
  | ⟨.gateway _, raced, _⟩ => raced = .cancelled
  | ⟨.wait _, raced, _⟩ => raced = .cancelled
  | _ => False

/-- The calls of a trail, the last one first. -/
def calls (trail : List Exchange) : List Call :=
  trail.filterMap Exchange.call?

/-- How the writes of finalizers ended, the last one first. -/
def finalizerWrites (trail : List Exchange) : List (Except Store.Error Resource) :=
  trail.filterMap Exchange.finalizerWrite?

/-- What the first look at the store returned. -/
def firstRead? : List Exchange → Option (Except Store.Error (Option Resource))
  | [] => none
  | x :: earlier => (firstRead? earlier).or x.read?

section Trails

variable {q : Query} {answer : q.Answer} {before : Store.InMemory} {trail : List Exchange}

lemma calls_quiet (hq : q.isQuiet) : calls (⟨q, answer, before⟩ :: trail) = calls trail := by
  cases q with
  | gateway call => cases hq
  | _ => rfl

lemma finalizerWrites_quiet (hq : q.isQuiet) :
    finalizerWrites (⟨q, answer, before⟩ :: trail) = finalizerWrites trail := by
  cases q with
  | store request =>
    cases request with
    | replaceFinalizers copy finalizers => cases hq
    | _ => rfl
  | _ => rfl

lemma calls_gateway {call : Call} {raced : Raced call.Outcome} :
    calls (⟨.gateway call, raced, before⟩ :: trail) = call :: calls trail := rfl

lemma firstRead?_cons {x : Exchange} {outcome : Except Store.Error (Option Resource)}
    (h : firstRead? trail = some outcome) : firstRead? (x :: trail) = some outcome := by
  rw [firstRead?, h, Option.some_or]

end Trails

/-! ## What an object calls for -/

/-- A copy that decides like another one. -/
structure Alike (r r' : Resource) : Prop where
  status : r'.status = r.status
  generation : r'.metadata.generation = r.metadata.generation

lemma Alike.symm {r r' : Resource} (h : Alike r r') : Alike r' r :=
  ⟨h.status.symm, h.generation.symm⟩

lemma Due.congr {r r' : Resource} {v : Validated} {call : Call} (h : Due r v call)
    (halike : Alike r r') : Due r' v call := by
  have hrec := recordedTarget?_congr halike.status
  have hobs := observedGeneration_congr halike.status
  have hset : r'.isSettled = r.isSettled := by
    simp only [Resource.isSettled, halike.status]
  cases h with
  | create hnone hreq => exact .create (hrec.trans hnone) hreq
  | update hsome hgen hreq =>
    refine .update (hrec.trans hsome) ?_ hreq
    rwa [halike.generation, hobs]
  | poll hsome hgen hunset =>
    refine .poll (hrec.trans hsome) ?_ (hset.trans hunset)
    rwa [halike.generation, hobs]

lemma Due.operation_eq {r : Resource} {v : Validated} {call call' : Call} (h : Due r v call)
    (h' : Due r v call') : call'.operation = call.operation := by
  cases h with
  | create hnone _ =>
    cases h' with
    | create _ _ => rfl
    | update hsome _ _ => cases hnone.symm.trans hsome
    | poll hsome _ _ => cases hnone.symm.trans hsome
  | update hsome hmoved _ =>
    cases h' with
    | create hnone _ => cases hnone.symm.trans hsome
    | update _ _ _ => rfl
    | poll _ hsame _ => exact absurd hsame hmoved
  | poll hsome hsame _ =>
    cases h' with
    | create hnone _ => cases hnone.symm.trans hsome
    | update _ hmoved _ => exact absurd hsame hmoved
    | poll _ _ _ => rfl

/-- An object calls for one operation at most. -/
theorem Demands.operation_eq {c : Config} {r : Resource} {call call' : Call}
    (h : Demands c r call) (h' : Demands c r call') : call'.operation = call.operation := by
  cases h with
  | delete hdel _ _ _ =>
    cases h' with
    | delete _ _ _ _ => rfl
    | advance hkept _ _ => cases hdel.symm.trans hkept
  | advance hkept hv hdue =>
    cases h' with
    | delete hdel _ _ _ => cases hdel.symm.trans hkept
    | advance _ hv' hdue' =>
      cases hv.symm.trans hv'
      exact hdue.operation_eq hdue'

lemma Demands.isBeingDeleted {c : Config} {r : Resource} {gatewayId targetId : String}
    (h : Demands c r (.delete gatewayId targetId)) : r.isBeingDeleted := by
  cases h with
  | delete hdel _ _ _ => exact hdel
  | advance _ _ hdue => cases hdue

lemma not_demands_of_unrecorded {c : Config} {r : Resource} (hdel : r.isBeingDeleted)
    (hrec : r.recordedTarget? = none) (call : Call) : ¬ Demands c r call :=
  not_demands_of_deleted hdel fun _ _ _ hsome => nomatch hrec.symm.trans hsome

/-- The finalizer is on the object, or was attached to it on the way. -/
def Guarded (r : Resource) (trail : List Exchange) : Prop :=
  r.hasFinalizer finalizer ∨ ∃ written, .ok written ∈ finalizerWrites trail

/-! ## Along a pass -/

/-- How far a pass is with the errand of the object that it has read. -/
inductive Progress (c : Config) (r : Resource) (s : Store.InMemory) (trail : List Exchange) :
    Stage → Prop where
  | unguarded {v : Validated} (hissued : s.Issued r) (hdel : r.isBeingDeleted = false)
      (hv : validate c.defaultGateway r = .ok v) (hfin : r.hasFinalizer finalizer = false)
      (hcalls : calls trail = []) (hwrites : finalizerWrites trail = []) :
      Progress c r s trail (.unguarded r v)
  | guarded {copy : Resource} {v : Validated} (hdel : r.isBeingDeleted = false)
      (hv : validate c.defaultGateway r = .ok v) (halike : Alike copy r)
      (hcalls : calls trail = []) : Progress c r s trail (.guarded copy v)
  | drawn {copy : Resource} {v : Validated} {token : CreateToken}
      (hdel : r.isBeingDeleted = false) (hv : validate c.defaultGateway r = .ok v)
      (halike : Alike copy r) (hcalls : calls trail = []) :
      Progress c r s trail (.drawn copy v token)
  | deleting {gatewayId targetId : String} (hdemands : Demands c r (.delete gatewayId targetId))
      (hcalls : calls trail = []) : Progress c r s trail (.deleting gatewayId targetId)
  | calling {call : Call} (hdemands : Demands c r call) (hop : call.operation ≠ .get)
      (hcalls : ∀ call' ∈ calls trail, call' = call) (hsome : calls trail ≠ []) :
      Progress c r s trail (.calling call)
  | releasing (hdel : r.isBeingDeleted) (hnone : ∀ call, ¬ Demands c r call)
      (hcalls : calls trail = []) : Progress c r s trail .releasing
  | idle (hnone : ∀ call, Demands c r call → ¬ Guarded r trail) (hcalls : calls trail = []) :
      Progress c r s trail .resting
  | looked {call : Call} (hdemands : Demands c r call) (hcalls : calls trail = [call]) :
      Progress c r s trail .resting

/-- Whether a resource may have its finalizers written by a pass. -/
def MayBeMarked (c : Config) (r : Resource) : Prop :=
  r.isBeingDeleted ∨ ∃ v, validate c.defaultGateway r = .ok v

/-- What a pass has done, in view of what it has read first. -/
inductive Decided (c : Config) : Stage → Store.InMemory → List Exchange → Prop where
  | opening {s : Store.InMemory} {trail : List Exchange} (hfirst : firstRead? trail = none)
      (hcalls : calls trail = []) (hwrites : finalizerWrites trail = []) :
      Decided c .opening s trail
  | nothing {s : Store.InMemory} {trail : List Exchange}
      {outcome : Except Store.Error (Option Resource)} (hfirst : firstRead? trail = some outcome)
      (hnothing : ∀ r, outcome ≠ .ok (some r)) (hcalls : calls trail = []) :
      Decided c .resting s trail
  | taken {r : Resource} {st : Stage} {s : Store.InMemory} {trail : List Exchange}
      (hfirst : firstRead? trail = some (.ok (some r)))
      (hmarked : finalizerWrites trail ≠ [] → MayBeMarked c r)
      (hprogress : Progress c r s trail st) : Decided c st s trail

namespace Progress

variable {c : Config} {ns name : String} {r : Resource} {st st' : Stage} {s s' : Store.InMemory}
  {trail : List Exchange}

lemma touched (h : Progress c r s trail st) (ht : s.Touch s') : Progress c r s' trail st := by
  cases h with
  | unguarded hissued hdel hv hfin hcalls hwrites =>
    exact .unguarded (hissued.touch ht) hdel hv hfin hcalls hwrites
  | guarded hdel hv halike hcalls => exact .guarded hdel hv halike hcalls
  | drawn hdel hv halike hcalls => exact .drawn hdel hv halike hcalls
  | deleting hdemands hcalls => exact .deleting hdemands hcalls
  | calling hdemands hop hcalls hsome => exact .calling hdemands hop hcalls hsome
  | releasing hdel hnone hcalls => exact .releasing hdel hnone hcalls
  | idle hnone hcalls => exact .idle hnone hcalls
  | looked hdemands hcalls => exact .looked hdemands hcalls

/-- Only calls and writes of finalizers count. -/
lemma of_same {trail' : List Exchange} (h : Progress c r s trail st)
    (hcalls : calls trail' = calls trail)
    (hwrites : finalizerWrites trail' = finalizerWrites trail) : Progress c r s trail' st := by
  cases h with
  | unguarded hissued hdel hv hfin hnone hunwritten =>
    exact .unguarded hissued hdel hv hfin (hcalls.trans hnone) (hwrites.trans hunwritten)
  | guarded hdel hv halike hnone => exact .guarded hdel hv halike (hcalls.trans hnone)
  | drawn hdel hv halike hnone => exact .drawn hdel hv halike (hcalls.trans hnone)
  | deleting hdemands hnone => exact .deleting hdemands (hcalls.trans hnone)
  | calling hdemands hop hsame hsome =>
    rw [← hcalls] at hsame hsome
    exact .calling hdemands hop hsame hsome
  | releasing hdel hnever hnone => exact .releasing hdel hnever (hcalls.trans hnone)
  | idle hnever hnone =>
    refine .idle ?_ (hcalls.trans hnone)
    simpa only [Guarded, hwrites] using hnever
  | looked hdemands hsome => exact .looked hdemands (hcalls.trans hsome)

/-- The object that was read decides in which stage it is taken up. -/
lemma opens (h : st.Opens c r) (hissued : s.Issued r) (hcalls : calls trail = [])
    (hwrites : finalizerWrites trail = []) : Progress c r s trail st := by
  cases h with
  | unguarded hdel hv hfin => exact .unguarded hissued hdel hv hfin hcalls hwrites
  | guarded hdel hv hfin => exact .guarded hdel hv ⟨rfl, rfl⟩ hcalls
  | deleting hdel hfin hrec hgw => exact .deleting (.delete hdel hfin hrec hgw) hcalls
  | releasing hdel hrec => exact .releasing hdel (not_demands_of_unrecorded hdel hrec) hcalls
  | resting hnone => exact .idle (fun call hdemands => absurd hdemands (hnone call)) hcalls

/-- The first call is one that the object calls for. -/
lemma called {call : Call} {raced : Raced call.Outcome} (hdemands : Demands c r call)
    (hop : call.operation ≠ .get) (hcalls : calls trail = []) :
    Progress c r s' (⟨.gateway call, raced, s⟩ :: trail) (.calling call) := by
  have hsame : calls (⟨.gateway call, raced, s⟩ :: trail) = [call] := by
    rw [calls_gateway, hcalls]
  refine .calling hdemands hop ?_ ?_
  · simp [hsame]
  · simp [hsame]

lemma moved {q : Query} {answer : q.Answer} (hs : s.Orderly) (h : Progress c r s trail st)
    (hm : Paces c ns name st q answer st') (ha : Answers s q answer s') :
    Progress c r s' (⟨q, answer, s⟩ :: trail) st' := by
  cases hm with
  | opened _ => cases h
  | read _ => cases h
  | readNothing _ => cases h
  | quiet _ _ hq =>
    exact (h.touched (ha.touch hs)).of_same (calls_quiet hq) (finalizerWrites_quiet hq)
  | attach =>
    cases h with
    | unguarded hissued hdel hv _ hcalls _ =>
      obtain ⟨stored, hwritten⟩ := Store.InMemory.Serves.replaceFinalizers ha
      obtain rfl := hwritten.written_eq hissued
      exact .guarded hdel hv ⟨rfl, rfl⟩ hcalls
  | attachRefused =>
    cases h with
    | unguarded _ _ _ hfin hcalls hwrites =>
      refine .idle ?_ hcalls
      rintro _ _ (hguarded | ⟨written, hwritten⟩)
      · cases hfin.symm.trans hguarded
      · obtain hok | hmem : _ ∨ .ok written ∈ finalizerWrites trail := List.mem_cons.mp hwritten
        · cases hok
        · rw [hwrites] at hmem
          cases hmem
  | draw _ _ =>
    cases h with
    | guarded hdel hv halike hcalls => exact .drawn hdel hv halike hcalls
  | create _ hdue _ _ =>
    cases h with
    | guarded hdel hv halike hcalls =>
      exact called (.advance hdel hv (hdue.congr halike)) (by simp [Call.operation]) hcalls
  | createDrawn _ hdue _ =>
    cases h with
    | drawn hdel hv halike hcalls =>
      exact called (.advance hdel hv (hdue.congr halike)) (by simp [Call.operation]) hcalls
  | update _ hdue =>
    cases h with
    | guarded hdel hv halike hcalls =>
      exact called (.advance hdel hv (hdue.congr halike)) (by simp [Call.operation]) hcalls
  | poll _ hdue =>
    cases h with
    | guarded hdel hv halike hcalls =>
      refine .looked (.advance hdel hv (hdue.congr halike)) ?_
      rw [calls_gateway, hcalls]
  | delete _ =>
    cases h with
    | deleting hdemands hcalls => exact called hdemands (by simp [Call.operation]) hcalls
  | again _ =>
    cases h with
    | calling hdemands hop hcalls _ =>
      refine .calling hdemands hop ?_ ?_
      · simpa [calls_gateway] using hcalls
      · simp [calls_gateway]
  | detach _ hst =>
    obtain rfl | ⟨_, _, rfl⟩ := hst
    · cases h with
      | releasing hdel hnone hcalls => exact .releasing hdel hnone hcalls
    · cases h with
      | calling hdemands hop hcalls hsome => exact .calling hdemands hop hcalls hsome

/-- Finalizers are written only where they may be. -/
lemma marks {q : Query} {answer : q.Answer} (h : Progress c r s trail st)
    (hm : Paces c ns name st q answer st')
    (hwrites : finalizerWrites (⟨q, answer, s⟩ :: trail) ≠ finalizerWrites trail) :
    MayBeMarked c r := by
  cases hm with
  | quiet _ _ hq => exact absurd (finalizerWrites_quiet hq) hwrites
  | attach =>
    cases h with
    | unguarded _ _ hv _ _ _ => exact .inr ⟨_, hv⟩
  | attachRefused =>
    cases h with
    | unguarded _ _ hv _ _ _ => exact .inr ⟨_, hv⟩
  | detach _ hst =>
    obtain rfl | ⟨_, _, rfl⟩ := hst
    · cases h with
      | releasing hdel _ _ => exact .inl hdel
    · cases h with
      | calling hdemands _ _ _ => exact .inl hdemands.isBeingDeleted
  | _ => exact absurd rfl hwrites

end Progress

namespace Decided

variable {c : Config} {ns name : String} {st st' : Stage} {s s' : Store.InMemory}
  {trail : List Exchange}

lemma touched (h : Decided c st s trail) (ht : s.Touch s') : Decided c st s' trail := by
  cases h with
  | opening hfirst hcalls hwrites => exact .opening hfirst hcalls hwrites
  | nothing hfirst hnothing hcalls => exact .nothing hfirst hnothing hcalls
  | taken hfirst hmarked hprogress => exact .taken hfirst hmarked (hprogress.touched ht)

lemma moved {q : Query} {answer : q.Answer} (hs : s.Orderly) (h : Decided c st s trail)
    (hm : Paces c ns name st q answer st') (ha : Answers s q answer s') :
    Decided c st' s' (⟨q, answer, s⟩ :: trail) := by
  cases h with
  | opening hfirst hcalls hwrites =>
    have hread : firstRead? (⟨q, answer, s⟩ :: trail) = Exchange.read? ⟨q, answer, s⟩ := by
      rw [firstRead?, hfirst, Option.none_or]
    cases hm with
    | opened _ => exact .opening hread hcalls hwrites
    | read hopens =>
      have hissued := Store.InMemory.Serves.issued hs ha
      exact .taken hread (absurd hwrites) (.opens hopens hissued hcalls hwrites)
    | readNothing hnothing => exact .nothing hread hnothing hcalls
    | quiet _ hst _ => exact absurd rfl hst
    | detach _ hst => obtain hst | ⟨_, _, hst⟩ := hst <;> cases hst
  | nothing hfirst hnothing hcalls =>
    cases hm with
    | quiet _ _ hq =>
      exact .nothing (firstRead?_cons hfirst) hnothing ((calls_quiet hq).trans hcalls)
    | detach _ hst => obtain hst | ⟨_, _, hst⟩ := hst <;> cases hst
  | taken hfirst hmarked hprogress =>
    refine .taken (firstRead?_cons hfirst) (fun hwrites => ?_) (hprogress.moved hs hm ha)
    by_cases hsame : finalizerWrites (⟨q, answer, s⟩ :: trail) = finalizerWrites trail
    · exact hmarked (hsame ▸ hwrites)
    · exact hprogress.marks hm hsame

lemma stable : Stable (Paces c ns name) .opening (Decided c) where
  opening _ := .opening rfl rfl rfl
  touched := touched
  moved := moved

/-- At the end of a pass an errand that was not prevented has been begun. -/
lemma calls_ne_nil {r : Resource} {call : Call} (h : Decided c st s trail) (hend : st.Finished)
    (hfirst : firstRead? trail = some (.ok (some r))) (hdemands : Demands c r call)
    (hguarded : Guarded r trail) : calls trail ≠ [] := by
  cases h with
  | opening hnone _ _ => cases hnone.symm.trans hfirst
  | nothing hsome hnothing _ =>
    cases hsome.symm.trans hfirst
    exact absurd rfl (hnothing r)
  | taken hsome _ hprogress =>
    cases hsome.symm.trans hfirst
    cases hprogress with
    | unguarded _ _ _ _ _ _ => exact hend.elim
    | guarded hdel hv halike _ =>
      cases hdemands with
      | delete hmarked _ _ _ => cases hmarked.symm.trans hdel
      | advance _ hv' hdue =>
        cases hv.symm.trans hv'
        exact absurd (hdue.congr halike.symm) (hend call)
    | drawn _ _ _ _ => exact hend.elim
    | deleting _ _ => exact hend.elim
    | calling _ _ _ hsome => exact hsome
    | releasing _ hnone _ => exact absurd hdemands (hnone call)
    | idle hnone _ => exact absurd hguarded (hnone call hdemands)
    | looked _ hcalls => simp [hcalls]

/-- Every call is the one call that the object called for; a look at a target stands alone. -/
lemma of_mem_calls {found : Option Resource} {call : Call} (h : Decided c st s trail)
    (hfirst : firstRead? trail = some (.ok found)) (hcall : call ∈ calls trail) :
    (∃ r, found = some r ∧ Demands c r call) ∧ (∀ call' ∈ calls trail, call' = call) ∧
      (call.operation = .get → calls trail = [call]) := by
  cases h with
  | opening _ hcalls _ => simp [hcalls] at hcall
  | nothing _ _ hcalls => simp [hcalls] at hcall
  | taken hsome _ hprogress =>
    cases hsome.symm.trans hfirst
    cases hprogress with
    | calling hdemands hop hcalls _ =>
      obtain rfl := hcalls call hcall
      exact ⟨⟨_, rfl, hdemands⟩, hcalls, fun hget => absurd hget hop⟩
    | looked hdemands hcalls =>
      obtain rfl := List.mem_singleton.mp (hcalls ▸ hcall)
      refine ⟨⟨_, rfl, hdemands⟩, ?_, fun _ => hcalls⟩
      simp [hcalls]
    | unguarded _ _ _ _ hcalls _ => simp [hcalls] at hcall
    | guarded _ _ _ hcalls => simp [hcalls] at hcall
    | drawn _ _ _ hcalls => simp [hcalls] at hcall
    | deleting _ hcalls => simp [hcalls] at hcall
    | releasing _ _ hcalls => simp [hcalls] at hcall
    | idle _ hcalls => simp [hcalls] at hcall

lemma finalizerWrites_eq_nil {r : Resource} (h : Decided c st s trail)
    (hfirst : firstRead? trail = some (.ok (some r))) (hmarked : ¬ MayBeMarked c r) :
    finalizerWrites trail = [] := by
  cases h with
  | opening _ _ hwrites => exact hwrites
  | nothing hsome hnothing _ =>
    cases hsome.symm.trans hfirst
    exact absurd rfl (hnothing r)
  | taken hsome hmark _ =>
    cases hsome.symm.trans hfirst
    by_contra hwrites
    exact hmarked (hmark hwrites)

end Decided

/-! ## The errand -/

/-- The errand of a pass: what it has asked of the gateway, in view of what the first look at the
store returned and of what is left to do. -/
structure OneErrand {α : Type} (c : Config) (found : Option Resource) (rest : Program α)
    (trail : List Exchange) : Prop where
  /-- Whatever is called is called for by what was found, which calls for nothing else. -/
  demanded : ∀ call ∈ calls trail, ∃ r, found = some r ∧ Demands c r call ∧
    ∀ call', Demands c r call' → call'.operation = call.operation
  /-- All calls are the same. -/
  repeated : ∀ call ∈ calls trail, ∀ call' ∈ calls trail, call' = call
  /-- A target is looked at once. -/
  looked : ∀ call ∈ calls trail, call.operation = .get → calls trail = [call]
  /-- Nothing is written to the finalizers of a resource that is not valid, unless it is being
  deleted. -/
  unmarked : ∀ r e, found = some r → r.isBeingDeleted = false →
    validate c.defaultGateway r = .error e → finalizerWrites trail = []
  /-- What is called for is called, once the finalizer is in place; it may be cut short. -/
  begun : ∀ r call outcome, found = some r → Demands c r call → Guarded r trail →
    rest = .done outcome → ∃ call' raced before, ⟨.gateway call', raced, before⟩ ∈ trail ∧
      ((∀ x ∈ trail, ¬ x.IsCancelled) → ∃ reply, raced = .finished reply)

lemma mem_calls {call : Call} {trail : List Exchange} (h : call ∈ calls trail) :
    ∃ raced before, ⟨.gateway call, raced, before⟩ ∈ trail := by
  obtain ⟨⟨q, answer, before⟩, hx, hcall⟩ := List.mem_filterMap.mp h
  cases q with
  | gateway call' =>
    obtain rfl := Option.some.inj hcall
    exact ⟨answer, before, hx⟩
  | _ => cases hcall

/-- However others interfere with a pass and whatever it is answered, what its first look at the
store found decides which call it makes, if any: one operation with one set of arguments. -/
theorem pass_has_one_errand {c : Config} {ns name : String} {rest : Pass Error Directive}
    {s : Store.InMemory} {trail : List Exchange} {found : Option Resource}
    (h : Trail (reconcile c ns name).run rest.run s trail)
    (hfirst : firstRead? trail = some (.ok found)) : OneErrand c found rest.run trail := by
  obtain ⟨st, hrest, hdecided⟩ := h.exists_follows Decided.stable (reconcile_paces c ns name)
  refine ⟨fun call hcall => ?_, fun call hcall => ?_, fun call hcall hget => ?_, ?_, ?_⟩
  · obtain ⟨⟨r, hr, hdemands⟩, -, -⟩ := hdecided.of_mem_calls hfirst hcall
    exact ⟨r, hr, hdemands, fun call' => hdemands.operation_eq⟩
  · exact (hdecided.of_mem_calls hfirst hcall).2.1
  · exact (hdecided.of_mem_calls hfirst hcall).2.2 hget
  · rintro r e rfl hdel hv
    refine hdecided.finalizerWrites_eq_nil hfirst ?_
    rintro (hmarked | ⟨v, hok⟩)
    · cases hmarked.symm.trans hdel
    · cases hok.symm.trans hv
  · rintro r call outcome rfl hdemands hguarded hdone
    rw [hdone] at hrest
    have hcalls : calls trail ≠ [] := hdecided.calls_ne_nil hrest hfirst hdemands hguarded
    obtain ⟨call', hcall'⟩ := List.exists_mem_of_ne_nil _ hcalls
    obtain ⟨raced, before, hx⟩ := mem_calls hcall'
    refine ⟨call', raced, before, hx, fun huncancelled => ?_⟩
    cases raced with
    | cancelled => exact absurd rfl (huncancelled _ hx)
    | finished reply => exact ⟨reply, rfl⟩

/-- The store that holds a resource whose target is registered but not yet seen operational. -/
def sampleRegisteredStore : Store.InMemory :=
  ({} : Store.InMemory).edit (.insert sampleRegistered)

/-- The resource as that store holds it. -/
def sampleRegisteredStored : Resource :=
  (sampleRegisteredStore.current "tools" "files").getD sampleRegistered

/-- A pass that finds this resource looks at its target once, and waits when that fails. -/
theorem looked_once_when_unsettled :
    ∃ (rest : Pass Error Directive) (s : Store.InMemory) (trail : List Exchange),
      Trail (reconcile sampleConfig "tools" "files").run rest.run s trail ∧
      firstRead? trail = some (.ok (some sampleRegisteredStored)) ∧
      calls trail = [.get "gw" "target-1"] ∧
      OneErrand sampleConfig (some sampleRegisteredStored) rest.run trail := by
  have hstart : Trail (reconcile sampleConfig "tools" "files").run _ _ _ := .start
  have hregistered := hstart.edited (.insert sampleRegistered)
  have hopened := hregistered.asked (q := .isCancelled) false rfl
  have hread := hopened.asked (q := .store (.get "tools" "files"))
    (.ok (some sampleRegisteredStored)) (.inl ⟨by decide +kernel, rfl⟩)
  have hlooked := hread.asked (q := .gateway (.get "gw" "target-1"))
    (.finished (.error (.transport "reset"))) rfl
  have hcounted := hlooked.asked (q := .countCall .get false) () rfl
  have hended := hcounted.asked (q := .fail "tools/files") (.ofSeconds 1) rfl
  exact ⟨_, _, _, hended, rfl, rfl, pass_has_one_errand hended rfl⟩

end TargetRegistrar.Controller
