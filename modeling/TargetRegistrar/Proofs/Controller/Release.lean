import TargetRegistrar.Proofs.Controller.Trail

/-!
# When the finalizer is detached

Deleting a target takes long, and the decision to delete it was taken on a copy.  Meanwhile others
may edit the specification or the status, or put another resource in the place.  The finalizer is
detached all the same only from a resource that is being deleted and whose own target is gone: the
write that detaches it is refused unless the copy is still what is stored.
-/

namespace TargetRegistrar.Controller

open Store Gateway Registration

/-- A call of the exchange confirmed that a gateway does not hold a target: the target was deleted,
or it was not found. -/
def Exchange.Confirms (x : Exchange) (gatewayId targetId : String) : Prop :=
  ∃ before outcome, x = ⟨.gateway (.delete gatewayId targetId), .finished outcome, before⟩ ∧
    (outcome = .ok () ∨ ∃ e, outcome = .error e ∧ e.isNotFound)

/-- No target is recorded for a resource, or the gateway of its specification has confirmed that
the recorded one is gone. -/
def CleanedUp (c : Config) (r : Resource) (trail : List Exchange) : Prop :=
  r.recordedTarget? = none ∨
    ∃ targetId gatewayId, r.recordedTarget? = some targetId ∧
      resolveGateway c.defaultGateway r.spec = .ok gatewayId ∧
      ∃ x ∈ trail, x.Confirms gatewayId targetId

/-- What holds of the copy while its target is deleted, and when the finalizer may be detached. -/
def Releasing (c : Config) : Phase → Store.InMemory → List Exchange → Prop
  | .deleting r gatewayId targetId, s, _ =>
    s.Issued r ∧ r.isBeingDeleted ∧ r.recordedTarget? = some targetId ∧
      resolveGateway c.defaultGateway r.spec = .ok gatewayId
  | .released r, s, trail => s.Issued r ∧ r.isBeingDeleted ∧ CleanedUp c r trail
  | _, _, _ => True

namespace Releasing

variable {c : Config} {ns name : String} {ph ph' : Phase} {s s' : Store.InMemory}
  {trail : List Exchange}

/-- Others cannot break what holds of a copy. -/
lemma touched (h : Releasing c ph s trail) (ht : s.Touch s') : Releasing c ph s' trail := by
  cases ph with
  | deleting r gatewayId targetId => exact ⟨h.1.touch ht, h.2⟩
  | released r => exact ⟨h.1.touch ht, h.2⟩
  | _ => trivial

lemma weaken {x : Exchange} (h : Releasing c ph s trail) : Releasing c ph s (x :: trail) := by
  cases ph with
  | released r =>
    obtain ⟨hissued, hdel, hrec | ⟨t, gw, hrec, hgw, y, hy, hconfirms⟩⟩ := h
    · exact ⟨hissued, hdel, .inl hrec⟩
    · exact ⟨hissued, hdel, .inr ⟨t, gw, hrec, hgw, y, List.mem_cons_of_mem x hy, hconfirms⟩⟩
  | _ => exact h

lemma moved {q : Query} {answer : q.Answer} (hs : s.Orderly) (h : Releasing c ph s trail)
    (hm : Moves c ns name ph q answer ph') (ha : Answers s q answer s') :
    Releasing c ph' s' (⟨q, answer, s⟩ :: trail) := by
  have ht : s.Touch s' := ha.touch hs
  cases hm with
  | idle _ _ => exact (h.touched ht).weaken
  | failed _ _ => exact (h.touched ht).weaken
  | read hbegins =>
    have hissued := Store.InMemory.Serves.issued hs ha
    cases hbegins with
    | released hdel _ hrec => exact ⟨hissued, hdel, .inl hrec⟩
    | deleting hdel _ hrec hgw => exact ⟨hissued, hdel, hrec, hgw⟩
    | _ => trivial
  | called hcalls hreply =>
    cases hcalls with
    | delete =>
      obtain ⟨hissued, hdel, hrec, hgw⟩ := h
      have hconfirms := settle_delete_eq_ok hreply
      exact ⟨hissued.touch ht, hdel, .inr ⟨_, _, hrec, hgw, _, List.mem_cons_self,
        s, _, rfl, hconfirms⟩⟩
    | _ => trivial
  | _ => trivial

lemma stable : Stable (Moves c ns name) .opening (Releasing c) where
  opening _ := trivial
  touched := touched
  moved := moved

end Releasing

/-- Whenever a write of a pass takes the finalizer away, whatever others have written in between,
the resource stored immediately before was being deleted, and it recorded no target or else the
gateway of its own specification had answered in this pass that the recorded one is gone. -/
theorem detached_only_when_cleaned_up {c : Config} {ns name : String} {rest : Pass Error Directive}
    {s before : Store.InMemory} {trail earlier : List Exchange} {copy written : Resource}
    {finalizers : List String} (h : Trail (reconcile c ns name).run rest.run s trail)
    (hlift :
      ⟨.store (.replaceFinalizers copy finalizers), .ok written, before⟩ :: earlier <:+ trail)
    (hgone : finalizer ∉ finalizers) :
    ∃ stored, before.objects.get? (location copy) = some stored ∧ stored.isBeingDeleted ∧
      CleanedUp c stored earlier := by
  obtain ⟨ph, ph', s', hAt, hmoves, hserved⟩ := h.exists_move Releasing.stable hlift
  obtain ⟨stored, hwritten⟩ := Store.InMemory.Serves.replaceFinalizers hserved
  cases hmoves with
  | idle _ hidle => cases hidle
  | attach => simp at hgone
  | detach _ =>
    obtain ⟨hissued, hdel, hclean⟩ := hAt
    obtain rfl := hwritten.stored_eq hissued
    exact ⟨stored, hwritten.found, hdel, hclean⟩

/-- A configuration without a default gateway. -/
def sampleConfig : Config := ⟨none, .disabled, .ofSeconds 30⟩

/-- A configuration whose calls are repeated. -/
def sampleRepeating : Config := ⟨none, .standard, .ofSeconds 30⟩

/-- A resource whose target is registered. -/
def sampleRegistered : Resource where
  metadata := { name := some "files", ns := some "tools", uid := some "u1",
                generation := some 1, finalizers := some [finalizer] }
  spec := { endpoint := "https://files.example", capabilities := ["tools"],
            gatewayId := some "gw" }
  status := some { observedGeneration := some 1, targetId := some "target-1" }

/-- The store in which that resource is marked for deletion. -/
def sampleStore : Store.InMemory :=
  (({} : Store.InMemory).edit (.insert sampleRegistered)).edit (.markDeleted "tools" "files")

/-- The resource as that store holds it. -/
def sampleMarked : Resource :=
  (sampleStore.current "tools" "files").getD sampleRegistered

/-- A pass that finds a resource marked for deletion deletes its target and detaches the
finalizer. -/
theorem detached_after_delete :
    ∃ (rest : Pass Error Directive) (s before : Store.InMemory) (trail earlier : List Exchange)
      (copy written : Resource),
      Trail (reconcile sampleConfig "tools" "files").run rest.run s trail ∧
      ⟨.store (.replaceFinalizers copy []), .ok written, before⟩ :: earlier <:+ trail ∧
      finalizer ∉ ([] : List String) ∧
      ∃ stored, before.objects.get? (location copy) = some stored ∧ stored.isBeingDeleted ∧
        CleanedUp sampleConfig stored earlier := by
  have hstart : Trail (reconcile sampleConfig "tools" "files").run _ _ _ := .start
  have hmarked := (hstart.edited (.insert sampleRegistered)).edited (.markDeleted "tools" "files")
  have hopened := hmarked.asked (q := .isCancelled) false rfl
  have hread := hopened.asked (q := .store (.get "tools" "files"))
    (.ok (some sampleMarked)) (.inl ⟨by decide +kernel, rfl⟩)
  have hdeleted := hread.asked (q := .gateway (.delete "gw" "target-1"))
    (.finished (.ok ())) rfl
  have hcounted := hdeleted.asked (q := .countCall .delete true) () rfl
  have hdetached := hcounted.asked (q := .store (.replaceFinalizers sampleMarked []))
    (.ok (sampleStore.stamped (Store.InMemory.withFinalizers sampleMarked [])))
    (.inl ⟨by decide +kernel, rfl⟩)
  exact ⟨_, _, _, _, _, _, _, hdetached, List.suffix_rfl, List.not_mem_nil,
    detached_only_when_cleaned_up hdetached List.suffix_rfl List.not_mem_nil⟩

end TargetRegistrar.Controller
