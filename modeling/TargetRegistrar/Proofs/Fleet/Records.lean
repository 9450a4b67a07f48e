import TargetRegistrar.Proofs.Controller.Recording
import TargetRegistrar.Proofs.Fleet.Custody

/-!
# Recorded targets

A resource records a target only if a create for that same resource has returned it.
-/

namespace TargetRegistrar.Fleet

open Store Gateway Controller

/-- A create for a copy of a resource returned a target. -/
def World.Returned (w : World) (r : Resource) (t : String) : Prop :=
  ∃ request, .created (some r) request t ∈ w.deeds ∨ .recalled (some r) request t ∈ w.deeds

/-- A create for some copy of the same incarnation returned a target. -/
def World.MadeFor (w : World) (s : Resource) (t : String) : Prop :=
  ∃ r, w.Returned r t ∧ r.metadata.uid = s.metadata.uid

/-- Recorded targets, and those that are to be recorded, have been returned by a create for the
resource. -/
def records : Assertion where
  Holds w := ∀ place s t, w.store.objects.get? place = some s → s.recordedTarget? = some t →
    w.MadeFor s t
  At _ ph _ w := ∀ r generation target, ph.pending? = some (r, .created generation target) →
    w.Returned r target.targetId

variable {c : Config} {inserts : Resource → Prop} {edits : (Spec → Spec) → Prop}
  {w w' : World} {place : Location} {ph ph' : Phase} {copy copy' : Option Resource}

lemma World.Returned.mono {r : Resource} {t : String} (h : w.Returned r t)
    (hdeeds : ∀ d, d ∈ w.deeds → d ∈ w'.deeds) : w'.Returned r t := by
  obtain ⟨request, hd | hd⟩ := h
  · exact ⟨request, .inl (hdeeds _ hd)⟩
  · exact ⟨request, .inr (hdeeds _ hd)⟩

/-- The reply to a create is remembered by a deed. -/
lemma returned_afterCall {r : Resource} {time : Nat} {request : CreateRequest}
    {reply : CreatedTarget}
    (h : (w.gateway.serve time (.create request)).1 = .ok reply) :
    (w.afterCall (some r) time (.create request)).Returned r reply.targetId := by
  refine ⟨request, ?_⟩
  unfold World.afterCall
  rw [h]
  by_cases hknown : (w.gateway.remembered? request.clientToken).isSome
  · exact .inr (by simp [deedsOfCall, hknown])
  · exact .inl (by simp [deedsOfCall, hknown])

lemma records_act {a : Act} (h : records.Holds w) (ha : Users inserts edits w a) :
    records.Holds (w.act a) := by
  intro place s' t hs' ht
  obtain ⟨r, rfl, -, rfl⟩ | ⟨s, hs, hturn⟩ := stored_act ha.respectful hs'
  · have hblank : (w.store.stamped r).recordedTarget? = none := by
      rw [Resource.recordedTarget?, show (w.store.stamped r).status = none from ha.1.blank]
      rfl
    cases hblank.symm.trans ht
  · rw [recordedTarget?_congr hturn.status] at ht
    obtain ⟨r, hreturned, huid⟩ := h place s t hs ht
    exact ⟨r, hreturned.mono fun _ => mem_deeds_act a, huid.trans hturn.uid.symm⟩

lemma records_stride (hph : Tended edits place ph w) (h : records.Holds w)
    (hpending : records.At place ph copy w) (hs : Stride c place w ph copy w' ph' copy') :
    records.Holds w' := by
  intro p s' t hs' ht
  have hmono : ∀ d, d ∈ w.deeds → d ∈ w'.deeds := fun _ => mem_deeds_stride hs
  obtain ⟨s, hstored, hturn, hstatus | ⟨r, change, now, rfl, rfl, hstatus⟩⟩ :=
    stride_turn hph.grounded hs hs'
  · rw [recordedTarget?_congr hstatus] at ht
    obtain ⟨r, hreturned, huid⟩ := h p s t hstored ht
    exact ⟨r, hreturned.mono hmono, huid.trans hturn.uid.symm⟩
  · have hrecorded := (recordedTarget?_written hstatus).symm.trans ht
    cases change with
    | created generation target =>
      obtain rfl : target.targetId = t := by
        simpa using (Option.filter_eq_some_iff.mp hrecorded).1
      have hmatches := hph.matches rfl hstored
      exact ⟨r, (hpending r generation target rfl).mono hmono,
        hmatches.uid.symm.trans hturn.uid.symm⟩
    | observed generation state =>
      obtain ⟨r', hreturned, huid⟩ := h p s t hstored hrecorded
      exact ⟨r', hreturned.mono hmono, huid.trans hturn.uid.symm⟩
    | condition condition =>
      obtain ⟨r', hreturned, huid⟩ := h p s t hstored hrecorded
      exact ⟨r', hreturned.mono hmono, huid.trans hturn.uid.symm⟩

lemma pending_stride (hcopy : ∀ r v, ph = .guarded r v → copy = some r)
    (hpending : records.At place ph copy w) (hs : Stride c place w ph copy w' ph' copy') :
    records.At place ph' copy' w' := by
  intro r generation target hph'
  have hmono : ∀ d, d ∈ w.deeds → d ∈ w'.deeds := fun _ => mem_deeds_stride hs
  cases hs with
  | quiet => exact hpending r generation target hph'
  | read _ hbegins => cases hbegins <;> cases hph'
  | refused _ hph =>
    obtain rfl | ⟨_, _, _, rfl, rfl⟩ := hph
    · cases hph'
    · exact hpending r generation target hph'
  | tried _ _ => exact (hpending r generation target hph').mono hmono
  | succeeded time hcalls hreply =>
    cases hcalls with
    | create _ _ =>
      obtain rfl := hcopy _ _ rfl
      cases hph'
      exact returned_afterCall hreply
    | _ => cases hph'
  | fetched hfetches _ =>
    cases hfetches with
    | changing _ => exact hpending r generation target hph'
    | _ => cases hph'
  | _ => cases hph'

/-- Recorded targets have been returned by a create for the resource, if users leave status and
finalizer alone. -/
lemma records_inductive : Inductive c (Users inserts edits) (common c edits) records where
  empty _ _ _ h := nomatch h
  opening _ _ _ _ h := nomatch h
  act _ h ha := records_act h ha
  actAt _ _ _ h _ r generation target hph :=
    (h r generation target hph).mono fun _ => mem_deeds_act _
  stride _ hph h hpending hs := by
    obtain ⟨⟨hcopy, htended⟩, -⟩ := hph
    exact ⟨records_stride htended h hpending hs, pending_stride hcopy hpending hs⟩
  strideAt _ _ _ _ _ h _ hs r generation target hph :=
    (h r generation target hph).mono fun _ => mem_deeds_stride hs

/-- Custody and records together. -/
def recorded (c : Config) (edits : (Spec → Spec) → Prop) : Assertion :=
  (common c edits).and records

lemma recorded_inductive : Inductive c (Users inserts edits) .none (recorded c edits) :=
  common_inductive.and records_inductive

/-- A target that a stored resource records was returned by a create for a copy of that resource. -/
theorem recorded_target_returned {f : State} {s : Resource} {t : String}
    (hf : Reachable c (Users inserts edits) f)
    (hs : f.world.store.objects.get? place = some s) (ht : s.recordedTarget? = some t) :
    f.world.MadeFor s t :=
  (hf.satisfies recorded_inductive).1.2 place s t hs ht

end TargetRegistrar.Fleet
