import TargetRegistrar.Proofs.Fleet.Records
import TargetRegistrar.Proofs.Registration.Acceptance

/-!
# Targets that nobody looks after

A target that is still held belongs to a resource that is still stored with the finalizer, or the
controller has detached the finalizer from that resource.  When it did, the status of the resource
did not record the target, or the gateway had denied that there is such a target.  These are the
two ways in which a target can be left behind, and both occur: the create may have succeeded
without its result ever being recorded, and an answer that a target was not found may be wrong.

Users keep to one gateway for each resource.
-/

namespace TargetRegistrar.Fleet

open Store Gateway Controller Registration

/-- Edits that leave the gateway of a specification as it is. -/
def KeepsGateway (f : Spec → Spec) : Prop :=
  ∀ spec, (f spec).gatewayId = spec.gatewayId

lemma Evolves.gatewayId {r s : Resource} (h : Evolves KeepsGateway r s) :
    s.spec.gatewayId = r.spec.gatewayId := by
  induction h with
  | same hspec _ => rw [hspec]
  | edited _ hf hspec _ ih => rw [hspec, hf, ih]

/-- A resource that is stored with the finalizer has an identity. -/
def Guarded (w : World) (r : Resource) : Prop :=
  ∃ place s, w.store.objects.get? place = some s ∧ s.metadata.uid = r.metadata.uid ∧
    s.hasFinalizer finalizer

/-- The resources from which the controller has detached the finalizer. -/
def World.detachedFrom (w : World) : List Resource :=
  w.deeds.filterMap fun
    | .detached r => some r
    | _ => none

lemma mem_detachedFrom {w : World} {r : Resource} :
    r ∈ w.detachedFrom ↔ .detached r ∈ w.deeds := by
  unfold World.detachedFrom
  rw [List.mem_filterMap]
  constructor
  · rintro ⟨d, hd, hr⟩
    split at hr
    · cases hr
      exact hd
    · cases hr
  · exact fun hd => ⟨_, hd, rfl⟩

/-- A target is gone, or a gateway that held it has denied that. -/
def Dismissed (w : World) (t : String) : Prop :=
  w.gateway.targets.get? t = none ∨ .denied t ∈ w.deeds

/-- What is known of the targets that were created for resources. -/
structure Sheltered (c : Config) (w : World) : Prop where
  inserted : ∀ {r request t}, .created (some r) request t ∈ w.deeds →
    ∃ r₀, .inserted r₀ ∈ w.deeds ∧ r₀.metadata.uid = r.metadata.uid
  gateway : ∀ {r request t place s}, .created (some r) request t ∈ w.deeds →
    w.store.objects.get? place = some s → s.metadata.uid = r.metadata.uid →
    resolveGateway c.defaultGateway s.spec = .ok request.gatewayId
  guarded : ∀ {r request t}, .created (some r) request t ∈ w.deeds →
    Guarded w r ∨ ∃ d, .detached d ∈ w.deeds ∧ d.metadata.uid = r.metadata.uid
  given : ∀ {d t}, .detached d ∈ w.deeds → d.recordedTarget? = some t → w.gateway.Given t
  dismissed : ∀ {r request t d}, .created (some r) request t ∈ w.deeds → .detached d ∈ w.deeds →
    d.metadata.uid = r.metadata.uid → d.recordedTarget? = some t → Dismissed w t

/-- What is known while a target is deleted, and when the finalizer may be detached. -/
def Dismissing (w : World) : Phase → Prop
  | .deleting r gatewayId t => r.recordedTarget? = some t ∧ ∀ r' request,
    .created (some r') request t ∈ w.deeds → r'.metadata.uid = r.metadata.uid →
      request.gatewayId = gatewayId
  | .released r => ∀ r' request t, r.recordedTarget? = some t →
    .created (some r') request t ∈ w.deeds → r'.metadata.uid = r.metadata.uid → Dismissed w t
  | _ => True

def shelter (c : Config) : Assertion where
  Holds := Sheltered c
  At _ ph _ w := Dismissing w ph

variable {c : Config} {w w' : World} {place : Location} {ph ph' : Phase}
  {copy copy' : Option Resource} {a : Act} {inserts : Resource → Prop}
  {edits : (Spec → Spec) → Prop}

/-! ## Resources with the finalizer -/

lemma Guarded.act {r : Resource} (h : Guarded w r) (ha : Users inserts edits w a) :
    Guarded (w.act a) r := by
  obtain ⟨p, s, hs, huid, hguard⟩ := h
  obtain ⟨s', hs', hturn⟩ := guarded_act ha.respectful hs hguard
  exact ⟨p, s', hs', hturn.uid.trans huid, hturn.guard ▸ hguard⟩

/-- Only detaching the finalizer ends the protection of a resource. -/
lemma Guarded.stride {r : Resource} (h : Guarded w r) (hph : Tended edits place ph w)
    (hw : Identified w) (hs : Stride c place w ph copy w' ph' copy') :
    Guarded w' r ∨ ∃ d, .detached d ∈ w'.deeds ∧ d.metadata.uid = r.metadata.uid := by
  obtain ⟨p, s, hstored, huid, hguard⟩ := h
  obtain ⟨-, hothers⟩ := stride_store hw.orderly hph.grounded hs
  by_cases hp : p = place
  · subst hp
    cases hs with
    | refused hsame _ => exact .inl ⟨p, s, by rw [hsame.objects, hstored], huid, hguard⟩
    | attached hwritten =>
      obtain rfl := hph.grounded.found rfl hwritten.found hstored
      have hself := hwritten.get?_self (by simp)
      rw [(hph.basis _ rfl).2] at hself
      refine .inl ⟨p, _, hself, ?_, ?_⟩
      · rw [hwritten.result]
        exact huid
      · rw [hwritten.result]
        exact hasFinalizer_attached ..
    | wrote hwritten =>
      obtain rfl := hph.grounded.found rfl hwritten.found hstored
      have hself := hwritten.get?_self
      rw [(hph.basis _ rfl).2] at hself
      refine .inl ⟨p, _, hself, ?_, ?_⟩
      · rw [hwritten.result]
        exact huid
      · rw [hwritten.result]
        exact hguard
    | detached hwritten =>
      obtain rfl := hph.grounded.found rfl hwritten.found hstored
      exact .inr ⟨_, List.mem_cons_self, huid⟩
    | _ => exact .inl ⟨p, s, hstored, huid, hguard⟩
  · exact .inl ⟨p, s, (hothers p hp).trans hstored, huid, hguard⟩

/-! ## Targets that are gone -/

lemma Dismissed.noCreate {t : String} (h : Dismissed w t) (hsame : NoCreate w w')
    (hdeeds : ∀ d, d ∈ w.deeds → d ∈ w'.deeds) : Dismissed w' t := by
  obtain hgone | hdenied := h
  · refine .inl (Option.eq_none_iff_forall_ne_some.mpr fun held hheld => ?_)
    obtain ⟨_, hbefore, -⟩ := hsame.gateway.targets hheld
    cases hgone.symm.trans hbefore
  · exact .inr (hdeeds _ hdenied)

/-- A target that is gone does not come back, because identifiers are given once. -/
lemma Dismissed.stride {t : String} (h : Dismissed w t) (hgiven : w.gateway.Given t)
    (hs : Stride c place w ph copy w' ph' copy') : Dismissed w' t := by
  have hdeeds : ∀ d, d ∈ w.deeds → d ∈ w'.deeds := fun _ => mem_deeds_stride hs
  obtain hsame | ⟨_, _, _, -, -, -, ⟨_, hnew⟩ | hnew⟩ := stride_cases hs
  · exact h.noCreate hsame hdeeds
  · obtain hgone | hdenied := h
    · exact .inl (hnew.gateway.targets ▸ hgone)
    · exact .inr (hdeeds _ hdenied)
  · obtain hgone | hdenied := h
    · have hne : t ≠ w.gateway.nextId := by
        rintro rfl
        exact w.gateway.not_given_nextId hgiven
      exact .inl (by rw [hnew.targets, Table.get?_insert, if_neg hne, hgone])
    · exact .inr (hdeeds _ hdenied)

/-- A target that a delete has got rid of, by its success or because it was not found. -/
lemma dismissed_of_delete {time : Nat} {gatewayId t : String} {r : Resource}
    {request : CreateRequest} (hw : Accounted w) (hd : .created (some r) request t ∈ w.deeds)
    (hgateway : request.gatewayId = gatewayId)
    (hreply : settle (.delete gatewayId t) (w.gateway.serve time (.delete gatewayId t)).1 =
      .ok ()) : Dismissed (w.afterCall copy time (.delete gatewayId t)) t := by
  have hserved := w.gateway.serve_served time (.delete gatewayId t)
  have hsettled := settle_delete_eq_ok hreply
  unfold World.afterCall
  generalize (w.gateway.serve time (.delete gatewayId t)).1 = outcome at hserved hsettled ⊢
  generalize (w.gateway.serve time (.delete gatewayId t)).2 = g at hserved ⊢
  cases hserved with
  | deleted htargets _ _ =>
    refine .inl ?_
    rw [htargets, Table.get?_erase, if_pos rfl]
  | failed e hsame =>
    obtain herror | ⟨e', herror, hmissing⟩ := hsettled
    · cases herror
    · obtain rfl : e = e' := Except.error.inj herror
      cases hheld : w.gateway.heldBy? gatewayId t with
      | some held =>
        refine .inr (List.mem_append_left _ ?_)
        simp [deedsOfCall, hmissing, hheld]
      | none =>
        refine .inl (Option.eq_none_iff_forall_ne_some.mpr fun held ht => ?_)
        rw [hsame.targets] at ht
        obtain ⟨copy₀, request₀, hd₀, hsource⟩ := hw.source ht
        obtain ⟨-, rfl⟩ := hw.unique hd hd₀
        simp [Gateway.InMemory.heldBy?, ht, hsource.trans hgateway] at hheld

/-! ## The invariant -/

lemma sheltered_act (h : Sheltered c w) (ha : Users inserts KeepsGateway w a) :
    Sheltered c (w.act a) := by
  have hsame := noCreate_act w a
  have hdeeds : ∀ d, d ∈ w.deeds → d ∈ (w.act a).deeds := fun _ => mem_deeds_act a
  constructor
  case inserted =>
    intro r request t hd
    obtain ⟨r₀, hd₀, huid⟩ := h.inserted ((hsame.created ..).mp hd)
    exact ⟨r₀, hdeeds _ hd₀, huid⟩
  case gateway =>
    intro r request t place s' hd hs' huid
    have hcreated := (hsame.created ..).mp hd
    obtain ⟨r₀, rfl, -, rfl⟩ | ⟨s, hs, hturn⟩ := stored_act ha.respectful hs'
    · obtain ⟨r₁, hd₁, huid₁⟩ := h.inserted hcreated
      exact absurd (huid₁.trans huid.symm) (ha.1.unused r₁ hd₁)
    · have hgateway := h.gateway hcreated hs (hturn.uid.symm.trans huid)
      obtain ⟨hspec, -⟩ | ⟨f, hf, hspec, -⟩ := hturn.spec
      · rwa [hspec]
      · rw [hspec, resolveGateway_congr _ (hf s.spec), hgateway]
  case guarded =>
    intro r request t hd
    obtain hguarded | ⟨d, hd', huid⟩ := h.guarded ((hsame.created ..).mp hd)
    · exact .inl (hguarded.act ha)
    · exact .inr ⟨d, hdeeds _ hd', huid⟩
  case given =>
    intro d t hd ht
    exact (h.given (detached_act hd) ht).mono (Nat.le_of_eq hsame.gateway.lastId.symm)
  case dismissed =>
    intro r request t d hd hd' huid ht
    have hbefore := h.dismissed ((hsame.created ..).mp hd) (detached_act hd') huid ht
    exact hbefore.noCreate hsame hdeeds

lemma dismissing_act (h : Dismissing w ph) : Dismissing (w.act a) ph := by
  have hsame := noCreate_act w a
  cases ph with
  | deleting r gatewayId t =>
    exact ⟨h.1, fun r' request hd => h.2 r' request ((hsame.created ..).mp hd)⟩
  | released r =>
    intro r' request t ht hd huid
    exact (h r' request t ht ((hsame.created ..).mp hd) huid).noCreate hsame
      fun _ => mem_deeds_act a
  | _ => trivial

lemma sheltered_stride (hw : (recorded c KeepsGateway).Holds w)
    (hph : (recorded c KeepsGateway).At place ph copy w) (h : Sheltered c w)
    (hdismissing : Dismissing w ph)
    (hs : Stride c place w ph copy w' ph' copy') : Sheltered c w' := by
  obtain ⟨⟨⟨haccounted, hidentified⟩, -⟩, hrecords⟩ := hw
  obtain ⟨⟨⟨hcopy, htended⟩, hvalid⟩, -⟩ := hph
  have hdeeds : ∀ d, d ∈ w.deeds → d ∈ w'.deeds := fun _ => mem_deeds_stride hs
  -- the copy for which a new target has been created is in custody
  have hnew : ∀ {r v}, ph = .guarded r v → ∃ s, w.store.objects.get? place = some s ∧
      Matches KeepsGateway r s := fun hph => htended.ward _ (hph ▸ rfl)
  constructor
  case inserted =>
    intro r request t hd
    obtain hd | ⟨v, hguarded, -, -⟩ := created_stride hcopy hs hd
    · obtain ⟨r₀, hd₀, huid⟩ := h.inserted hd
      exact ⟨r₀, hdeeds _ hd₀, huid⟩
    · obtain ⟨s, hstored, hmatches⟩ := hnew hguarded
      obtain ⟨r₀, hd₀, huid⟩ := hidentified.inserted hstored
      exact ⟨r₀, hdeeds _ hd₀, huid.trans hmatches.uid⟩
  case gateway =>
    intro r request t p s' hd hs' huid
    obtain ⟨s, hstored, hturn, -⟩ := stride_turn htended.grounded hs hs'
    rw [hturn.spec]
    obtain hd | ⟨v, hguarded, hreq, -⟩ := created_stride hcopy hs hd
    · exact h.gateway hd hstored (hturn.uid.symm.trans huid)
    · obtain ⟨s₀, hstored₀, hmatches⟩ := hnew hguarded
      have hplace := hidentified.alone hstored hstored₀
        (hturn.uid.symm.trans (huid.trans hmatches.uid.symm))
      rw [hplace, hstored₀] at hstored
      cases hstored
      subst hguarded
      obtain ⟨config, -, hrequest⟩ := createRequest_eq_ok hreq.built
      rw [resolveGateway_congr _ hmatches.spec.gatewayId, resolveGateway_of_validate hvalid,
        show request.gatewayId = v.gatewayId from congrArg CreateRequest.gatewayId hrequest]
  case guarded =>
    intro r request t hd
    obtain hd | ⟨v, hguarded, -, -⟩ := created_stride hcopy hs hd
    · obtain hguarded | ⟨d, hd', huid⟩ := h.guarded hd
      · exact hguarded.stride htended hidentified hs
      · exact .inr ⟨d, hdeeds _ hd', huid⟩
    · obtain ⟨s, hstored, hmatches⟩ := hnew hguarded
      have hguarded' : Guarded w r := ⟨place, s, hstored, hmatches.uid, hmatches.guard⟩
      exact hguarded'.stride htended hidentified hs
  case given =>
    intro d t hd ht
    obtain hd | ⟨-, hstored⟩ := detached_stride htended.grounded hs hd
    · exact Given.stride (h.given hd ht) hs
    · obtain ⟨r, ⟨request, hd | hd⟩, -⟩ := hrecords place d t hstored ht
      · exact Given.stride (haccounted.given hd) hs
      · obtain ⟨-, _, _, hd, -⟩ := haccounted.recalled hd
        exact Given.stride (haccounted.given hd) hs
  case dismissed =>
    intro r request t d hd hd' huid ht
    obtain hd | ⟨v, hguarded, -, rfl⟩ := created_stride hcopy hs hd
    · have hgiven := haccounted.given hd
      obtain hd' | ⟨rfl, -⟩ := detached_stride htended.grounded hs hd'
      · exact (h.dismissed hd hd' huid ht).stride hgiven hs
      · exact (hdismissing r request t ht hd huid.symm).stride hgiven hs
    · obtain hd' | ⟨hreleased, -⟩ := detached_stride htended.grounded hs hd'
      · exact absurd (h.given hd' ht) w.gateway.not_given_nextId
      · cases hguarded.symm.trans hreleased

lemma dismissing_stride (hw : Accounted w) (hcopy : ∀ r v, ph = .guarded r v → copy = some r)
    (h : Sheltered c w) (hdismissing : Dismissing w ph)
    (hs : Stride c place w ph copy w' ph' copy') : Dismissing w' ph' := by
  have hcreated : ∀ {r request t}, (∀ v, ph ≠ .guarded r v) →
      .created (some r) request t ∈ w'.deeds → .created (some r) request t ∈ w.deeds := by
    intro r request t hne hd
    obtain hd | ⟨v, hguarded, -, -⟩ := created_stride hcopy hs hd
    · exact hd
    · exact absurd hguarded (hne v)
  cases hs with
  | quiet => exact hdismissing
  | read hstored hbegins =>
    cases hbegins with
    | released _ _ hrec => exact fun _ _ t ht _ _ => nomatch hrec.symm.trans ht
    | deleting _ _ hrec hgateway =>
      refine ⟨hrec, fun r' request hd huid => ?_⟩
      have hresolved := h.gateway hd hstored huid.symm
      exact Except.ok.inj (hresolved.symm.trans hgateway)
    | _ => trivial
  | refused _ hph =>
    obtain rfl | ⟨_, _, _, -, rfl⟩ := hph <;> trivial
  | tried time hcalls =>
    cases hcalls with
    | delete =>
      obtain ⟨hrec, hgateway⟩ := hdismissing
      exact ⟨hrec, fun r' request hd => hgateway r' request (hcreated (by simp) hd)⟩
    | _ => trivial
  | succeeded time hcalls hreply =>
    cases hcalls with
    | delete =>
      obtain ⟨hrec, hgateway⟩ := hdismissing
      intro r' request t' ht' hd huid
      obtain rfl := Option.some.inj (hrec.symm.trans ht')
      have hd := hcreated (by simp) hd
      exact dismissed_of_delete hw hd (hgateway r' request hd huid) hreply
    | _ => trivial
  | _ => trivial

/-- No other pass makes a target for a resource that is being released. -/
lemma dismissing_other {place₂ : Location} {ph₂ : Phase} (hw : (recorded c KeepsGateway).Holds w)
    (hph : (recorded c KeepsGateway).At place ph copy w)
    (htended₂ : Tended KeepsGateway place₂ ph₂ w) (h : Dismissing w ph₂) (hne : place₂ ≠ place)
    (hs : Stride c place w ph copy w' ph' copy') : Dismissing w' ph₂ := by
  obtain ⟨⟨⟨haccounted, hidentified⟩, -⟩, -⟩ := hw
  obtain ⟨⟨⟨hcopy, htended⟩, -⟩, -⟩ := hph
  have hcreated : ∀ {r r' request t}, ph₂.ward? = some r → r'.metadata.uid = r.metadata.uid →
      .created (some r') request t ∈ w'.deeds → .created (some r') request t ∈ w.deeds := by
    intro r r' request t hward huid hd
    obtain hd | ⟨v, hguarded, -, -⟩ := created_stride hcopy hs hd
    · exact hd
    · have hward' : ph.ward? = some r' := hguarded ▸ rfl
      exact absurd (ward_unique hidentified htended htended₂ hward' hward huid) hne
  cases ph₂ with
  | deleting r gatewayId t =>
    exact ⟨h.1, fun r' request hd huid => h.2 r' request (hcreated rfl huid hd) huid⟩
  | released r =>
    intro r' request t ht hd huid
    have hd := hcreated rfl huid hd
    exact (h r' request t ht hd huid).stride (haccounted.given hd) hs
  | _ => trivial

lemma shelter_inductive :
    Inductive c (Users inserts KeepsGateway) (recorded c KeepsGateway) (shelter c) where
  empty :=
    { inserted := fun h => nomatch h
      gateway := fun h => nomatch h
      guarded := fun h => nomatch h
      given := fun h => nomatch h
      dismissed := fun h => nomatch h }
  opening _ := trivial
  act _ h ha := sheltered_act h ha
  actAt _ _ _ h _ := dismissing_act h
  stride hw hph h hdismissing hs := by
    refine ⟨sheltered_stride hw hph h hdismissing hs, ?_⟩
    obtain ⟨⟨⟨haccounted, -⟩, -⟩, -⟩ := hw
    obtain ⟨⟨⟨hcopy, -⟩, -⟩, -⟩ := hph
    exact dismissing_stride haccounted hcopy h hdismissing hs
  strideAt hw hph hph₂ _ _ h hne hs := by
    obtain ⟨⟨⟨-, htended₂⟩, -⟩, -⟩ := hph₂
    exact dismissing_other hw hph htended₂ h hne hs

/-! ## Leaks -/

/-- At any time a target that the gateway holds, and has not denied to hold, belongs to a resource
that is still stored with the finalizer, unless the controller has detached the finalizer from that
resource; and when it did so, the resource did not record that target. -/
theorem held_target_guarded {f : State} {r : Resource} {t : String}
    (hf : Reachable c (Users inserts KeepsGateway) f) (h : f.world.HoldsFor r t)
    (hdenied : .denied t ∉ f.world.deeds) :
    (Guarded f.world r ∨ ∃ d, .detached d ∈ f.world.deeds ∧ d.metadata.uid = r.metadata.uid) ∧
      ∀ d, .detached d ∈ f.world.deeds → d.metadata.uid = r.metadata.uid →
        d.recordedTarget? ≠ some t := by
  obtain ⟨-, hsheltered⟩ :=
    (hf.satisfies (recorded_inductive.and shelter_inductive)).1
  obtain ⟨hheld, hmaker⟩ := h
  obtain ⟨request, hd⟩ := mem_makers.mp hmaker
  refine ⟨hsheltered.guarded hd, fun d hd' huid ht => ?_⟩
  obtain hgone | hdenies := hsheltered.dismissed hd hd' huid ht
  · simp [hgone] at hheld
  · exact hdenied hdenies

/-- A registered target belongs to its resource. -/
theorem held_target_guarded_once_registered :
    ∃ f r t, Reachable exampleConfig (Users (fun _ => True) KeepsGateway) f ∧
      f.world.HoldsFor r t ∧ .denied t ∉ f.world.deeds ∧
      (Guarded f.world r ∨ ∃ d, .detached d ∈ f.world.deeds ∧ d.metadata.uid = r.metadata.uid) ∧
      ∀ d, .detached d ∈ f.world.deeds → d.metadata.uid = r.metadata.uid →
        d.recordedTarget? ≠ some t := by
  obtain ⟨w, hreachable, hheld, hdenied, r, hr⟩ : ∃ w : World,
      Reachable exampleConfig (Users (fun _ => True) KeepsGateway) { world := w } ∧
      (w.gateway.targets.get? "target-1").isSome ∧ .denied "target-1" ∉ w.deeds ∧
      ∃ r ∈ w.makers "target-1", r.metadata.uid = some "u1" :=
    ⟨_, Reachable.start.after registered ⟨⟨freshInsert_example, trivial⟩, trivial⟩,
      by decide +kernel⟩
  exact ⟨_, r, _, hreachable, ⟨hheld, hr.1⟩, hdenied,
    held_target_guarded hreachable ⟨hheld, hr.1⟩ hdenied⟩

/-- A target is created, but other writers keep the controller from recording it; then the resource
is marked for deletion. -/
def deletedUnrecorded : List Event :=
  [.act (.edit (.insert exampleResource)), .act (.edit (.injectStatusConflicts 3)),
    .pass ("tools", "files"), .act (.edit (.markDeleted "tools" "files")),
    .pass ("tools", "files")]

/-- A registered resource is marked for deletion, and the gateway answers wrongly that there is no
such target. -/
def deletedDenied : List Event :=
  registered ++ [.act (.edit (.markDeleted "tools" "files")),
    .act (.failNext .delete (.api notFoundCode "")), .pass ("tools", "files")]

lemma not_guarded_of_empty {r : Resource} (h : w.store.objects = {}) : ¬ Guarded w r := by
  rintro ⟨place, s, hs, -⟩
  rw [h] at hs
  cases hs

/-- A target that is held need not belong to a resource that is stored with the finalizer, even if
the gateway never denied to hold it, and even if it was recorded whenever the finalizer was
detached. -/
theorem not_held_target_guarded :
    (¬ ∀ {c f r t}, Reachable c (Users (fun _ => True) KeepsGateway) f →
      (∀ place, f.passes place = none) → f.world.HoldsFor r t →
      .denied t ∉ f.world.deeds → Guarded f.world r) ∧
    ¬ ∀ {c f r t}, Reachable c (Users (fun _ => True) KeepsGateway) f →
      (∀ place, f.passes place = none) → f.world.HoldsFor r t →
      (∀ d, .detached d ∈ f.world.deeds → d.recordedTarget? = some t) → Guarded f.world r := by
  constructor
  · intro h
    obtain ⟨w, hreachable, hheld, hdenied, hempty, r, hr, -⟩ : ∃ w : World,
        Reachable exampleConfig (Users (fun _ => True) KeepsGateway) { world := w } ∧
        (w.gateway.targets.get? "target-1").isSome ∧ .denied "target-1" ∉ w.deeds ∧
        w.store.objects = {} ∧ ∃ r ∈ w.makers "target-1", r.metadata.uid = some "u1" :=
      ⟨_, Reachable.start.after deletedUnrecorded
        ⟨⟨freshInsert_example, trivial⟩, trivial, trivial, trivial⟩, by decide +kernel⟩
    exact not_guarded_of_empty hempty (h hreachable (fun _ => rfl) ⟨hheld, hr⟩ hdenied)
  · intro h
    obtain ⟨w, hreachable, hheld, hdetached, hempty, r, hr, -⟩ : ∃ w : World,
        Reachable exampleConfig (Users (fun _ => True) KeepsGateway) { world := w } ∧
        (w.gateway.targets.get? "target-1").isSome ∧
        (∀ d ∈ w.detachedFrom, d.recordedTarget? = some "target-1") ∧
        w.store.objects = {} ∧ ∃ r ∈ w.makers "target-1", r.metadata.uid = some "u1" :=
      ⟨_, Reachable.start.after deletedDenied
        ⟨⟨freshInsert_example, trivial⟩, trivial, trivial, trivial⟩, by decide +kernel⟩
    exact not_guarded_of_empty hempty (h hreachable (fun _ => rfl) ⟨hheld, hr⟩
      fun d hd => hdetached d (mem_detachedFrom.mpr hd))

end TargetRegistrar.Fleet
