import TargetRegistrar.Proofs.Fleet.Leaks

/-!
# What a deletion reaches

Before the controller detaches the finalizer from a resource that records a target, it has the
gateway of the resource's specification delete that target.  So the target is gone, unless this
gateway denied that it held it or another gateway holds it.  The latter happens: a target lives on
the gateway that the specification named when it was created, and users may have named another one
since.

Users leave the status to the controller.  They may do anything else: edit specifications,
finalizers and gateways, and insert resources anywhere.
-/

namespace TargetRegistrar.Fleet

open Store Gateway Controller Registration

/-- Users insert resources that record no target, and they write no status. -/
def LeavesStatus : World → Act → Prop
  | _, .edit (.insert r) => r.recordedTarget? = none
  | _, .edit (.replaceStatus _ _) => False
  | _, _ => True

/-- A create for a copy that belongs in a place returned a target. -/
def World.ReturnedAt (w : World) (place : Location) (t : String) : Prop :=
  ∃ r, location r = place ∧ w.Returned r t

/-- A target was returned for the place of a resource, and it is gone if the gateway that made it is
the one of the specification. -/
structure Reached (c : Config) (w : World) (d : Resource) (t : String) : Prop where
  returned : w.ReturnedAt (location d) t
  dismissed : ∃ gatewayId copy request, resolveGateway c.defaultGateway d.spec = .ok gatewayId ∧
    .created copy request t ∈ w.deeds ∧ (request.gatewayId = gatewayId → Dismissed w t)

/-- What is known while a target is deleted, and when the finalizer may be detached. -/
def Reaching (c : Config) (place : Location) (w : World) : Phase → Prop
  | .deleting r gatewayId t => r.recordedTarget? = some t ∧
    resolveGateway c.defaultGateway r.spec = .ok gatewayId ∧ w.ReturnedAt place t
  | .released r => ∀ t, r.recordedTarget? = some t → Reached c w r t
  | _ => True

/-- Recorded targets were returned for the place of the resource, and they were reached before the
finalizer was detached. -/
structure Cleared (c : Config) (w : World) : Prop where
  recorded : ∀ {place s t}, w.store.objects.get? place = some s → s.recordedTarget? = some t →
    w.ReturnedAt place t
  detached : ∀ {d t}, .detached d ∈ w.deeds → d.recordedTarget? = some t → Reached c w d t

def clearance (c : Config) : Assertion where
  Holds := Cleared c
  At place ph copy w := records.At place ph copy w ∧ Reaching c place w ph

variable {c : Config} {w w' : World} {place : Location} {ph ph' : Phase}
  {copy copy' : Option Resource} {a : Act} {t : String}

/-! ## What is not undone -/

lemma World.ReturnedAt.mono (h : w.ReturnedAt place t) (hdeeds : ∀ d, d ∈ w.deeds → d ∈ w'.deeds) :
    w'.ReturnedAt place t := by
  obtain ⟨r, hplace, hreturned⟩ := h
  exact ⟨r, hplace, hreturned.mono hdeeds⟩

/-- What a create has returned was made by a create. -/
lemma Accounted.exists_created (hw : Accounted w) (h : w.ReturnedAt place t) :
    ∃ r request, .created (some r) request t ∈ w.deeds := by
  obtain ⟨_, -, _, hd | hd⟩ := h
  · exact ⟨_, _, hd⟩
  · obtain ⟨-, copy, request, hd, -⟩ := hw.recalled hd
    obtain ⟨r, _, rfl, -⟩ := hw.built hd
    exact ⟨r, request, hd⟩

lemma Reached.act {d : Resource} (h : Reached c w d t) : Reached c (w.act a) d t := by
  have hdeeds : ∀ d, d ∈ w.deeds → d ∈ (w.act a).deeds := fun _ => mem_deeds_act a
  obtain ⟨gatewayId, copy, request, hgateway, hd, hdismissed⟩ := h.dismissed
  refine ⟨h.returned.mono hdeeds, gatewayId, copy, request, hgateway, hdeeds _ hd, fun hsame => ?_⟩
  exact (hdismissed hsame).noCreate (noCreate_act w a) hdeeds

lemma Reached.stride {d : Resource} (h : Reached c w d t) (hw : Accounted w)
    (hs : Stride c place w ph copy w' ph' copy') : Reached c w' d t := by
  have hdeeds : ∀ d, d ∈ w.deeds → d ∈ w'.deeds := fun _ => mem_deeds_stride hs
  obtain ⟨gatewayId, copy, request, hgateway, hd, hdismissed⟩ := h.dismissed
  refine ⟨h.returned.mono hdeeds, gatewayId, copy, request, hgateway, hdeeds _ hd, fun hsame => ?_⟩
  exact (hdismissed hsame).stride (hw.given hd) hs

lemma Reaching.act (h : Reaching c place w ph) : Reaching c place (w.act a) ph := by
  cases ph with
  | deleting r gatewayId t => exact ⟨h.1, h.2.1, h.2.2.mono fun _ => mem_deeds_act a⟩
  | released r => exact fun t ht => (h t ht).act
  | _ => trivial

/-- No stride of any pass undoes what has been reached. -/
lemma Reaching.stride {place₂ : Location} {ph₂ : Phase} (h : Reaching c place₂ w ph₂)
    (hw : Accounted w) (hs : Stride c place w ph copy w' ph' copy') :
    Reaching c place₂ w' ph₂ := by
  cases ph₂ with
  | deleting r gatewayId t => exact ⟨h.1, h.2.1, h.2.2.mono fun _ => mem_deeds_stride hs⟩
  | released r => exact fun t ht => (h t ht).stride hw hs
  | _ => trivial

/-! ## Acts of users -/

/-- An act of users records no target. -/
lemma recorded_act {s' : Resource} (ha : LeavesStatus w a)
    (hs' : (w.act a).store.objects.get? place = some s') (ht : s'.recordedTarget? = some t) :
    ∃ s, w.store.objects.get? place = some s ∧ s.recordedTarget? = some t := by
  have hwrite : ∀ {p : Location} {r : Resource},
      (w.store.write p r).objects.get? place = some s' → (p = place → r.status = s'.status →
        ∃ s, w.store.objects.get? place = some s ∧ s.recordedTarget? = some t) →
      ∃ s, w.store.objects.get? place = some s ∧ s.recordedTarget? = some t := by
    intro p r hget hself
    have hget : (w.store.objects.insert p (w.store.stamped r)).get? place = some s' := hget
    rw [Table.get?_insert] at hget
    by_cases hp : place = p
    · rw [if_pos hp] at hget
      cases hget
      exact hself hp.symm rfl
    · rw [if_neg hp] at hget
      exact ⟨s', hget, ht⟩
  cases a with
  | failNext operation error => exact ⟨s', hs', ht⟩
  | setState targetId state => exact ⟨s', hs', ht⟩
  | edit e =>
    cases e with
    | insert r =>
      refine hwrite hs' fun _ hstatus => ?_
      have hnone : s'.recordedTarget? = none :=
        (recordedTarget?_congr hstatus.symm).trans ha
      cases hnone.symm.trans ht
    | updateSpec ns name f =>
      have hs' : (w.store.updateSpec ns name f).objects.get? place = some s' := hs'
      obtain hsame | ⟨s, hs, hupdate⟩ := w.store.updateSpec_cases ns name f
      · rw [hsame] at hs'
        exact ⟨s', hs', ht⟩
      · rw [hupdate] at hs'
        refine hwrite hs' fun hplace hstatus => ⟨s, hplace ▸ hs, ?_⟩
        exact (recordedTarget?_congr hstatus).trans ht
    | markDeleted ns name =>
      have hs' : (w.store.markDeleted ns name).objects.get? place = some s' := hs'
      obtain hsame | ⟨s, hs, ⟨-, hgone⟩ | hmark⟩ := w.store.markDeleted_cases ns name
      · rw [hsame] at hs'
        exact ⟨s', hs', ht⟩
      · rw [hgone, Table.get?_erase] at hs'
        by_cases hp : place = (ns, name)
        · simp [hp] at hs'
        · exact ⟨s', by simpa [hp] using hs', ht⟩
      · rw [hmark] at hs'
        refine hwrite hs' fun hplace hstatus => ⟨s, hplace ▸ hs, ?_⟩
        exact (recordedTarget?_congr hstatus).trans ht
    | replaceFinalizers copy finalizers =>
      have hs' : (w.store.replaceFinalizers copy finalizers).2.objects.get? place = some s' := hs'
      obtain ⟨_, -, hsame⟩ | ⟨_, _, -, hwritten⟩ := w.store.replaceFinalizers_cases copy finalizers
      · rw [hsame.objects] at hs'
        exact ⟨s', hs', ht⟩
      · obtain ⟨s, hs, -, hstatus⟩ := finalizers_turn hwritten hs'
        exact ⟨s, hs, (recordedTarget?_congr hstatus).symm.trans ht⟩
    | replaceStatus copy status => cases ha
    | injectStatusConflicts count => exact ⟨s', hs', ht⟩
    | injectFinalizerConflicts count => exact ⟨s', hs', ht⟩

lemma cleared_act (h : Cleared c w) (ha : LeavesStatus w a) : Cleared c (w.act a) where
  recorded hs' ht := by
    obtain ⟨s, hs, ht⟩ := recorded_act ha hs' ht
    exact (h.recorded hs ht).mono fun _ => mem_deeds_act a
  detached hd ht := (h.detached (detached_act hd) ht).act

/-! ## Strides -/

lemma cleared_stride (hw : Accounted w) (hph : Grounded place ph w) (h : Cleared c w)
    (hpending : records.At place ph copy w) (hreaching : Reaching c place w ph)
    (hs : Stride c place w ph copy w' ph' copy') : Cleared c w' where
  recorded {p s' t} hs' ht := by
    have hdeeds : ∀ d, d ∈ w.deeds → d ∈ w'.deeds := fun _ => mem_deeds_stride hs
    obtain ⟨s, hstored, -, hstatus | ⟨r, change, now, rfl, rfl, hstatus⟩⟩ :=
      stride_turn hph hs hs'
    · rw [recordedTarget?_congr hstatus] at ht
      exact (h.recorded hstored ht).mono hdeeds
    · have hrecorded := (recordedTarget?_written hstatus).symm.trans ht
      cases change with
      | created generation target =>
        obtain rfl : target.targetId = t := by
          simpa using (Option.filter_eq_some_iff.mp hrecorded).1
        exact ⟨r, hph.subject r rfl, (hpending r generation target rfl).mono hdeeds⟩
      | observed generation state => exact (h.recorded hstored hrecorded).mono hdeeds
      | condition condition => exact (h.recorded hstored hrecorded).mono hdeeds
  detached {d t} hd ht := by
    obtain hd | ⟨rfl, -⟩ := detached_stride hph hs hd
    · exact (h.detached hd ht).stride hw hs
    · exact (hreaching t ht).stride hw hs

/-- A delete that has succeeded has reached the target. -/
lemma reached_of_delete {time : Nat} {gatewayId : String} {r : Resource} {reply : Unit}
    (hw : Accounted w) (hplace : location r = place)
    (h : Reaching c place w (.deleting r gatewayId t))
    (hreply : settle (.delete gatewayId t) (w.gateway.serve time (.delete gatewayId t)).1 =
      .ok reply) : Reached c (w.afterCall copy time (.delete gatewayId t)) r t := by
  obtain ⟨-, hgateway, hreturned⟩ := h
  have hdeeds : ∀ d, d ∈ w.deeds → d ∈ (w.afterCall copy time (.delete gatewayId t)).deeds :=
    fun _ hd => List.mem_append_right _ hd
  obtain ⟨r', request, hd⟩ := hw.exists_created hreturned
  refine ⟨hplace ▸ hreturned.mono hdeeds, gatewayId, some r', request, hgateway, hdeeds _ hd, ?_⟩
  exact fun hsame => dismissed_of_delete hw hd hsame hreply

lemma reaching_stride (hw : Accounted w) (hph : Grounded place ph w) (h : Cleared c w)
    (hreaching : Reaching c place w ph) (hs : Stride c place w ph copy w' ph' copy') :
    Reaching c place w' ph' := by
  have hkept : Reaching c place w' ph := hreaching.stride hw hs
  cases hs with
  | quiet => exact hkept
  | tried _ _ => exact hkept
  | read hstored hbegins =>
    cases hbegins with
    | released _ _ hrec => exact fun t ht => nomatch hrec.symm.trans ht
    | deleting _ _ hrec hgateway => exact ⟨hrec, hgateway, h.recorded hstored hrec⟩
    | _ => trivial
  | refused _ hph => obtain rfl | ⟨_, _, _, -, rfl⟩ := hph <;> trivial
  | succeeded time hcalls hreply =>
    cases hcalls with
    | delete =>
      intro t' ht'
      obtain rfl := Option.some.inj (hreaching.1.symm.trans ht')
      exact reached_of_delete hw (hph.subject _ rfl) hreaching hreply
    | _ => trivial
  | _ => trivial

lemma clearance_inductive :
    Inductive c LeavesStatus (accounts.and grounds) (clearance c) where
  empty := ⟨(fun h => nomatch h), (fun h => nomatch h)⟩
  opening _ := ⟨(fun _ _ _ h => nomatch h), trivial⟩
  act _ h ha := cleared_act h ha
  actAt _ _ _ h _ :=
    ⟨fun r generation target hph => (h.1 r generation target hph).mono fun _ => mem_deeds_act _,
      h.2.act⟩
  stride hw hph h hAt hs :=
    ⟨cleared_stride hw.1 hph.2 h hAt.1 hAt.2 hs,
      pending_stride hph.1 hAt.1 hs, reaching_stride hw.1 hph.2 h hAt.2 hs⟩
  strideAt hw _ _ _ _ h _ hs :=
    ⟨fun r generation target hph => (h.1 r generation target hph).mono fun _ => mem_deeds_stride hs,
      h.2.stride hw.1 hs⟩

/-! ## Deletions -/

/-- Whenever the controller has detached the finalizer from a resource that recorded a target, that
target had been created and returned for the place of the resource; and if the gateway that made it
is the one of the resource's specification, the target is gone, unless that gateway has denied to
hold it. -/
theorem detached_target_dismissed {f : State} {d : Resource} (hf : Reachable c LeavesStatus f)
    (hd : .detached d ∈ f.world.deeds) (ht : d.recordedTarget? = some t) :
    f.world.ReturnedAt (location d) t ∧ ∃ gatewayId copy request,
      resolveGateway c.defaultGateway d.spec = .ok gatewayId ∧
      .created copy request t ∈ f.world.deeds ∧
      (request.gatewayId = gatewayId → Dismissed f.world t) := by
  have hbase : Inductive c LeavesStatus .none (accounts.and grounds) :=
    accounts_inductive.and grounds_inductive.weaken
  obtain ⟨-, hcleared⟩ := (hf.satisfies (hbase.and clearance_inductive)).1
  have hreached := hcleared.detached hd ht
  exact ⟨hreached.returned, hreached.dismissed⟩

/-- A registered resource is marked for deletion, and its target is deleted. -/
def deletedProperly : List Event :=
  registered ++ [.act (.edit (.markDeleted "tools" "files")), .pass ("tools", "files")]

/-- A deletion reaches the target that was registered. -/
theorem detached_target_dismissed_once_registered :
    ∃ f d t, Reachable exampleConfig LeavesStatus f ∧ .detached d ∈ f.world.deeds ∧
      d.recordedTarget? = some t ∧ f.world.ReturnedAt (location d) t ∧
      ∃ gatewayId copy request,
        resolveGateway exampleConfig.defaultGateway d.spec = .ok gatewayId ∧
        .created copy request t ∈ f.world.deeds ∧
        (request.gatewayId = gatewayId → Dismissed f.world t) := by
  obtain ⟨w, hreachable, d, hd, ht⟩ : ∃ w : World,
      Reachable exampleConfig LeavesStatus { world := w } ∧
      ∃ d ∈ w.detachedFrom, d.recordedTarget? = some "target-1" :=
    ⟨_, Reachable.start.after deletedProperly ⟨rfl, trivial, trivial⟩, by decide +kernel⟩
  have hd := mem_detachedFrom.mp hd
  exact ⟨_, d, _, hreachable, hd, ht, detached_target_dismissed hreachable hd ht⟩

/-- The gateway of a registered resource is edited, and the resource is marked for deletion. -/
def deletedElsewhere : List Event :=
  registered ++ [.act (.edit (.updateSpec "tools" "files" fun spec =>
      { spec with gatewayId := some "other" })),
    .act (.edit (.markDeleted "tools" "files")), .pass ("tools", "files")]

/-- A recorded target may be held although the finalizer has been detached, be it that users have
edited the gateway, or that the gateway has denied to hold the target. -/
theorem not_detached_target_gone :
    (¬ ∀ {c f d t}, Reachable c (Users (fun _ => True) fun _ => True) f →
      .detached d ∈ f.world.deeds → d.recordedTarget? = some t → .denied t ∉ f.world.deeds →
      f.world.gateway.targets.get? t = none) ∧
    ¬ ∀ {c f d t}, Reachable c (Users (fun _ => True) KeepsGateway) f →
      .detached d ∈ f.world.deeds → d.recordedTarget? = some t →
      f.world.gateway.targets.get? t = none := by
  constructor
  · intro h
    obtain ⟨w, hreachable, hheld, hdenied, d, hd, ht⟩ : ∃ w : World,
        Reachable exampleConfig (Users (fun _ => True) fun _ => True) { world := w } ∧
        (w.gateway.targets.get? "target-1").isSome ∧ .denied "target-1" ∉ w.deeds ∧
        ∃ d ∈ w.detachedFrom, d.recordedTarget? = some "target-1" :=
      ⟨_, Reachable.start.after deletedElsewhere
        ⟨⟨freshInsert_example, trivial⟩, trivial, trivial, trivial⟩, by decide +kernel⟩
    have hgone := h hreachable (mem_detachedFrom.mp hd) ht hdenied
    simp [hgone] at hheld
  · intro h
    obtain ⟨w, hreachable, hheld, d, hd, ht⟩ : ∃ w : World,
        Reachable exampleConfig (Users (fun _ => True) KeepsGateway) { world := w } ∧
        (w.gateway.targets.get? "target-1").isSome ∧
        ∃ d ∈ w.detachedFrom, d.recordedTarget? = some "target-1" :=
      ⟨_, Reachable.start.after deletedDenied
        ⟨⟨freshInsert_example, trivial⟩, trivial, trivial, trivial⟩, by decide +kernel⟩
    have hgone := h hreachable (mem_detachedFrom.mp hd) ht
    simp [hgone] at hheld

end TargetRegistrar.Fleet
