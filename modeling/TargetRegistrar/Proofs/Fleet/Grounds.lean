import TargetRegistrar.Proofs.Fleet.Invariant

/-!
# What passes base their writes on

A pass works on what is stored in its place.  The copies on which it bases its writes were handed
out by the store and belong in that place, whatever users do.  So a write of a pass reaches no other
place, it replaces the very copy that it is based on, and it changes nothing but the finalizers and
the status.
-/

namespace TargetRegistrar.Fleet

open Store Gateway Controller

/-- The copies of a pass belong in its place, and those that it will base a write on are what the
store has handed out. -/
structure Grounded (place : Location) (ph : Phase) (w : World) : Prop where
  subject : ∀ r, ph.subject? = some r → location r = place
  basis : ∀ r, ph.basis? = some r → w.store.Issued r ∧ location r = place

/-- The store is orderly, and passes are grounded in it. -/
def grounds : Assertion where
  Holds w := w.store.Orderly
  At place ph _ w := Grounded place ph w

variable {c : Config} {permits : World → Act → Prop} {w w' : World} {place : Location}
  {ph ph' : Phase} {copy copy' : Option Resource}

lemma act_touch (hw : w.store.Orderly) (a : Act) : w.store.Touch (w.act a).store := by
  cases a with
  | edit e => exact InMemory.edit_touch hw e
  | _ => exact .kept (.refl _)

namespace Grounded

/-- A phase without copies. -/
lemma ended : Grounded place .ended w where
  subject _ h := nomatch h
  basis _ h := nomatch h

lemma reporting {r : Resource} (h : location r = place) : Grounded place (.reporting r) w where
  subject _ hr := by
    cases hr
    exact h
  basis _ hr := nomatch hr

lemma touch (h : Grounded place ph w) (htouch : w.store.Touch w'.store) :
    Grounded place ph w' := by
  refine ⟨h.subject, fun r hr => ?_⟩
  obtain ⟨hissued, hplace⟩ := h.basis r hr
  exact ⟨hissued.touch htouch, hplace⟩

/-- What a pass begins with. -/
lemma begins {r : Resource} (hw : w.store.Orderly) (hr : w.store.objects.get? place = some r)
    (hbegins : ph.Begins c r) : Grounded place ph w := by
  have hplace := hw.located hr
  have hbasis : w.store.Issued r ∧ location r = place := ⟨hw.issued hr, hplace⟩
  cases hbegins with
  | invalid _ _ => exact .reporting hplace
  | ended _ => exact .ended
  | guarded _ _ _ =>
    refine ⟨?_, ?_⟩ <;> rintro _ ⟨⟩
    exact hplace
  | _ =>
    refine ⟨?_, ?_⟩ <;> rintro _ ⟨⟩
    · exact hplace
    · exact hbasis

/-- A call changes nothing that writes are based on. -/
lemma succeeded {call : Call} {next : call.Reply → Phase} {reply : call.Reply}
    (h : Grounded place ph w) (hcalls : ph.Calls call next) : Grounded place (next reply) w := by
  cases hcalls with
  | delete => exact ⟨h.subject, h.basis⟩
  | _ =>
    refine ⟨?_, ?_⟩ <;> rintro _ ⟨⟩
    exact h.subject _ rfl

lemma fetched {r latest : Resource} {change : StatusChange} (hw : w.store.Orderly)
    (h : Grounded place ph w) (hfetches : ph.Fetches r change)
    (hlatest : w.store.objects.get? (location r) = some latest) :
    Grounded place (.writing r change latest) w := by
  have hsubject : ph.subject? = some r := by cases hfetches <;> rfl
  have hplace := h.subject r hsubject
  have hlocated := hw.located hlatest
  refine ⟨?_, ?_⟩ <;> rintro _ ⟨⟩
  · exact hplace
  · exact ⟨hw.issued hlatest, hlocated.trans hplace⟩

/-- The finalizer has been attached. -/
lemma attached {r r' stored : Resource} {v : Registration.Validated} {s : Store.InMemory}
    (h : Grounded place (.unguarded r v) w)
    (hwritten : w.store.FinalizersWritten s r (r.finalizers ++ [finalizer]) stored r') :
    Grounded place (.guarded r' v) { w with store := s } := by
  obtain ⟨hissued, hplace⟩ := h.basis r rfl
  refine ⟨?_, ?_⟩ <;> rintro _ ⟨⟩
  rw [hwritten.written_eq hissued]
  exact hplace

/-- A write that is based on a copy finds what is stored in the place of the pass. -/
lemma found {r s stored : Resource} (h : Grounded place ph w)
    (hr : ph.basis? = some r) (hfound : w.store.objects.get? (location r) = some stored)
    (hs : w.store.objects.get? place = some s) : stored = s := by
  rw [(h.basis r hr).2, hs] at hfound
  exact (Option.some.inj hfound).symm

end Grounded

/-! ## What a stride does to the store -/

/-- A stride of a pass touches the store, and only in the place of the pass. -/
lemma stride_store (hw : w.store.Orderly) (h : Grounded place ph w)
    (hs : Stride c place w ph copy w' ph' copy') :
    w.store.Touch w'.store ∧ ∀ p, p ≠ place →
      w'.store.objects.get? p = w.store.objects.get? p := by
  cases hs with
  | refused hsame _ => exact ⟨.kept hsame, fun p _ => by rw [hsame.objects]⟩
  | attached hwritten =>
    obtain ⟨-, hplace⟩ := h.basis _ rfl
    refine ⟨hwritten.touch hw, fun p hne => ?_⟩
    rw [hwritten.get?, hplace, if_neg hne]
  | wrote hwritten =>
    obtain ⟨-, hplace⟩ := h.basis _ rfl
    refine ⟨hwritten.touch hw, fun p hne => ?_⟩
    rw [hwritten.get?, hplace, if_neg hne]
  | detached hwritten =>
    obtain ⟨-, hplace⟩ := h.basis _ rfl
    refine ⟨hwritten.touch hw, fun p hne => ?_⟩
    rw [hwritten.get?, hplace, if_neg hne]
  | _ => exact ⟨.kept (.refl _), fun _ _ => rfl⟩

/-- What no pass changes about a resource. -/
structure PassTurn (s s' : Resource) : Prop where
  uid : s'.metadata.uid = s.metadata.uid
  name : s'.metadata.name = s.metadata.name
  spec : s'.spec = s.spec
  generation : s'.metadata.generation = s.metadata.generation

lemma PassTurn.refl (s : Resource) : PassTurn s s := ⟨rfl, rfl, rfl, rfl⟩

/-- What a write of finalizers leaves in the store. -/
lemma finalizers_turn {s s₂ : Store.InMemory} {r stored written s' : Resource}
    {finalizers : List String} {p : Location}
    (h : s.FinalizersWritten s₂ r finalizers stored written) (hs' : s₂.objects.get? p = some s') :
    ∃ old, s.objects.get? p = some old ∧ PassTurn old s' ∧ s'.status = old.status := by
  rw [h.get?] at hs'
  by_cases hp : p = location r
  · by_cases hgone : stored.isBeingDeleted ∧ finalizers.isEmpty
    · simp [hp, hgone] at hs'
    · rw [if_pos hp, if_neg hgone, h.result] at hs'
      cases hs'
      exact ⟨stored, hp ▸ h.found, ⟨rfl, rfl, rfl, rfl⟩, rfl⟩
  · exact ⟨s', by simpa [hp] using hs', .refl s', rfl⟩

/-- What is stored after a stride was stored before, with other finalizers at most, unless its
status has been written. -/
lemma stride_turn (h : Grounded place ph w) (hs : Stride c place w ph copy w' ph' copy')
    {p : Location} {s' : Resource} (hs' : w'.store.objects.get? p = some s') :
    ∃ s, w.store.objects.get? p = some s ∧ PassTurn s s' ∧ (s'.status = s.status ∨
      ∃ r change now, ph = .writing r change s ∧ p = place ∧
        s'.status = some (change.applyTo now s)) := by
  cases hs with
  | refused hsame _ => exact ⟨s', hsame.objects ▸ hs', .refl s', .inl rfl⟩
  | attached hwritten =>
    obtain ⟨old, hold, hturn, hstatus⟩ := finalizers_turn hwritten hs'
    exact ⟨old, hold, hturn, .inl hstatus⟩
  | @wrote r latest stored _ change now _ _ hwritten =>
    obtain ⟨hissued, hplace⟩ := h.basis latest rfl
    rw [hwritten.get?] at hs'
    by_cases hp : p = location latest
    · obtain rfl := hwritten.stored_eq hissued
      rw [if_pos hp, hwritten.result] at hs'
      cases hs'
      exact ⟨stored, hp ▸ hwritten.found, ⟨rfl, rfl, rfl, rfl⟩,
        .inr ⟨r, change, now, rfl, hp.trans hplace, rfl⟩⟩
    · exact ⟨s', by simpa [hp] using hs', .refl s', .inl rfl⟩
  | detached hwritten =>
    obtain ⟨old, hold, hturn, hstatus⟩ := finalizers_turn hwritten hs'
    exact ⟨old, hold, hturn, .inl hstatus⟩
  | _ => exact ⟨s', hs', .refl s', .inl rfl⟩

lemma detached_notMem_deedsOfCall {g : Gateway.InMemory} {call : Call} {outcome : call.Outcome}
    {d : Resource} : .detached d ∉ deedsOfCall g copy call outcome := by
  unfold deedsOfCall
  split
  · split <;> simp
  · simp
  · split <;> simp
  · simp

/-- What has been detached was released. -/
lemma detached_stride {d : Resource} (hph : Grounded place ph w)
    (hs : Stride c place w ph copy w' ph' copy') (hd : .detached d ∈ w'.deeds) :
    .detached d ∈ w.deeds ∨ (ph = .released d ∧ w.store.objects.get? place = some d) := by
  have hcall : ∀ {time : Nat} {call : Call}, .detached d ∈ (w.afterCall copy time call).deeds →
      .detached d ∈ w.deeds :=
    fun hd => (List.mem_append.mp hd).resolve_left detached_notMem_deedsOfCall
  cases hs with
  | tried _ _ => exact .inl (hcall hd)
  | succeeded _ _ _ => exact .inl (hcall hd)
  | detached hwritten =>
    obtain ⟨hissued, hplace⟩ := hph.basis _ rfl
    obtain rfl := hwritten.stored_eq hissued
    obtain heq | hd := List.mem_cons.mp hd
    · cases heq
      exact .inr ⟨rfl, hplace ▸ hwritten.found⟩
    · exact .inl hd
  | _ => exact .inl hd

lemma detached_act {a : Act} {d : Resource} (hd : .detached d ∈ (w.act a).deeds) :
    .detached d ∈ w.deeds := by
  cases a with
  | edit e => cases e <;> simpa [World.act, deedsOfEdit] using hd
  | _ => exact hd

/-! ## The invariant -/

lemma Grounded.stride (hw : w.store.Orderly) (h : Grounded place ph w)
    (hs : Stride c place w ph copy w' ph' copy') : Grounded place ph' w' := by
  have htouch := (stride_store hw h hs).1
  cases hs with
  | quiet => exact h
  | stopped => exact .ended
  | read hstored hbegins => exact .begins hw hstored hbegins
  | refused hsame hph =>
    obtain rfl | ⟨r, change, latest, rfl, rfl⟩ := hph
    · exact .ended
    · exact ⟨h.subject, fun _ hr => nomatch hr⟩
  | attached hwritten => exact h.attached hwritten
  | tried time _ => exact h.touch htouch
  | succeeded time hcalls _ => exact (h.touch htouch).succeeded hcalls
  | fetched hfetches hlatest => exact h.fetched hw hfetches hlatest
  | wrote _ => exact .reporting (h.subject _ rfl)
  | detached _ => exact .ended

/-- Passes are grounded in every reachable state, whatever users do. -/
lemma grounds_inductive : Inductive c permits .none grounds where
  empty := .empty
  opening _ := ⟨(fun _ h => nomatch h), (fun _ h => nomatch h)⟩
  act _ hw _ := Store.InMemory.Orderly.touch hw (act_touch hw _)
  actAt _ _ hw h _ := h.touch (act_touch hw _)
  stride _ _ hw h hs := ⟨hw.touch (stride_store hw h hs).1, h.stride hw hs⟩
  strideAt _ _ _ hw h h₂ _ hs := h₂.touch (stride_store hw h hs).1

end TargetRegistrar.Fleet
