import TargetRegistrar.Proofs.Fleet.Basic
import TargetRegistrar.Proofs.Gateway.Calls

/-!
# Invariants of many passes

`Stride` says what a question of a pass can do to the world and to the pass, all answers taken
together; it is derived from the moves of a pass once, in `stride_of_moves`.  An `Assertion` speaks
of the world and of the phase of each pass.  It holds in every reachable state if no act and no
stride breaks it (`Inductive`, `Reachable.satisfies`), where earlier assertions may be relied on
(`Inductive.and`).
-/

namespace TargetRegistrar.Fleet

open Store Gateway Controller

/-- What a question of a pass at a location does: the world, the phase and the copy before and
after. -/
inductive Stride (c : Config) (place : Location) (w : World) :
    Phase → Option Resource → World → Phase → Option Resource → Prop where
  | quiet {ph : Phase} {copy : Option Resource} : Stride c place w ph copy w ph copy
  | stopped {ph : Phase} {copy : Option Resource} : Stride c place w ph copy w .ended copy
  | read {r : Resource} {ph : Phase} {copy : Option Resource}
      (hstored : w.store.objects.get? place = some r) (hbegins : ph.Begins c r) :
      Stride c place w .opening copy w ph (some r)
  | refused {ph ph' : Phase} {copy : Option Resource} {s : Store.InMemory}
      (hsame : w.store.SameContent s) (hph : ph' = .ended ∨ ∃ r change latest,
        ph = .writing r change latest ∧ ph' = .changing r change) :
      Stride c place w ph copy { w with store := s } ph' copy
  | attached {r r' stored : Resource} {v : Registration.Validated} {copy : Option Resource}
      {s : Store.InMemory}
      (h : w.store.FinalizersWritten s r (r.finalizers ++ [finalizer]) stored r') :
      Stride c place w (.unguarded r v) copy { w with store := s } (.guarded r' v) (some r')
  | tried {ph : Phase} {copy : Option Resource} {call : Call} {next : call.Reply → Phase}
      (time : Nat) (hcalls : ph.Calls call next) :
      Stride c place w ph copy (w.afterCall copy time call) ph copy
  | succeeded {ph : Phase} {copy : Option Resource} {call : Call} {next : call.Reply → Phase}
      {reply : call.Reply} (time : Nat) (hcalls : ph.Calls call next)
      (hreply : settle call (w.gateway.serve time call).1 = .ok reply) :
      Stride c place w ph copy (w.afterCall copy time call) (next reply) copy
  | fetched {ph : Phase} {r latest : Resource} {change : StatusChange} {copy : Option Resource}
      (hfetches : ph.Fetches r change)
      (hstored : w.store.objects.get? (location r) = some latest) :
      Stride c place w ph copy w (.writing r change latest) (some latest)
  | wrote {r latest stored written : Resource} {change : StatusChange} {now : Timestamp}
      {copy : Option Resource} {s : Store.InMemory}
      (h : w.store.StatusWritten s latest (change.applyTo now latest) stored written) :
      Stride c place w (.writing r change latest) copy { w with store := s } (.reporting r)
        (some written)
  | detached {r stored written : Resource} {copy : Option Resource} {s : Store.InMemory}
      (h : w.store.FinalizersWritten s r (r.finalizers.filter (· ≠ finalizer)) stored written) :
      Stride c place w (.released r) copy
        { w with store := s, deeds := .detached stored :: w.deeds } .ended (some written)

variable {c : Config} {place : Location} {w w' : World} {copy : Option Resource}

lemma afterRequest_attach {s : Store.InMemory} {r : Resource} {finalizers : List String}
    {outcome : Except Store.Error Resource} (h : finalizer ∈ finalizers) :
    w.afterRequest s (.replaceFinalizers r finalizers) outcome = { w with store := s } := by
  cases outcome with
  | error e => rfl
  | ok r' => simp [World.afterRequest, deedsOfRequest, h]

lemma afterRequest_detach {s : Store.InMemory} {r stored written : Resource}
    {finalizers : List String} (h : finalizer ∉ finalizers)
    (hstored : w.store.objects.get? (location r) = some stored) :
    w.afterRequest s (.replaceFinalizers r finalizers) (.ok written) =
      { w with store := s, deeds := .detached stored :: w.deeds } := by
  simp [World.afterRequest, deedsOfRequest, h, hstored]

/-- Asking for a resource and getting none stops a pass. -/
lemma stride_of_nothing {ph : Phase} {ns name : String}
    {outcome : Except Store.Error (Option Resource)} (h : ∀ r, outcome ≠ .ok (some r))
    (ha : w.Answers copy (.store (.get ns name)) outcome w') :
    Stride c place w ph copy w' .ended (handed (.store (.get ns name)) outcome copy) := by
  obtain ⟨s, hserves, rfl⟩ := ha
  obtain ⟨rfl, -⟩ := hserves.get
  rcases outcome with e | _ | r
  · exact .stopped
  · exact .stopped
  · exact absurd rfl (h r)

lemma stride_of_moves {ph ph' : Phase} {q : Query} {answer : q.Answer}
    (hm : Moves c place.1 place.2 ph q answer ph') (ha : w.Answers copy q answer w') :
    Stride c place w ph copy w' ph' (handed q answer copy) := by
  cases hm with
  | idle answer h =>
    cases q with
    | store request => cases h
    | gateway call => cases h
    | _ =>
      obtain rfl : w' = w := ha
      exact .quiet
  | read hbegins =>
    obtain ⟨s, hserves, rfl⟩ := ha
    obtain ⟨rfl, hfound⟩ := hserves.get
    exact .read (hfound _ rfl).symm hbegins
  | readNothing hnothing => exact stride_of_nothing hnothing ha
  | attach =>
    obtain ⟨s, hserves, rfl⟩ := ha
    obtain ⟨stored, hwritten⟩ := hserves.replaceFinalizers
    rw [afterRequest_attach (by simp)]
    exact .attached hwritten
  | attachRefused =>
    obtain ⟨s, hserves, rfl⟩ := ha
    exact .refused hserves.error (.inl rfl)
  | called hcalls hreply =>
    obtain ⟨time, rfl, rfl⟩ := ha
    exact .succeeded time hcalls hreply
  | @failed _ _ _ raced hcalls _ =>
    cases raced with
    | cancelled =>
      obtain rfl | ⟨time, rfl⟩ := ha
      · exact .quiet
      · exact .tried time hcalls
    | finished outcome =>
      obtain ⟨time, -, rfl⟩ := ha
      exact .tried time hcalls
  | @fetch _ r latest change ns' name' hfetches hns hname =>
    obtain ⟨s, hserves, rfl⟩ := ha
    obtain ⟨rfl, hfound⟩ := hserves.get
    have hlocation : location r = (ns', name') := by simp [location, hns, hname]
    have hstored : w.store.objects.get? (location r) = some latest := by
      rw [hlocation]
      exact (hfound _ rfl).symm
    exact .fetched hfetches hstored
  | fetchNothing _ _ _ hnothing => exact stride_of_nothing hnothing ha
  | write =>
    obtain ⟨s, hserves, rfl⟩ := ha
    obtain ⟨stored, hwritten⟩ := hserves.replaceStatus
    exact .wrote hwritten
  | writeRefused =>
    obtain ⟨s, hserves, rfl⟩ := ha
    exact .refused hserves.error (.inr ⟨_, _, _, rfl, rfl⟩)
  | detach outcome =>
    obtain ⟨s, hserves, rfl⟩ := ha
    cases outcome with
    | error e => exact .refused hserves.error (.inl rfl)
    | ok written =>
      obtain ⟨stored, hwritten⟩ := hserves.replaceFinalizers
      rw [afterRequest_detach (by simp) hwritten.found]
      exact .detached hwritten

/-- A pass looks after a copy because it did so before, because it has just read the copy, or
because it has just attached the finalizer. -/
lemma stride_guarded {ph ph' : Phase} {copy' : Option Resource} {r : Resource}
    {v : Registration.Validated} (hs : Stride c place w ph copy w' ph' copy')
    (hph' : ph' = .guarded r v) :
    (ph = .guarded r v ∧ copy' = copy) ∨
      (w.store.objects.get? place = some r ∧ copy' = some r) ∨
      ∃ r₀ stored, ph = .unguarded r₀ v ∧ copy' = some r ∧
        w.store.FinalizersWritten w'.store r₀ (r₀.finalizers ++ [finalizer]) stored r := by
  cases hs with
  | quiet => exact .inl ⟨hph', rfl⟩
  | tried _ _ => exact .inl ⟨hph', rfl⟩
  | read hstored hbegins =>
    subst hph'
    cases hbegins
    exact .inr (.inl ⟨hstored, rfl⟩)
  | attached hwritten =>
    cases hph'
    exact .inr (.inr ⟨_, _, rfl, rfl, hwritten⟩)
  | refused _ hrefused =>
    subst hph'
    obtain hph | ⟨_, _, _, -, hph⟩ := hrefused <;> cases hph
  | succeeded _ hcalls _ => cases hcalls <;> cases hph'
  | _ => cases hph'

/-- Deeds are not forgotten. -/
lemma mem_deeds_act {d : Deed} (a : Act) (hd : d ∈ w.deeds) : d ∈ (w.act a).deeds := by
  cases a with
  | edit e => exact List.mem_append_right _ hd
  | _ => exact hd

lemma mem_deeds_stride {ph ph' : Phase} {copy' : Option Resource} {d : Deed}
    (hs : Stride c place w ph copy w' ph' copy') (hd : d ∈ w.deeds) : d ∈ w'.deeds := by
  cases hs with
  | tried _ _ => exact List.mem_append_right _ hd
  | succeeded _ _ _ => exact List.mem_append_right _ hd
  | detached _ => exact List.mem_cons_of_mem _ hd
  | _ => exact hd

/-! ## Assertions -/

/-- A statement about the world, and one about each pass by its location, its phase and its copy. -/
structure Assertion where
  Holds : World → Prop
  At : Location → Phase → Option Resource → World → Prop

namespace Assertion

/-- The assertion that says nothing. -/
def none : Assertion := ⟨fun _ => True, fun _ _ _ _ => True⟩

/-- Two assertions together. -/
def and (A B : Assertion) : Assertion :=
  { Holds := fun w => A.Holds w ∧ B.Holds w
    At := fun place ph copy w => A.At place ph copy w ∧ B.At place ph copy w }

end Assertion

/-- No act and no stride breaks the assertion, where the base may be relied on. -/
structure Inductive (c : Config) (permits : World → Act → Prop) (base A : Assertion) : Prop where
  empty : A.Holds {}
  opening : ∀ {place w}, A.Holds w → A.At place .opening .none w
  act : ∀ {w a}, base.Holds w → A.Holds w → permits w a → A.Holds (w.act a)
  actAt : ∀ {w a place ph copy}, base.Holds w → base.At place ph copy w → A.Holds w →
    A.At place ph copy w → permits w a → A.At place ph copy (w.act a)
  stride : ∀ {place w ph copy w' ph' copy'}, base.Holds w → base.At place ph copy w → A.Holds w →
    A.At place ph copy w → Stride c place w ph copy w' ph' copy' →
    A.Holds w' ∧ A.At place ph' copy' w'
  strideAt : ∀ {place w ph copy w' ph' copy' place₂ ph₂ copy₂}, base.Holds w →
    base.At place ph copy w → base.At place₂ ph₂ copy₂ w → A.Holds w → A.At place ph copy w →
    A.At place₂ ph₂ copy₂ w → place₂ ≠ place → Stride c place w ph copy w' ph' copy' →
    A.At place₂ ph₂ copy₂ w'

variable {permits : World → Act → Prop} {A B : Assertion}

/-- What relies on nothing may be proved beside another assertion. -/
lemma Inductive.weaken (h : Inductive c permits .none A) : Inductive c permits B A where
  empty := h.empty
  opening := h.opening
  act _ := h.act trivial
  actAt _ _ := h.actAt trivial trivial
  stride _ _ := h.stride trivial trivial
  strideAt _ _ _ := h.strideAt trivial trivial trivial

/-- An assertion that relies on another one holds together with it. -/
lemma Inductive.and (hA : Inductive c permits .none A) (hB : Inductive c permits A B) :
    Inductive c permits .none (A.and B) where
  empty := ⟨hA.empty, hB.empty⟩
  opening h := ⟨hA.opening h.1, hB.opening h.2⟩
  act _ h ha := ⟨hA.act trivial h.1 ha, hB.act h.1 h.2 ha⟩
  actAt _ _ h hAt ha :=
    ⟨hA.actAt trivial trivial h.1 hAt.1 ha, hB.actAt h.1 hAt.1 h.2 hAt.2 ha⟩
  stride _ _ h hAt hs := by
    have h₁ := hA.stride trivial trivial h.1 hAt.1 hs
    have h₂ := hB.stride h.1 hAt.1 h.2 hAt.2 hs
    exact ⟨⟨h₁.1, h₂.1⟩, h₁.2, h₂.2⟩
  strideAt _ _ _ h hAt hAt₂ hne hs :=
    ⟨hA.strideAt trivial trivial trivial h.1 hAt.1 hAt₂.1 hne hs,
      hB.strideAt h.1 hAt.1 hAt₂.1 h.2 hAt.2 hAt₂.2 hne hs⟩

/-- The assertion holds of the world, and of each pass in some phase that it can be in. -/
def Satisfies (c : Config) (A : Assertion) (f : State) : Prop :=
  A.Holds f.world ∧ ∀ place pass, f.passes place = some pass →
    ∃ ph, pass.rest.Keeps c place.1 place.2 ph ∧ A.At place ph pass.copy f.world

lemma satisfies_setPass {f : State} {pass : Option Underway} (h : Satisfies c A f)
    (hpass : ∀ p, pass = some p →
      ∃ ph, p.rest.Keeps c place.1 place.2 ph ∧ A.At place ph p.copy f.world) :
    Satisfies c A (f.setPass place pass) := by
  refine ⟨h.1, fun place' p hp => ?_⟩
  obtain rfl | hne := eq_or_ne place' place
  · exact hpass p (by simpa [State.setPass] using hp)
  · exact h.2 place' p (by simpa [State.setPass, hne] using hp)

/-- What no act and no stride breaks holds in every reachable state. -/
theorem Reachable.satisfies {f : State} (hA : Inductive c permits .none A)
    (hf : Reachable c permits f) : Satisfies c A f := by
  unfold Reachable at hf
  induction hf with
  | refl =>
    refine ⟨hA.empty, fun _ _ h => ?_⟩
    cases h
  | tail _ hstep ih =>
    cases hstep with
    | acted a h =>
      refine ⟨hA.act trivial ih.1 h, fun place pass hpass => ?_⟩
      obtain ⟨ph, hkeeps, hAt⟩ := ih.2 place pass hpass
      exact ⟨ph, hkeeps, hA.actAt trivial trivial ih.1 hAt h⟩
    | begun place _ =>
      refine satisfies_setPass ih fun p hp => ?_
      cases hp
      exact ⟨.opening, reconcile_follows c place.1 place.2, hA.opening ih.1⟩
    | @answered place q next copy answer w h ha =>
      obtain ⟨ph, hkeeps, hAt⟩ := ih.2 place _ h
      obtain ⟨ph', hmoves, hnext⟩ := hkeeps answer
      have hstride := stride_of_moves hmoves ha
      obtain ⟨hw, hAt'⟩ := hA.stride trivial trivial ih.1 hAt hstride
      refine ⟨hw, fun place' p hp => ?_⟩
      obtain rfl | hne := eq_or_ne place' place
      · obtain rfl : p = ⟨next answer, handed q answer copy⟩ := by
          simpa [State.setPass, eq_comm] using hp
        exact ⟨ph', hnext, hAt'⟩
      · obtain ⟨ph₂, hkeeps₂, hAt₂⟩ := ih.2 place' p (by simpa [State.setPass, hne] using hp)
        exact ⟨ph₂, hkeeps₂,
          hA.strideAt trivial trivial trivial ih.1 hAt hAt₂ hne hstride⟩
    | ended place =>
      refine satisfies_setPass ih fun _ hp => ?_
      cases hp

end TargetRegistrar.Fleet
