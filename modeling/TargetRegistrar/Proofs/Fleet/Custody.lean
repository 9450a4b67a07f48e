import TargetRegistrar.Proofs.Fleet.Grounds
import TargetRegistrar.Proofs.Fleet.Targets

/-!
# Resources in the custody of a pass

From the moment at which a pass has seen the finalizer on a resource nobody else can take that
resource out of the store: users leave the finalizer to the controller, and no other pass works on
the same resource.  Users may still edit the specification.  So what is stored in the place has the
identity and the status of the copy, while its specification may be a later one (`InCustody`).

Identities are never used twice, so that an identity leads to one place.
-/

namespace TargetRegistrar.Fleet

open Store Gateway Controller

/-! ## What users may do -/

/-- A resource is inserted where nothing is stored, without a status, and under an identity that has
not been used before. -/
structure FreshInsert (w : World) (r : Resource) : Prop where
  free : w.store.objects.get? (location r) = none
  blank : r.status = none
  identity : ∃ uid, uid ≠ "" ∧ r.metadata.uid = some uid
  unused : ∀ r', .inserted r' ∈ w.deeds → r'.metadata.uid ≠ r.metadata.uid

lemma freshInsert_example : FreshInsert {} exampleResource :=
  ⟨rfl, rfl, ⟨"u1", by decide, rfl⟩, fun _ h => nomatch h⟩

/-- Users insert resources without a status where nothing is stored, and leave the status and the
finalizer to the controller. -/
def Respectful (edits : (Spec → Spec) → Prop) : World → Act → Prop
  | w, .edit (.insert r) => w.store.objects.get? (location r) = none ∧ r.status = none
  | _, .edit (.updateSpec _ _ f) => edits f
  | w, .edit (.replaceFinalizers copy finalizers) =>
    ∀ stored, w.store.objects.get? (location copy) = some stored →
      (finalizer ∈ finalizers ↔ stored.hasFinalizer finalizer)
  | _, .edit (.replaceStatus _ _) => False
  | _, _ => True

/-- Users are respectful, and they use no identity twice.  Which resources they insert and which
edits they make is restricted further as stated. -/
def Users (inserts : Resource → Prop) (edits : (Spec → Spec) → Prop) : World → Act → Prop
  | w, .edit (.insert r) => FreshInsert w r ∧ inserts r
  | _, .edit (.updateSpec _ _ f) => edits f
  | w, .edit (.replaceFinalizers copy finalizers) =>
    ∀ stored, w.store.objects.get? (location copy) = some stored →
      (finalizer ∈ finalizers ↔ stored.hasFinalizer finalizer)
  | _, .edit (.replaceStatus _ _) => False
  | _, _ => True

/-- What users may have made of a specification and its generation. -/
inductive Evolves (edits : (Spec → Spec) → Prop) (r : Resource) : Resource → Prop where
  | same {s : Resource} (spec : s.spec = r.spec)
      (generation : s.metadata.generation = r.metadata.generation) : Evolves edits r s
  | edited {s s' : Resource} {f : Spec → Spec} (h : Evolves edits r s) (hf : edits f)
      (spec : s'.spec = f s.spec)
      (generation : s'.metadata.generation = some (s.metadata.generation.getD 0 + 1)) :
      Evolves edits r s'

/-- What an act of users does to a resource that stays in the store. -/
structure UserTurn (edits : (Spec → Spec) → Prop) (s s' : Resource) : Prop where
  uid : s'.metadata.uid = s.metadata.uid
  name : s'.metadata.name = s.metadata.name
  status : s'.status = s.status
  guard : s'.hasFinalizer finalizer = s.hasFinalizer finalizer
  spec : (s'.spec = s.spec ∧ s'.metadata.generation = s.metadata.generation) ∨
    ∃ f, edits f ∧ s'.spec = f s.spec ∧
      s'.metadata.generation = some (s.metadata.generation.getD 0 + 1)

variable {inserts : Resource → Prop} {edits : (Spec → Spec) → Prop}

lemma UserTurn.refl (s : Resource) : UserTurn edits s s := ⟨rfl, rfl, rfl, rfl, .inl ⟨rfl, rfl⟩⟩

lemma Evolves.congr {r s s' : Resource} (h : Evolves edits r s) (hspec : s'.spec = s.spec)
    (hgen : s'.metadata.generation = s.metadata.generation) : Evolves edits r s' := by
  cases h with
  | same hspec' hgen' => exact .same (hspec.trans hspec') (hgen.trans hgen')
  | edited h hf hspec' hgen' => exact .edited h hf (hspec.trans hspec') (hgen.trans hgen')

lemma Evolves.turn {r s s' : Resource} (h : Evolves edits r s) (ht : UserTurn edits s s') :
    Evolves edits r s' := by
  obtain ⟨hspec, hgen⟩ | ⟨f, hf, hspec, hgen⟩ := ht.spec
  · exact h.congr hspec hgen
  · exact .edited h hf hspec hgen

/-- What an act of users does to one place of the store. -/
inductive PlaceTurn (edits : (Spec → Spec) → Prop) (w : World) (a : Act) (place : Location) :
    Option Resource → Option Resource → Prop where
  | free : PlaceTurn edits w a place none none
  | inserted {r : Resource} (ha : a = .edit (.insert r)) (hplace : place = location r) :
      PlaceTurn edits w a place none (some (w.store.stamped r))
  | removed {s : Resource} (h : s.hasFinalizer finalizer = false) :
      PlaceTurn edits w a place (some s) none
  | turned {s s' : Resource} (h : UserTurn edits s s') :
      PlaceTurn edits w a place (some s) (some s')

variable {w : World} {a : Act} {place : Location}

lemma Users.respectful (h : Users inserts edits w a) : Respectful edits w a := by
  cases a with
  | failNext operation error => trivial
  | setState targetId state => trivial
  | edit e =>
    cases e with
    | insert r => exact ⟨h.1.free, h.1.blank⟩
    | _ => exact h

/-- A place that an act does not concern. -/
lemma PlaceTurn.refl (old : Option Resource) : PlaceTurn edits w a place old old := by
  cases old with
  | none => exact .free
  | some s => exact .turned (.refl s)

lemma PlaceTurn.write {p : Location} {s s' : Resource}
    (hs : w.store.objects.get? p = some s) (ht : UserTurn edits s (w.store.stamped s')) :
    PlaceTurn edits w a place (w.store.objects.get? place)
      ((w.store.write p s').objects.get? place) := by
  show PlaceTurn edits w a place _ ((w.store.objects.insert p (w.store.stamped s')).get? place)
  rw [Table.get?_insert]
  by_cases hplace : place = p
  · rw [if_pos hplace, hplace, hs]
    exact .turned ht
  · rw [if_neg hplace]
    exact .refl _

lemma placeTurn_replaceFinalizers {copy : Resource} {finalizers : List String}
    (h : Respectful edits w (.edit (.replaceFinalizers copy finalizers))) :
    PlaceTurn edits w a place (w.store.objects.get? place)
      ((w.store.replaceFinalizers copy finalizers).2.objects.get? place) := by
  obtain ⟨_, -, hsame⟩ | ⟨stored, written, -, hwritten⟩ :=
    w.store.replaceFinalizers_cases copy finalizers
  · rw [hsame.objects]
    exact .refl _
  · have hguard := h stored hwritten.found
    rw [hwritten.get?]
    by_cases hplace : place = location copy
    · rw [if_pos hplace, hplace, hwritten.found]
      by_cases hgone : stored.isBeingDeleted ∧ finalizers.isEmpty
      · rw [if_pos hgone]
        have hempty : finalizers = [] := by simpa using hgone.2
        refine .removed (Bool.eq_false_iff.mpr fun hhas => ?_)
        simpa [hempty] using hguard.mpr hhas
      · rw [if_neg hgone, hwritten.result]
        refine .turned ⟨rfl, rfl, rfl, Bool.eq_iff_iff.mpr ?_, .inl ⟨rfl, rfl⟩⟩
        simpa [Resource.hasFinalizer, Resource.finalizers, InMemory.stamped,
          InMemory.withFinalizers] using hguard
    · rw [if_neg hplace]
      exact .refl _

/-- What an act of users can do to a place. -/
lemma placeTurn_act (h : Respectful edits w a) (place : Location) :
    PlaceTurn edits w a place (w.store.objects.get? place)
      ((w.act a).store.objects.get? place) := by
  cases a with
  | failNext operation error => exact .refl _
  | setState targetId state => exact .refl _
  | edit e =>
    cases e with
    | insert r =>
      show PlaceTurn edits w _ place _
        ((w.store.objects.insert (location r) (w.store.stamped r)).get? place)
      rw [Table.get?_insert]
      by_cases hplace : place = location r
      · rw [if_pos hplace, hplace, h.1]
        exact .inserted rfl rfl
      · rw [if_neg hplace]
        exact .refl _
    | updateSpec ns name f =>
      show PlaceTurn edits w _ place _ ((w.store.updateSpec ns name f).objects.get? place)
      obtain hsame | ⟨s, hs, hwrite⟩ := w.store.updateSpec_cases ns name f
      · rw [hsame]
        exact .refl _
      · rw [hwrite]
        exact .write hs ⟨rfl, rfl, rfl, rfl, .inr ⟨f, h, rfl, rfl⟩⟩
    | markDeleted ns name =>
      show PlaceTurn edits w _ place _ ((w.store.markDeleted ns name).objects.get? place)
      obtain hsame | ⟨s, hs, ⟨hfin, hgone⟩ | hwrite⟩ := w.store.markDeleted_cases ns name
      · rw [hsame]
        exact .refl _
      · rw [hgone, Table.get?_erase]
        by_cases hplace : place = (ns, name)
        · rw [if_pos hplace, hplace, hs]
          exact .removed (by simp [Resource.hasFinalizer, hfin])
        · rw [if_neg hplace]
          exact .refl _
      · rw [hwrite]
        exact .write hs ⟨rfl, rfl, rfl, rfl, .inl ⟨rfl, rfl⟩⟩
    | replaceFinalizers copy finalizers => exact placeTurn_replaceFinalizers h
    | replaceStatus copy status => cases h
    | injectStatusConflicts count => exact .refl _
    | injectFinalizerConflicts count => exact .refl _

/-- What is stored after an act of users was inserted by it, or was stored before and has been
turned. -/
lemma stored_act {s' : Resource} (h : Respectful edits w a)
    (hs' : (w.act a).store.objects.get? place = some s') :
    (∃ r, a = .edit (.insert r) ∧ place = location r ∧ s' = w.store.stamped r) ∨
      ∃ s, w.store.objects.get? place = some s ∧ UserTurn edits s s' := by
  have hturn := placeTurn_act h place
  rw [hs'] at hturn
  generalize w.store.objects.get? place = old at hturn
  cases hturn with
  | inserted ha hplace => exact .inl ⟨_, ha, hplace, rfl⟩
  | turned ht => exact .inr ⟨_, rfl, ht⟩

/-- Users cannot take a resource with the finalizer out of the store. -/
lemma guarded_act {s : Resource} (h : Respectful edits w a)
    (hs : w.store.objects.get? place = some s) (hguard : s.hasFinalizer finalizer) :
    ∃ s', (w.act a).store.objects.get? place = some s' ∧ UserTurn edits s s' := by
  have hturn := placeTurn_act h place
  rw [hs] at hturn
  generalize (w.act a).store.objects.get? place = new at hturn ⊢
  cases hturn with
  | removed hunguarded => simp [hguard] at hunguarded
  | turned ht => exact ⟨_, rfl, ht⟩

/-! ## Identities -/

/-- What is stored has an identity, which was inserted and leads to one place. -/
structure Identified (w : World) : Prop where
  orderly : w.store.Orderly
  identity : ∀ {place r}, w.store.objects.get? place = some r →
    ∃ uid, uid ≠ "" ∧ r.metadata.uid = some uid
  inserted : ∀ {place r}, w.store.objects.get? place = some r →
    ∃ r₀, .inserted r₀ ∈ w.deeds ∧ r₀.metadata.uid = r.metadata.uid
  alone : ∀ {place place' r r'}, w.store.objects.get? place = some r →
    w.store.objects.get? place' = some r' → r.metadata.uid = r'.metadata.uid → place = place'

namespace Identified

variable {w' : World}

lemma empty : Identified {} where
  orderly := .empty
  identity h := nomatch h
  inserted h := nomatch h
  alone h := nomatch h

/-- Without an insertion the identities stay where they are. -/
lemma turned (h : Identified w) (horderly : w'.store.Orderly)
    (hdeeds : ∀ r, .inserted r ∈ w.deeds → .inserted r ∈ w'.deeds)
    (hstored : ∀ place r', w'.store.objects.get? place = some r' →
      ∃ r, w.store.objects.get? place = some r ∧ r'.metadata.uid = r.metadata.uid) :
    Identified w' where
  orderly := horderly
  identity hr' := by
    obtain ⟨r, hr, huid⟩ := hstored _ _ hr'
    obtain ⟨uid, hne, hsome⟩ := h.identity hr
    exact ⟨uid, hne, huid.trans hsome⟩
  inserted hr' := by
    obtain ⟨r, hr, huid⟩ := hstored _ _ hr'
    obtain ⟨r₀, hd, hr₀⟩ := h.inserted hr
    exact ⟨r₀, hdeeds _ hd, hr₀.trans huid.symm⟩
  alone hr₁ hr₂ huids := by
    obtain ⟨s₁, hs₁, huid₁⟩ := hstored _ _ hr₁
    obtain ⟨s₂, hs₂, huid₂⟩ := hstored _ _ hr₂
    exact h.alone hs₁ hs₂ (huid₁.symm.trans (huids.trans huid₂))

/-- A resource under a new identity. -/
lemma insert {r : Resource} (h : Identified w) (hfresh : FreshInsert w r) :
    Identified (w.act (.edit (.insert r))) := by
  have hget : ∀ place, (w.act (.edit (.insert r))).store.objects.get? place =
      if place = location r then some (w.store.stamped r) else w.store.objects.get? place :=
    fun place => Table.get?_insert ..
  have hself : .inserted r ∈ (w.act (.edit (.insert r))).deeds := List.mem_cons_self
  have hold : ∀ {place s}, w.store.objects.get? place = some s →
      s.metadata.uid ≠ r.metadata.uid := by
    intro place s hs huid
    obtain ⟨r₀, hd, hr₀⟩ := h.inserted hs
    exact hfresh.unused r₀ hd (hr₀.trans huid)
  constructor
  case orderly => exact h.orderly.touch (InMemory.edit_touch h.orderly (.insert r))
  case identity =>
    intro place s hs
    rw [hget] at hs
    by_cases hplace : place = location r
    · obtain rfl : w.store.stamped r = s := by simpa [hplace] using hs
      exact hfresh.identity
    · exact h.identity (by simpa [hplace] using hs)
  case inserted =>
    intro place s hs
    rw [hget] at hs
    by_cases hplace : place = location r
    · obtain rfl : w.store.stamped r = s := by simpa [hplace] using hs
      exact ⟨r, hself, rfl⟩
    · rw [if_neg hplace] at hs
      obtain ⟨r₀, hd, hr₀⟩ := h.inserted hs
      exact ⟨r₀, List.mem_cons_of_mem _ hd, hr₀⟩
  case alone =>
    intro place place' s s' hs hs' huid
    rw [hget] at hs hs'
    by_cases hplace : place = location r
    · by_cases hplace' : place' = location r
      · exact hplace.trans hplace'.symm
      · obtain rfl : w.store.stamped r = s := by simpa [hplace] using hs
        rw [if_neg hplace'] at hs'
        exact absurd huid.symm (hold hs')
    · rw [if_neg hplace] at hs
      by_cases hplace' : place' = location r
      · obtain rfl : w.store.stamped r = s' := by simpa [hplace'] using hs'
        exact absurd huid (hold hs)
      · rw [if_neg hplace'] at hs'
        exact h.alone hs hs' huid

lemma act (h : Identified w) (ha : Users inserts edits w a) : Identified (w.act a) := by
  have horderly : (w.act a).store.Orderly := by
    cases a with
    | edit e => exact h.orderly.touch (InMemory.edit_touch h.orderly e)
    | _ => exact h.orderly
  by_cases hinsert : ∃ r, a = .edit (.insert r)
  · obtain ⟨r, rfl⟩ := hinsert
    exact h.insert ha.1
  · refine h.turned horderly (fun r hd => mem_deeds_act a hd) fun place r' hr' => ?_
    obtain ⟨r₀, heq, -⟩ | ⟨r, hr, hturn⟩ := stored_act ha.respectful hr'
    · exact absurd ⟨r₀, heq⟩ hinsert
    · exact ⟨r, hr, hturn.uid⟩

end Identified

/-! ## Custody -/

/-- What is stored in a place has the finalizer, and the identity and status of a copy, while its
specification may have been edited since. -/
structure Matches (edits : (Spec → Spec) → Prop) (r s : Resource) : Prop where
  guard : s.hasFinalizer finalizer
  uid : s.metadata.uid = r.metadata.uid
  name : s.metadata.name = r.metadata.name
  status : s.status = r.status
  spec : Evolves edits r s

/-- A copy in custody. -/
def InCustody (edits : (Spec → Spec) → Prop) (w : World) (place : Location) (r : Resource) : Prop :=
  ∃ s, w.store.objects.get? place = some s ∧ Matches edits r s

lemma Matches.refl {r : Resource} (h : r.hasFinalizer finalizer) : Matches edits r r :=
  ⟨h, rfl, rfl, rfl, .same rfl rfl⟩

lemma Matches.turn {r s s' : Resource} (h : Matches edits r s) (ht : UserTurn edits s s') :
    Matches edits r s' where
  guard := ht.guard ▸ h.guard
  uid := ht.uid.trans h.uid
  name := ht.name.trans h.name
  status := ht.status.trans h.status
  spec := h.spec.turn ht

/-- Users cannot take a copy out of custody. -/
lemma InCustody.act {r : Resource} (h : InCustody edits w place r) (ha : Respectful edits w a) :
    InCustody edits (w.act a) place r := by
  obtain ⟨s, hs, hmatches⟩ := h
  obtain ⟨s', hs', hturn⟩ := guarded_act ha hs hmatches.guard
  exact ⟨s', hs', hmatches.turn hturn⟩

/-- Every pass works on what is stored in its place: what it writes is based on copies of it, and
from the finalizer on the copy is in custody. -/
structure Tended (edits : (Spec → Spec) → Prop) (place : Location) (ph : Phase) (w : World) :
    Prop where
  subject : ∀ r, ph.subject? = some r → location r = place
  basis : ∀ r, ph.basis? = some r → w.store.Issued r ∧ location r = place
  ward : ∀ r, ph.ward? = some r → InCustody edits w place r

/-- Resources keep their identity, and passes tend them. -/
def custody (edits : (Spec → Spec) → Prop) : Assertion where
  Holds := Identified
  At place ph _ w := Tended edits place ph w

variable {c : Config} {w' : World} {ph ph' : Phase} {copy copy' : Option Resource}

/-- What is stored in the place of a copy in custody matches it. -/
lemma Tended.matches {r s : Resource} (h : Tended edits place ph w) (hr : ph.ward? = some r)
    (hs : w.store.objects.get? place = some s) : Matches edits r s := by
  obtain ⟨s', hs', hmatches⟩ := h.ward r hr
  obtain rfl : s' = s := Option.some.inj (hs'.symm.trans hs)
  exact hmatches

lemma Tended.grounded (h : Tended edits place ph w) : Grounded place ph w :=
  ⟨h.subject, h.basis⟩

lemma Grounded.tended (h : Grounded place ph w)
    (hward : ∀ r, ph.ward? = some r → InCustody edits w place r) : Tended edits place ph w :=
  ⟨h.subject, h.basis, hward⟩

lemma Tended.act (h : Tended edits place ph w) (hw : w.store.Orderly)
    (ha : Respectful edits w a) : Tended edits place ph (w.act a) :=
  (h.grounded.touch (act_touch hw a)).tended fun r hr => (h.ward r hr).act ha

/-- A place that is left alone. -/
lemma InCustody.of_objects {r : Resource} (h : InCustody edits w place r)
    (hobjects : w'.store.objects.get? place = w.store.objects.get? place) :
    InCustody edits w' place r := by
  obtain ⟨s, hs, hmatches⟩ := h
  exact ⟨s, hobjects.trans hs, hmatches⟩

lemma Identified.stride (hw : Identified w) (h : Tended edits place ph w)
    (hs : Stride c place w ph copy w' ph' copy') : Identified w' := by
  have horderly := hw.orderly.touch (stride_store hw.orderly h.grounded hs).1
  refine hw.turned horderly (fun _ hd => mem_deeds_stride hs hd) fun p r' hr' => ?_
  obtain ⟨s, hs, hturn, -⟩ := stride_turn h.grounded hs hr'
  exact ⟨s, hs, hturn.uid⟩

/-- A copy that is taken up with the finalizer is in custody. -/
lemma inCustody_begins {r : Resource} (hr : w.store.objects.get? place = some r)
    (hbegins : ph.Begins c r) : ∀ r', ph.ward? = some r' → InCustody edits w place r' := by
  have hward : r.hasFinalizer finalizer → InCustody edits w place r :=
    fun hfin => ⟨r, hr, .refl hfin⟩
  cases hbegins with
  | released _ hfin _ =>
    rintro _ ⟨⟩
    exact hward hfin
  | deleting _ hfin _ _ =>
    rintro _ ⟨⟩
    exact hward hfin
  | guarded _ _ hfin =>
    rintro _ ⟨⟩
    exact hward hfin
  | _ => rintro _ ⟨⟩

lemma hasFinalizer_attached (s : Store.InMemory) (r stored : Resource) :
    (s.stamped (InMemory.withFinalizers stored (r.finalizers ++ [finalizer]))).hasFinalizer
      finalizer := by
  simp [Resource.hasFinalizer, Resource.finalizers, InMemory.stamped, InMemory.withFinalizers]

/-- The finalizer has been attached. -/
lemma inCustody_attached {r r' stored : Resource} {s : Store.InMemory}
    (hplace : location r = place)
    (hwritten : w.store.FinalizersWritten s r (r.finalizers ++ [finalizer]) stored r') :
    InCustody edits { w with store := s } place r' := by
  have hself : s.objects.get? place = some r' := hplace ▸ hwritten.get?_self (by simp)
  have hfin : r'.hasFinalizer finalizer := hwritten.result ▸ hasFinalizer_attached ..
  exact ⟨r', hself, .refl hfin⟩

lemma Tended.stride (hw : w.store.Orderly) (h : Tended edits place ph w)
    (hs : Stride c place w ph copy w' ph' copy') : Tended edits place ph' w' := by
  refine (h.grounded.stride hw hs).tended ?_
  cases hs with
  | quiet => exact h.ward
  | read hstored hbegins => exact inCustody_begins hstored hbegins
  | refused hsame hph =>
    obtain rfl | ⟨r, change, latest, rfl, rfl⟩ := hph
    · rintro _ ⟨⟩
    · exact fun r hr => (h.ward r hr).of_objects (by rw [hsame.objects])
  | attached hwritten =>
    rintro _ ⟨⟩
    exact inCustody_attached (h.basis _ rfl).2 hwritten
  | tried time _ => exact h.ward
  | succeeded time hcalls _ =>
    -- the copy stays in custody until the result has been recorded
    cases hcalls with
    | _ =>
      rintro _ ⟨⟩
      exact h.ward _ rfl
  | fetched hfetches _ =>
    intro r hr
    cases hfetches with
    | changing _ => exact h.ward r hr
    | _ => cases hr
  | _ => rintro _ ⟨⟩

/-- A stride of another pass takes nothing out of custody. -/
lemma Tended.other {place₂ : Location} {ph₂ : Phase} (h₂ : Tended edits place₂ ph₂ w)
    (hw : w.store.Orderly) (h : Tended edits place ph w) (hne : place₂ ≠ place)
    (hs : Stride c place w ph copy w' ph' copy') : Tended edits place₂ ph₂ w' := by
  obtain ⟨htouch, hobjects⟩ := stride_store hw h.grounded hs
  exact (h₂.grounded.touch htouch).tended fun r hr => (h₂.ward r hr).of_objects (hobjects _ hne)

/-- Custody holds in every reachable state, if users leave status and finalizer alone. -/
lemma custody_inductive : Inductive c (Users inserts edits) .none (custody edits) where
  empty := .empty
  opening _ := ⟨(fun _ h => nomatch h), (fun _ h => nomatch h), (fun _ h => nomatch h)⟩
  act _ hw ha := hw.act ha
  actAt _ _ hw h ha := h.act hw.orderly ha.respectful
  stride _ _ hw h hs := ⟨hw.stride h hs, h.stride hw.orderly hs⟩
  strideAt _ _ _ hw h h₂ hne hs := h₂.other hw.orderly h hne hs

/-! ## Validation -/

/-- The copy that a pass acts on has been validated. -/
def Validity (c : Config) : Phase → Prop
  | .unguarded r v => Registration.validate c.defaultGateway r = .ok v
  | .guarded r v => Registration.validate c.defaultGateway r = .ok v
  | _ => True

lemma validity_stride (h : Tended edits place ph w) (hv : Validity c ph)
    (hs : Stride c place w ph copy w' ph' copy') : Validity c ph' := by
  cases hs with
  | quiet => exact hv
  | read _ hbegins =>
    cases hbegins with
    | unguarded _ hv _ => exact hv
    | guarded _ hv _ => exact hv
    | _ => trivial
  | refused _ hph => obtain rfl | ⟨_, _, _, -, rfl⟩ := hph <;> trivial
  | @attached r r' stored v _ _ hwritten =>
    have hr := hwritten.stored_eq (h.basis _ rfl).1
    have hsame : Registration.validate c.defaultGateway r' =
        Registration.validate c.defaultGateway r := by
      rw [hwritten.result, hr]
      exact Registration.validate_congr _ rfl rfl
    exact hsame.trans hv
  | tried _ _ => exact hv
  | succeeded _ hcalls _ => cases hcalls <;> trivial
  | _ => trivial

/-- What the targets go back to, who may write what, and that copies are valid. -/
def common (c : Config) (edits : (Spec → Spec) → Prop) : Assertion :=
  (accounts.and (custody edits)).and ⟨fun _ => True, fun _ ph _ _ => Validity c ph⟩

lemma common_inductive : Inductive c (Users inserts edits) .none (common c edits) := by
  refine Inductive.and (Inductive.and accounts_inductive ?_) ?_
  · exact custody_inductive.weaken
  · exact {
      empty := trivial
      opening := fun _ => trivial
      act := fun _ _ _ => trivial
      actAt := fun _ _ _ h _ => h
      stride := fun _ h _ hv hs => ⟨trivial, validity_stride h.2 hv hs⟩
      strideAt := fun _ _ _ _ _ h _ _ => h }

/-- Two passes do not look after one resource. -/
lemma ward_unique {place₂ : Location} {ph₂ : Phase} {r r₂ : Resource} (hw : Identified w)
    (h : Tended edits place ph w) (h₂ : Tended edits place₂ ph₂ w) (hr : ph.ward? = some r)
    (hr₂ : ph₂.ward? = some r₂) (huid : r.metadata.uid = r₂.metadata.uid) : place₂ = place := by
  obtain ⟨s, hs, hmatches⟩ := h.ward r hr
  obtain ⟨s₂, hs₂, hmatches₂⟩ := h₂.ward r₂ hr₂
  exact hw.alone hs₂ hs (hmatches₂.uid.trans (huid.symm.trans hmatches.uid.symm))

end TargetRegistrar.Fleet
