import TargetRegistrar.Proofs.Store.Versions

/-!
# Writes along a history

A copy that the store has returned may be kept for as long as one likes, while resources are edited,
vanish and come back under the same name.  A later write that is based on the copy goes ahead
exactly as long as nothing has been written to its place, and otherwise the answer tells whether
anything is stored there.

The versions decide that.  As long as nothing is written to the place, the copy is what is stored
there, if anything is (`Unwritten.get?_after`); the first write puts another version there, and no
later one brings the version of the copy back (`Outdated.touch`).
-/

namespace TargetRegistrar.Store

/-- What can be done with a store in memory: to look a resource up, or to edit the store. -/
inductive Access where
  | get (ns name : String)
  | edit (e : Edit)

/-- A write that is based on a copy. -/
inductive Write where
  | finalizers (marks : List String)
  | status (value : Status)

namespace InMemory

/-! ## Histories -/

/-- The store after an access. -/
def access (s : InMemory) : Access → InMemory
  | .get _ _ => s
  | .edit e => s.edit e

/-- The store after a history. -/
def after (s : InMemory) (history : List Access) : InMemory :=
  history.foldl access s

/-- The copy that an access returns, if it returns one. -/
def returned? (s : InMemory) : Access → Option Resource
  | .get ns name => s.current ns name
  | .edit (.insert resource) => some (s.insert resource).1
  | .edit (.replaceFinalizers copy finalizers) => (s.replaceFinalizers copy finalizers).1.toOption
  | .edit (.replaceStatus copy status) => (s.replaceStatus copy status).1.toOption
  | .edit _ => none

/-- Where an access writes, if it does: where it puts a resource, edits it or takes it out. -/
def written? (s : InMemory) : Access → Option Location
  | .edit (.insert resource) => some (location resource)
  | .edit (.updateSpec ns name _) => (s.current ns name).map fun _ => (ns, name)
  | .edit (.markDeleted ns name) => (s.current ns name).map fun _ => (ns, name)
  | .edit (.replaceFinalizers copy finalizers) =>
    (s.replaceFinalizers copy finalizers).1.toOption.map fun _ => location copy
  | .edit (.replaceStatus copy status) =>
    (s.replaceStatus copy status).1.toOption.map fun _ => location copy
  | _ => none

/-- Nothing is written to a place in a history. -/
def Unwritten (place : Location) : InMemory → List Access → Prop
  | _, [] => True
  | s, a :: history => s.written? a ≠ some place ∧ Unwritten place (s.access a) history

/-- The version that an access gives to the resource that it writes, as returned or else as
stored. -/
def given? (s : InMemory) (a : Access) : Option String :=
  (s.written? a).bind fun place =>
    ((s.returned? a).or ((s.access a).objects.get? place)).bind (·.metadata.resourceVersion)

/-- The versions given in a history, the first one first. -/
def versions : InMemory → List Access → List String
  | _, [] => []
  | s, a :: history => (s.given? a).toList ++ versions (s.access a) history

/-! ## Writes -/

/-- The outcome of a write, and the store after it. -/
def attempt (s : InMemory) (copy : Resource) : Write → Except Error Resource × InMemory
  | .finalizers marks => s.replaceFinalizers copy marks
  | .status value => s.replaceStatus copy value

/-- How many writes of the kind are still to be refused. -/
def pending (s : InMemory) : Write → Nat
  | .finalizers _ => s.finalizerConflicts
  | .status _ => s.statusConflicts

/-- The store with one write of the kind fewer to be refused. -/
def discharged (s : InMemory) : Write → InMemory
  | .finalizers _ => { s with finalizerConflicts := s.finalizerConflicts - 1 }
  | .status _ => { s with statusConflicts := s.statusConflicts - 1 }

end InMemory

namespace Write

/-- A resource with the finalizers or the status of the write. -/
def applyTo (r : Resource) : Write → Resource
  | .finalizers marks => InMemory.withFinalizers r marks
  | .status value => InMemory.withStatus r value

/-- Whether the write takes a resource out of the store: it is marked for deletion, and no finalizer
is left. -/
def releases (r : Resource) : Write → Bool
  | .finalizers marks => r.isBeingDeleted && marks.isEmpty
  | .status _ => false

end Write

namespace InMemory

/-- What a write that is based on a copy comes to, if `current` tells whether nothing has been
written to its place since the copy was returned. -/
structure Checked (s : InMemory) (copy : Resource) (w : Write) (current : Prop) : Prop where
  accepted : (∃ written, (s.attempt copy w).1 = .ok written) ↔
    s.pending w = 0 ∧ (s.objects.get? (location copy)).isSome ∧ current
  missing : s.objects.get? (location copy) = none →
    (s.attempt copy w).1 = .error (.notFound copy.key)
  opposed : (s.objects.get? (location copy)).isSome → ¬ (s.pending w = 0 ∧ current) →
    (s.attempt copy w).1 = .error (.conflict copy.key)
  /-- A refused write changes nothing but the number of those that are still to be refused. -/
  refused : ∀ e, (s.attempt copy w).1 = .error e → (s.attempt copy w).2 = s.discharged w
  /-- A write that goes ahead replaces what it is about, under a new version, or takes the resource
  out; nothing else in the store changes. -/
  effect : ∀ written, (s.attempt copy w).1 = .ok written →
    ∃ stored, s.objects.get? (location copy) = some stored ∧
      written = s.stamped (w.applyTo stored) ∧
      ∀ place, (s.attempt copy w).2.objects.get? place = if place = location copy then
        (if w.releases stored then none else some written) else s.objects.get? place

variable {s s' : InMemory} {copy : Resource} {place : Location} {a : Access} {w : Write}

lemma access_touch (hs : s.Orderly) (a : Access) : s.Touch (s.access a) := by
  cases a with
  | get ns name => exact .kept (.refl s)
  | edit e => exact edit_touch hs e

lemma Orderly.after (hs : s.Orderly) (history : List Access) : (s.after history).Orderly := by
  induction history generalizing s with
  | nil => exact hs
  | cons a history ih => exact ih (hs.touch (access_touch hs a))

lemma after_append (s : InMemory) (earlier later : List Access) :
    s.after (earlier ++ later) = (s.after earlier).after later := by
  simp [after]

/-! ## What an access does -/

/-- What an access does: it writes nothing, or it leaves a resource in its place under the next
version, or it takes one out. -/
inductive Effect (s : InMemory) (a : Access) : Prop where
  | looked (written : s.written? a = none) (content : s.SameContent (s.access a))
      (returned : ∀ r, s.returned? a = some r → s.objects.get? (location r) = some r)
  | stored (r : Resource) (written : s.written? a = some (location r))
      (version : r.metadata.resourceVersion = some s.nextVersion)
      (lastVersion : (s.access a).lastVersion = s.lastVersion + 1)
      (objects : ∀ place, (s.access a).objects.get? place =
        if place = location r then some r else s.objects.get? place)
      (returned : ∀ r', s.returned? a = some r' → r' = r)
  | removed (place : Location) (written : s.written? a = some place)
      (lastVersion : s.lastVersion ≤ (s.access a).lastVersion)
      (objects : ∀ place', (s.access a).objects.get? place' =
        if place' = place then none else s.objects.get? place')
      (returned : ∀ r, s.returned? a = some r → location r = place ∧
        r.metadata.resourceVersion = some s.nextVersion ∧
        (s.access a).lastVersion = s.lastVersion + 1)

/-- An edit that writes a resource to its place. -/
lemma effect_write {e : Edit} {r : Resource} (hedit : s.edit e = s.write place r)
    (hlocation : location r = place) (hwritten : s.written? (.edit e) = some place)
    (hreturned : ∀ r', s.returned? (.edit e) = some r' → r' = s.stamped r) :
    s.Effect (.edit e) := by
  obtain rfl : location (s.stamped r) = place := hlocation
  refine .stored (s.stamped r) hwritten rfl ?_ (fun place' => ?_) hreturned
  · show (s.edit e).lastVersion = _
    rw [hedit]
    rfl
  · show (s.edit e).objects.get? place' = _
    rw [hedit]
    exact Table.get?_insert ..

/-- An edit that refuses to write. -/
lemma effect_refused {e : Edit} (content : s.SameContent (s.edit e))
    (hwritten : s.written? (.edit e) = none) (hreturned : s.returned? (.edit e) = none) :
    s.Effect (.edit e) :=
  .looked hwritten content fun _ hr => nomatch hreturned.symm.trans hr

lemma updateSpec_effect (hs : s.Orderly) (ns name : String) (f : Spec → Spec) :
    s.Effect (.edit (.updateSpec ns name f)) := by
  cases hr : s.objects.get? (ns, name) with
  | none =>
    have hedit : s.edit (.updateSpec ns name f) = s := by
      simp [edit, updateSpec, current, hr]
    exact effect_refused ⟨by rw [hedit], by rw [hedit]⟩ (by simp [written?, current, hr]) rfl
  | some r =>
    have hedit : s.edit (.updateSpec ns name f) = s.write (ns, name) (withSpec r f) := by
      simp [edit, updateSpec, current, hr, withSpec]
    have hplace : location (withSpec r f) = (ns, name) := by
      rw [location_withSpec, hs.located hr]
    exact effect_write hedit hplace (by simp [written?, current, hr]) fun _ h => by cases h

/-- A resource without finalizers is taken out when it is marked, any other one is stored with the
mark. -/
lemma markDeleted_effect (hs : s.Orderly) (ns name : String) :
    s.Effect (.edit (.markDeleted ns name)) := by
  cases hr : s.objects.get? (ns, name) with
  | none =>
    have hedit : s.edit (.markDeleted ns name) = s := by
      simp [edit, markDeleted, current, hr]
    exact effect_refused ⟨by rw [hedit], by rw [hedit]⟩ (by simp [written?, current, hr]) rfl
  | some r =>
    have hwritten : s.written? (.edit (.markDeleted ns name)) = some (ns, name) := by
      simp [written?, current, hr]
    by_cases hfin : r.finalizers.isEmpty = true
    · have hedit : s.edit (.markDeleted ns name) =
          { s with objects := s.objects.erase (ns, name) } := by
        simp [edit, markDeleted, current, hr, hfin]
      refine .removed (ns, name) hwritten ?_ (fun place' => ?_) fun _ h => by cases h
      · exact Nat.le_of_eq (congrArg lastVersion hedit).symm
      · show (s.edit _).objects.get? place' = _
        rw [hedit]
        exact Table.get?_erase ..
    · have hedit : s.edit (.markDeleted ns name) = s.write (ns, name) (withMark r) := by
        simp [edit, markDeleted, current, hr, hfin, withMark]
      have hplace : location (withMark r) = (ns, name) := by
        rw [location_withMark, hs.located hr]
      exact effect_write hedit hplace hwritten fun _ h => by cases h

lemma replaceFinalizers_effect (hs : s.Orderly) (copy : Resource) (marks : List String) :
    s.Effect (.edit (.replaceFinalizers copy marks)) := by
  obtain ⟨e, herror, hsame⟩ | ⟨stored, r, hok, hwritten⟩ := s.replaceFinalizers_cases copy marks
  · exact effect_refused hsame (by simp [written?, herror, Except.toOption])
      (by simp [returned?, herror, Except.toOption])
  · have hversion : r.metadata.resourceVersion = some s.nextVersion := by
      rw [hwritten.result]
      rfl
    have hplace : location r = location copy := by
      rw [hwritten.result]
      show location stored = location copy
      exact hs.located hwritten.found
    have hwrote : s.written? (.edit (.replaceFinalizers copy marks)) = some (location r) := by
      simp [written?, hok, Except.toOption, hplace]
    have hreturned : ∀ r', s.returned? (.edit (.replaceFinalizers copy marks)) = some r' →
        r' = r := by
      intro r' hr'
      simpa [returned?, hok, Except.toOption, eq_comm] using hr'
    have hget := hwritten.get?
    rw [← hplace] at hget
    by_cases hgone : stored.isBeingDeleted ∧ marks.isEmpty
    · simp only [if_pos hgone] at hget
      refine .removed (location r) hwrote ?_ hget fun r' hr' => ?_
      · exact Nat.le_trans (Nat.le_succ _) (Nat.le_of_eq hwritten.lastVersion.symm)
      · rw [hreturned r' hr']
        exact ⟨rfl, hversion, hwritten.lastVersion⟩
    · simp only [if_neg hgone] at hget
      exact .stored r hwrote hversion hwritten.lastVersion hget hreturned

lemma replaceStatus_effect (hs : s.Orderly) (copy : Resource) (status : Status) :
    s.Effect (.edit (.replaceStatus copy status)) := by
  obtain ⟨e, herror, hsame⟩ | ⟨stored, r, hok, hwritten⟩ := s.replaceStatus_cases copy status
  · exact effect_refused hsame (by simp [written?, herror, Except.toOption])
      (by simp [returned?, herror, Except.toOption])
  · have hplace : location r = location copy := by
      rw [hwritten.result]
      show location stored = location copy
      exact hs.located hwritten.found
    have hversion : r.metadata.resourceVersion = some s.nextVersion := by
      rw [hwritten.result]
      rfl
    have hget := hwritten.get?
    rw [← hplace] at hget
    refine .stored r ?_ hversion hwritten.lastVersion hget fun r' hr' => ?_
    · simp [written?, hok, Except.toOption, hplace]
    · simpa [returned?, hok, Except.toOption, eq_comm] using hr'

lemma access_effect (hs : s.Orderly) (a : Access) : s.Effect a := by
  cases a with
  | get ns name =>
    refine .looked rfl (.refl s) fun r hr => ?_
    have hfound : s.objects.get? (ns, name) = some r := hr
    rw [hs.located hfound]
    exact hfound
  | edit e =>
    cases e with
    | insert _ => exact effect_write rfl rfl rfl fun _ hr' => (Option.some.inj hr').symm
    | updateSpec ns name f => exact updateSpec_effect hs ns name f
    | markDeleted ns name => exact markDeleted_effect hs ns name
    | replaceFinalizers copy marks => exact replaceFinalizers_effect hs copy marks
    | replaceStatus copy status => exact replaceStatus_effect hs copy status
    | injectStatusConflicts count => exact effect_refused ⟨rfl, rfl⟩ rfl rfl
    | injectFinalizerConflicts count => exact effect_refused ⟨rfl, rfl⟩ rfl rfl

/-! ## A copy along a history -/

/-- What is stored in the place of a copy has another version, and always will have. -/
structure Outdated (s : InMemory) (copy : Resource) : Prop where
  given : ∃ n ≤ s.lastVersion, copy.metadata.resourceVersion = some (toString n)
  differs : ∀ stored, s.objects.get? (location copy) = some stored →
    stored.metadata.resourceVersion ≠ copy.metadata.resourceVersion

lemma Outdated.touch (h : s.Outdated copy) (ht : s.Touch s') : s'.Outdated copy := by
  obtain ⟨n, hn, hgiven⟩ := h.given
  refine ⟨⟨n, Nat.le_trans hn ht.lastVersion_le, hgiven⟩, fun stored hstored => ?_⟩
  obtain hstored | ⟨-, -, hnext⟩ := ht.stored hstored
  · exact h.differs stored hstored
  · rw [hnext]
    exact (ne_nextVersion h.given).symm

lemma Outdated.after (hs : s.Orderly) (h : s.Outdated copy) (history : List Access) :
    (s.after history).Outdated copy := by
  induction history generalizing s with
  | nil => exact h
  | cons a history ih =>
    have ht := access_touch hs a
    exact ih (hs.touch ht) (h.touch ht)

/-- A copy that has just been returned has a version that was given, and is what is stored in its
place, if anything is. -/
lemma returned_issued (hs : s.Orderly) (h : s.returned? a = some copy) :
    (s.access a).Issued copy ∧
      ∀ stored, (s.access a).objects.get? (location copy) = some stored → stored = copy := by
  have hs' : (s.access a).Orderly := hs.touch (access_touch hs a)
  have hissued : (s.access a).objects.get? (location copy) = some copy → (s.access a).Issued copy ∧
      ∀ stored, (s.access a).objects.get? (location copy) = some stored → stored = copy :=
    fun hcopy => ⟨hs'.issued hcopy, fun stored h => Option.some.inj (h.symm.trans hcopy)⟩
  cases s.access_effect hs a with
  | looked _ content returned => exact hissued (by rw [content.objects, returned copy h])
  | stored r _ _ _ objects returned =>
    obtain rfl := returned copy h
    exact hissued (by rw [objects, if_pos rfl])
  | removed place _ _ objects returned =>
    obtain ⟨rfl, hversion, hlast⟩ := returned copy h
    have hnone : (s.access a).objects.get? (location copy) = none := by rw [objects, if_pos rfl]
    have hgone : ∀ stored, (s.access a).objects.get? (location copy) ≠ some stored :=
      fun stored hstored => nomatch hnone.symm.trans hstored
    exact ⟨⟨⟨_, Nat.le_of_eq hlast.symm, hversion⟩, fun stored h _ => absurd h (hgone stored)⟩,
      fun stored h => absurd h (hgone stored)⟩

/-- A write to the place of a copy that was returned before outdates the copy. -/
lemma outdated_of_written (hs : s.Orderly) (hcopy : s.Issued copy)
    (h : s.written? a = some (location copy)) : (s.access a).Outdated copy := by
  refine ⟨(hcopy.touch (access_touch hs a)).given, fun stored hstored => ?_⟩
  cases s.access_effect hs a with
  | looked written _ _ => cases written.symm.trans h
  | stored r written version _ objects _ =>
    have hplace : location r = location copy := Option.some.inj (written.symm.trans h)
    rw [objects, if_pos hplace.symm] at hstored
    rw [← Option.some.inj hstored, version]
    exact (ne_nextVersion hcopy.given).symm
  | removed place written _ objects _ =>
    have hplace : place = location copy := Option.some.inj (written.symm.trans h)
    rw [objects, if_pos hplace.symm] at hstored
    cases hstored

/-- An access leaves every place alone that it does not write to. -/
lemma get?_access_of_ne (hs : s.Orderly) (h : s.written? a ≠ some place) :
    (s.access a).objects.get? place = s.objects.get? place := by
  cases s.access_effect hs a with
  | looked _ content _ => rw [content.objects]
  | stored r written _ _ objects _ =>
    have hne : place ≠ location r := fun heq => h (heq ▸ written)
    rw [objects, if_neg hne]
  | removed place' written _ objects _ =>
    have hne : place ≠ place' := fun heq => h (heq ▸ written)
    rw [objects, if_neg hne]

/-- As long as nothing is written to a place, it holds what it held. -/
lemma Unwritten.get?_after {history : List Access} (hs : s.Orderly)
    (h : Unwritten place s history) :
    (s.after history).objects.get? place = s.objects.get? place := by
  induction history generalizing s with
  | nil => rfl
  | cons a history ih =>
    obtain ⟨ha, hlater⟩ := h
    exact (ih (hs.touch (access_touch hs a)) hlater).trans (get?_access_of_ne hs ha)

/-- Once something has been written to the place of a copy, the copy is outdated. -/
lemma outdated_after {history : List Access} (hs : s.Orderly) (hcopy : s.Issued copy)
    (h : ¬ Unwritten (location copy) s history) : (s.after history).Outdated copy := by
  induction history generalizing s with
  | nil => exact absurd trivial h
  | cons a history ih =>
    have ht := access_touch hs a
    by_cases ha : s.written? a = some (location copy)
    · exact (outdated_of_written hs hcopy ha).after (hs.touch ht) history
    · exact ih (hs.touch ht) (hcopy.touch ht) fun hlater => h ⟨ha, hlater⟩

/-- A copy that was returned has the version of what is stored in its place exactly as long as
nothing has been written there. -/
lemma version_eq_iff_unwritten {history : List Access} (hs : s.Orderly)
    (h : s.returned? a = some copy) {stored : Resource}
    (hstored : ((s.access a).after history).objects.get? (location copy) = some stored) :
    stored.metadata.resourceVersion = copy.metadata.resourceVersion ↔
      Unwritten (location copy) (s.access a) history := by
  have hs' : (s.access a).Orderly := hs.touch (access_touch hs a)
  obtain ⟨hissued, hlatest⟩ := returned_issued hs h
  constructor
  · intro hversion
    by_contra hwritten
    exact (outdated_after hs' hissued hwritten).differs stored hstored hversion
  · intro hunwritten
    rw [hunwritten.get?_after hs'] at hstored
    rw [hlatest stored hstored]

/-! ## Attempts -/

lemma basis_of_none {refused : Bool} (h : s.objects.get? (location copy) = none) :
    s.basis copy refused = .error (.notFound copy.key) := by
  simp [basis, h]

lemma basis_of_some {refused : Bool} {stored : Resource}
    (h : s.objects.get? (location copy) = some stored) :
    s.basis copy refused =
      if refused ∨ stored.metadata.resourceVersion ≠ copy.metadata.resourceVersion then
        .error (.conflict copy.key) else .ok stored := by
  simp [basis, h]

/-- A write without a basis is refused. -/
lemma attempt_of_error {e : Error} (h : s.basis copy (0 < s.pending w) = .error e) :
    s.attempt copy w = (.error e, s.discharged w) := by
  cases w with
  | finalizers marks =>
    have hbasis : (s.discharged (.finalizers marks)).basis copy (0 < s.finalizerConflicts) =
        .error e := h
    simp only [discharged] at hbasis
    simp only [attempt, replaceFinalizers, discharged, hbasis]
  | status value =>
    have hbasis : (s.discharged (.status value)).basis copy (0 < s.statusConflicts) =
        .error e := h
    simp only [discharged] at hbasis
    simp only [attempt, replaceStatus, discharged, hbasis]

/-- A write with a basis goes ahead. -/
lemma attempt_of_ok {stored : Resource} (h : s.basis copy (0 < s.pending w) = .ok stored) :
    (s.attempt copy w).1 = .ok (s.stamped (w.applyTo stored)) := by
  cases w with
  | finalizers marks =>
    have hbasis : (s.discharged (.finalizers marks)).basis copy (0 < s.finalizerConflicts) =
        .ok stored := h
    simp only [discharged] at hbasis
    simp only [attempt, replaceFinalizers, hbasis]
    rfl
  | status value =>
    have hbasis : (s.discharged (.status value)).basis copy (0 < s.statusConflicts) =
        .ok stored := h
    simp only [discharged] at hbasis
    simp only [attempt, replaceStatus, hbasis]
    rfl

/-- What a write that goes ahead does. -/
lemma attempt_effect {written : Resource} (h : (s.attempt copy w).1 = .ok written) :
    ∃ stored, s.objects.get? (location copy) = some stored ∧
      written = s.stamped (w.applyTo stored) ∧
      ∀ place, (s.attempt copy w).2.objects.get? place = if place = location copy then
        (if w.releases stored then none else some written) else s.objects.get? place := by
  cases w with
  | finalizers marks =>
    obtain ⟨_, herror, -⟩ | ⟨stored, r, hok, hwritten⟩ := s.replaceFinalizers_cases copy marks
    · cases h.symm.trans herror
    · obtain rfl : written = r := Except.ok.inj (h.symm.trans hok)
      refine ⟨stored, hwritten.found, hwritten.result, fun place => ?_⟩
      show (s.replaceFinalizers copy marks).2.objects.get? place = _
      simpa [Write.releases] using hwritten.get? place
  | status value =>
    obtain ⟨_, herror, -⟩ | ⟨stored, r, hok, hwritten⟩ := s.replaceStatus_cases copy value
    · cases h.symm.trans herror
    · obtain rfl : written = r := Except.ok.inj (h.symm.trans hok)
      exact ⟨stored, hwritten.found, hwritten.result, hwritten.get?⟩

/-- A write is checked by the version of its copy. -/
lemma checked_of_version {current : Prop}
    (h : ∀ stored, s.objects.get? (location copy) = some stored →
      (stored.metadata.resourceVersion = copy.metadata.resourceVersion ↔ current)) :
    s.Checked copy w current := by
  cases hstored : s.objects.get? (location copy) with
  | none =>
    have hattempt : s.attempt copy w = (.error (.notFound copy.key), s.discharged w) :=
      attempt_of_error (basis_of_none hstored)
    refine ⟨?_, fun _ => by rw [hattempt], ?_, fun _ _ => by rw [hattempt], fun _ => attempt_effect⟩
    · simp [hattempt, hstored]
    · simp [hstored]
  | some stored =>
    have hversion := h stored hstored
    by_cases hgo : s.pending w = 0 ∧ current
    · have hbasis : s.basis copy (0 < s.pending w) = .ok stored := by
        rw [basis_of_some hstored, if_neg (by simp [hgo.1, hversion.mpr hgo.2])]
      have hattempt := attempt_of_ok hbasis
      refine ⟨?_, ?_, fun _ hopposed => absurd hgo hopposed, ?_, fun _ => attempt_effect⟩
      · simp [hattempt, hstored, hgo]
      · simp [hstored]
      · intro e he
        cases hattempt.symm.trans he
    · have hrefused : 0 < s.pending w ∨
          stored.metadata.resourceVersion ≠ copy.metadata.resourceVersion := by
        by_cases hpending : s.pending w = 0
        · exact .inr fun heq => hgo ⟨hpending, hversion.mp heq⟩
        · exact .inl (Nat.pos_of_ne_zero hpending)
      have hbasis : s.basis copy (0 < s.pending w) = .error (.conflict copy.key) := by
        rw [basis_of_some hstored, if_pos (by simpa using hrefused)]
      have hattempt := attempt_of_error hbasis
      refine ⟨?_, ?_, fun _ _ => by rw [hattempt], fun _ _ => by rw [hattempt],
        fun _ => attempt_effect⟩
      · simpa [hattempt, hstored] using hgo
      · simp [hstored]

/-! ## Versions -/

/-- A version that an access gives is the next one. -/
lemma given?_eq_some {version : String} (hs : s.Orderly) (h : s.given? a = some version) :
    version = s.nextVersion ∧ (s.access a).lastVersion = s.lastVersion + 1 := by
  obtain ⟨place, hwritten, h⟩ := Option.bind_eq_some_iff.mp h
  obtain ⟨r, hr, hversion⟩ := Option.bind_eq_some_iff.mp h
  cases s.access_effect hs a with
  | looked written _ _ => cases written.symm.trans hwritten
  | stored r' written version' lastVersion objects returned =>
    obtain rfl : r = r' := by
      cases hreturned : s.returned? a with
      | none =>
        have hplace : location r' = place := Option.some.inj (written.symm.trans hwritten)
        simpa [hreturned, objects, hplace, eq_comm] using hr
      | some r'' =>
        rw [← returned r'' hreturned]
        simpa [hreturned, eq_comm] using hr
    exact ⟨Option.some.inj (hversion.symm.trans version'), lastVersion⟩
  | removed place' written _ objects returned =>
    obtain rfl : place' = place := Option.some.inj (written.symm.trans hwritten)
    cases hreturned : s.returned? a with
    | none => simp [hreturned, objects] at hr
    | some r' =>
      obtain rfl : r' = r := by simpa [hreturned] using hr
      obtain ⟨-, hnext, hlast⟩ := returned r' hreturned
      exact ⟨Option.some.inj (hversion.symm.trans hnext), hlast⟩

/-- The versions of a history come after those given before. -/
lemma exists_lt_of_mem_versions {history : List Access} {version : String} (hs : s.Orderly)
    (h : version ∈ versions s history) : ∃ n, s.lastVersion < n ∧ version = toString n := by
  induction history generalizing s with
  | nil => cases h
  | cons a history ih =>
    obtain h | h := List.mem_append.mp h
    · obtain ⟨rfl, -⟩ := given?_eq_some hs (by simpa using h)
      exact ⟨s.lastVersion + 1, Nat.lt_succ_self _, rfl⟩
    · have ht := access_touch hs a
      obtain ⟨n, hn, rfl⟩ := ih (hs.touch ht) h
      exact ⟨n, Nat.lt_of_le_of_lt ht.lastVersion_le hn, rfl⟩

/-- No version is given twice. -/
lemma nodup_versions (hs : s.Orderly) (history : List Access) : (versions s history).Nodup := by
  induction history generalizing s with
  | nil => exact List.nodup_nil
  | cons a history ih =>
    have hs' := hs.touch (access_touch hs a)
    refine List.nodup_append.mpr ⟨?_, ih hs', ?_⟩
    · cases s.given? a <;> simp
    · rintro version hversion _ hlater rfl
      obtain ⟨rfl, hlast⟩ := given?_eq_some hs (by simpa using hversion)
      obtain ⟨n, hn, hnext⟩ := exists_lt_of_mem_versions hs' hlater
      have := Nat.repr_injective hnext
      omega

/-- A write that is based on a copy which was returned at some time is checked by what has been
written to its place since. -/
lemma checked_of_returned (hs : s.Orderly) (h : s.returned? a = some copy) (later : List Access)
    (w : Write) : ((s.access a).after later).Checked copy w
      (Unwritten (location copy) (s.access a) later) :=
  checked_of_version fun _ hstored => version_eq_iff_unwritten hs h hstored

/-- In every history of a store that was empty at first, a write that is based on a copy which the
store returned at some time goes ahead exactly if no refusal of its kind is pending, a resource is
stored in the place, and nothing has been written there since the copy was returned; and no version
is given twice. -/
theorem write_accepted_iff_unwritten (history : List Access) :
    (versions {} history).Nodup ∧
      ∀ earlier a later copy w, history = earlier ++ a :: later →
        (after {} earlier).returned? a = some copy →
        (after {} history).Checked copy w
          (Unwritten (location copy) (after {} (earlier ++ [a])) later) := by
  refine ⟨nodup_versions .empty history, ?_⟩
  rintro earlier a later copy w rfl hreturned
  rw [after_append, after_append]
  exact checked_of_returned (Orderly.empty.after earlier) hreturned later w

/-- A resource as a user stores it. -/
def samplePlain : Resource where
  metadata := { name := some "files", ns := some "tools" }
  spec := { endpoint := "https://files.example", capabilities := ["tools"] }
  status := none

/-- A resource is stored and read; then it vanishes, because no finalizer keeps it, and comes back
as it was. -/
def sampleHistory : List Access :=
  [.edit (.insert samplePlain), .get "tools" "files", .edit (.markDeleted "tools" "files"),
    .edit (.insert samplePlain)]

/-- The copy that was read before the resource vanished is refused afterwards, although what is
stored differs from it in the version only. -/
theorem write_refused_after_recreation :
    ∃ earlier a later copy, sampleHistory = earlier ++ a :: later ∧
      (after {} earlier).returned? a = some copy ∧
      (after {} sampleHistory).pending (.status {}) = 0 ∧
      ((after {} sampleHistory).objects.get? (location copy)).isSome ∧
      ((after {} sampleHistory).attempt copy (.status {})).1 = .error (.conflict copy.key) ∧
      (versions {} sampleHistory).Nodup := by
  let copy : Resource := stamped {} samplePlain
  have hreturned : (after {} [.edit (.insert samplePlain)]).returned? (.get "tools" "files") =
      some copy := by decide +kernel
  obtain ⟨hnodup, hchecked⟩ := write_accepted_iff_unwritten sampleHistory
  have hstored : ((after {} sampleHistory).objects.get? (location copy)).isSome := by decide +kernel
  refine ⟨_, _, _, copy, rfl, hreturned, rfl, hstored, ?_, hnodup⟩
  refine (hchecked _ _ _ copy (.status {}) rfl hreturned).opposed hstored ?_
  rintro ⟨-, hunwritten, -⟩
  exact hunwritten (by decide +kernel)

end InMemory

end TargetRegistrar.Store
