import Mathlib.Tactic.Common
import Std.Data.String.ToNat
import TargetRegistrar.Store.InMemory

/-!
# Versions of a store in memory

A write is accepted when the copy that it is based on carries the stored version.  That makes the
copy the stored resource itself, and not only one that looks alike, because the store gives every
version once: `Orderly` says so of what is stored, `Issued` of a copy that was handed out, and both
outlast every operation of the store (`Orderly.touch`, `Issued.touch`).

`Edit` is what others do to the store, `Serves` what it does for a request that it may also refuse
for reasons of its own.  The lemmas on `Serves` say all that a request can have done.
-/

namespace TargetRegistrar.Store

/-- What others than the controller do to a store in memory. -/
inductive Edit where
  /-- Store a resource, whatever was there. -/
  | insert (resource : Resource)
  /-- Edit a specification. -/
  | updateSpec (ns name : String) (edit : Spec → Spec)
  /-- Mark a resource for deletion. -/
  | markDeleted (ns name : String)
  /-- Replace finalizers, based on a copy. -/
  | replaceFinalizers (copy : Resource) (finalizers : List String)
  /-- Replace a status, based on a copy. -/
  | replaceStatus (copy : Resource) (status : Status)
  /-- Let the next status writes meet another writer. -/
  | injectStatusConflicts (count : Nat)
  /-- Let the next finalizer writes meet another writer. -/
  | injectFinalizerConflicts (count : Nat)

namespace InMemory

/-- The store after an edit. -/
def edit (s : InMemory) : Edit → InMemory
  | .insert resource => (s.insert resource).2
  | .updateSpec ns name f => s.updateSpec ns name f
  | .markDeleted ns name => s.markDeleted ns name
  | .replaceFinalizers copy finalizers => (s.replaceFinalizers copy finalizers).2
  | .replaceStatus copy status => (s.replaceStatus copy status).2
  | .injectStatusConflicts count => s.injectStatusConflicts count
  | .injectFinalizerConflicts count => s.injectFinalizerConflicts count

/-- How a request can end, and the store after it: it is served, or refused without an effect. -/
def Serves (s : InMemory) (request : Request) (outcome : request.Outcome) (s' : InMemory) : Prop :=
  (outcome = (s.serve request).1 ∧ s' = (s.serve request).2) ∨ ∃ e, outcome = .error e ∧ s' = s

/-! ## What an operation can do -/

/-- One store has the content of another. -/
structure SameContent (s s' : InMemory) : Prop where
  objects : s'.objects = s.objects
  lastVersion : s'.lastVersion = s.lastVersion

/-- What an operation does to the content of a store: nothing, or one place is emptied, or filled
under the next version. -/
inductive Touch (s s' : InMemory) : Prop where
  | kept (h : s.SameContent s')
  | removed (place : Location) (objects : s'.objects = s.objects.erase place)
      (lastVersion : s.lastVersion ≤ s'.lastVersion)
  | placed (r : Resource) (objects : s'.objects = s.objects.insert (location r) (s.stamped r))
      (lastVersion : s'.lastVersion = s.lastVersion + 1)

lemma SameContent.refl (s : InMemory) : s.SameContent s := ⟨rfl, rfl⟩

variable {s s' : InMemory}

lemma basis_eq_ok {copy stored : Resource} {refused : Bool}
    (h : s.basis copy refused = .ok stored) :
    s.objects.get? (location copy) = some stored ∧
      stored.metadata.resourceVersion = copy.metadata.resourceVersion := by
  unfold basis at h
  split at h
  · cases h
  · rename_i found hfound
    split at h
    · cases h
    · rename_i haccepted
      cases h
      exact ⟨hfound, by simpa using (not_or.mp haccepted).2⟩

/-- The finalizers of a resource replaced. -/
def withFinalizers (r : Resource) (finalizers : List String) : Resource :=
  { r with metadata := { r.metadata with finalizers := some finalizers } }

/-- The status of a resource replaced. -/
def withStatus (r : Resource) (status : Status) : Resource :=
  { r with status := some status }

/-- A specification edited as a user does it. -/
def withSpec (r : Resource) (f : Spec → Spec) : Resource :=
  { r with
    spec := f r.spec
    metadata := { r.metadata with generation := some (r.metadata.generation.getD 0 + 1) } }

/-- A resource marked for deletion. -/
def withMark (r : Resource) : Resource :=
  { r with metadata := { r.metadata with deletionTimestamp := some deletionInstant } }

@[simp] lemma location_withSpec (r : Resource) (f : Spec → Spec) :
    location (withSpec r f) = location r := rfl

@[simp] lemma location_withMark (r : Resource) : location (withMark r) = location r := rfl

/-- A finalizer write, as far as it is accepted. -/
structure FinalizersWritten (s s' : InMemory) (copy : Resource) (finalizers : List String)
    (stored written : Resource) : Prop where
  found : s.objects.get? (location copy) = some stored
  version : stored.metadata.resourceVersion = copy.metadata.resourceVersion
  result : written = s.stamped (withFinalizers stored finalizers)
  lastVersion : s'.lastVersion = s.lastVersion + 1
  objects : s'.objects = if stored.isBeingDeleted ∧ finalizers.isEmpty
    then s.objects.erase (location copy) else s.objects.insert (location copy) written

/-- A status write, as far as it is accepted. -/
structure StatusWritten (s s' : InMemory) (copy : Resource) (status : Status)
    (stored written : Resource) : Prop where
  found : s.objects.get? (location copy) = some stored
  version : stored.metadata.resourceVersion = copy.metadata.resourceVersion
  result : written = s.stamped (withStatus stored status)
  lastVersion : s'.lastVersion = s.lastVersion + 1
  objects : s'.objects = s.objects.insert (location copy) written

lemma updateSpec_cases (s : InMemory) (ns name : String) (f : Spec → Spec) :
    s.updateSpec ns name f = s ∨ ∃ r, s.objects.get? (ns, name) = some r ∧
      s.updateSpec ns name f = s.write (ns, name) (withSpec r f) := by
  unfold updateSpec
  cases hr : s.current ns name with
  | none => exact .inl rfl
  | some r => exact .inr ⟨r, hr, rfl⟩

lemma markDeleted_cases (s : InMemory) (ns name : String) :
    s.markDeleted ns name = s ∨ ∃ r, s.objects.get? (ns, name) = some r ∧
      ((r.finalizers = [] ∧
        s.markDeleted ns name = { s with objects := s.objects.erase (ns, name) }) ∨
      s.markDeleted ns name = s.write (ns, name) (withMark r)) := by
  unfold markDeleted
  cases hr : s.current ns name with
  | none => exact .inl rfl
  | some r =>
    cases hfin : r.finalizers with
    | nil => exact .inr ⟨r, hr, .inl ⟨hfin, by simp [hfin]⟩⟩
    | cons _ _ => exact .inr ⟨r, hr, .inr (by simp [hfin, withMark])⟩

lemma replaceFinalizers_cases (s : InMemory) (copy : Resource) (finalizers : List String) :
    (∃ e, (s.replaceFinalizers copy finalizers).1 = .error e ∧
      s.SameContent (s.replaceFinalizers copy finalizers).2) ∨
    ∃ stored written, (s.replaceFinalizers copy finalizers).1 = .ok written ∧
      s.FinalizersWritten (s.replaceFinalizers copy finalizers).2 copy finalizers stored
        written := by
  unfold replaceFinalizers
  dsimp only
  split
  · exact .inl ⟨_, rfl, rfl, rfl⟩
  · rename_i stored hbasis
    obtain ⟨hfound, hversion⟩ := basis_eq_ok hbasis
    refine .inr ⟨stored, _, rfl, hfound, hversion, rfl, ?_, apply_ite InMemory.objects ..⟩
    split <;> rfl

lemma replaceStatus_cases (s : InMemory) (copy : Resource) (status : Status) :
    (∃ e, (s.replaceStatus copy status).1 = .error e ∧
      s.SameContent (s.replaceStatus copy status).2) ∨
    ∃ stored written, (s.replaceStatus copy status).1 = .ok written ∧
      s.StatusWritten (s.replaceStatus copy status).2 copy status stored written := by
  unfold replaceStatus
  dsimp only
  split
  · exact .inl ⟨_, rfl, rfl, rfl⟩
  · rename_i stored hbasis
    obtain ⟨hfound, hversion⟩ := basis_eq_ok hbasis
    exact .inr ⟨stored, _, rfl, hfound, hversion, rfl, rfl, rfl⟩

/-! ## Every version is given once -/

/-- What is stored is stored where it belongs, under a version that has been given. -/
structure Orderly (s : InMemory) : Prop where
  located : ∀ {place r}, s.objects.get? place = some r → location r = place
  versioned : ∀ {place r}, s.objects.get? place = some r →
    ∃ n ≤ s.lastVersion, r.metadata.resourceVersion = some (toString n)

/-- A copy that the store has handed out: a resource that is stored in its place under its version
is the copy itself. -/
structure Issued (s : InMemory) (copy : Resource) : Prop where
  given : ∃ n ≤ s.lastVersion, copy.metadata.resourceVersion = some (toString n)
  alone : ∀ stored, s.objects.get? (location copy) = some stored →
    stored.metadata.resourceVersion = copy.metadata.resourceVersion → stored = copy

lemma Orderly.empty : Orderly {} := ⟨(fun h => nomatch h), (fun h => nomatch h)⟩

lemma Orderly.issued {place : Location} {r : Resource} (h : s.Orderly)
    (hr : s.objects.get? place = some r) : s.Issued r := by
  refine ⟨h.versioned hr, fun stored hstored _ => ?_⟩
  rw [h.located hr, hr] at hstored
  exact (Option.some.inj hstored).symm

lemma Touch.lastVersion_le (h : s.Touch s') : s.lastVersion ≤ s'.lastVersion := by
  cases h with
  | kept h => exact Nat.le_of_eq h.lastVersion.symm
  | removed _ _ h => exact h
  | placed _ _ h => omega

/-- The next version has not been given. -/
lemma ne_nextVersion {version : Option String}
    (h : ∃ n ≤ s.lastVersion, version = some (toString n)) : version ≠ some s.nextVersion := by
  obtain ⟨n, hn, rfl⟩ := h
  intro hnext
  have := Nat.repr_injective (Option.some.inj hnext)
  omega

/-- What is stored after an operation was stored before, or was written by it under the next
version. -/
lemma Touch.stored {place : Location} {r : Resource} (h : s.Touch s')
    (hr : s'.objects.get? place = some r) :
    s.objects.get? place = some r ∨ (location r = place ∧ s'.lastVersion = s.lastVersion + 1 ∧
      r.metadata.resourceVersion = some s.nextVersion) := by
  cases h with
  | kept h => exact .inl (h.objects ▸ hr)
  | removed place' hobjects _ =>
    rw [hobjects, Table.get?_erase] at hr
    by_cases hplace : place = place'
    · simp [hplace] at hr
    · exact .inl (by simpa [hplace] using hr)
  | placed r' hobjects hlast =>
    rw [hobjects, Table.get?_insert] at hr
    by_cases hplace : place = location r'
    · obtain rfl : s.stamped r' = r := by simpa [hplace] using hr
      exact .inr ⟨hplace.symm, hlast, rfl⟩
    · exact .inl (by simpa [hplace] using hr)

lemma Orderly.touch (h : s.Orderly) (ht : s.Touch s') : s'.Orderly := by
  refine ⟨fun hr => ?_, fun hr => ?_⟩
  · obtain hr | ⟨hlocation, -⟩ := ht.stored hr
    · exact h.located hr
    · exact hlocation
  · obtain hr | ⟨-, hlast, hversion⟩ := ht.stored hr
    · obtain ⟨n, hn, hversion⟩ := h.versioned hr
      exact ⟨n, Nat.le_trans hn ht.lastVersion_le, hversion⟩
    · exact ⟨s.lastVersion + 1, Nat.le_of_eq hlast.symm, hversion⟩

lemma Issued.touch {copy : Resource} (h : s.Issued copy) (ht : s.Touch s') : s'.Issued copy := by
  obtain ⟨n, hn, hgiven⟩ := h.given
  refine ⟨⟨n, Nat.le_trans hn ht.lastVersion_le, hgiven⟩, fun stored hstored hversion => ?_⟩
  obtain hstored | ⟨-, -, hnext⟩ := ht.stored hstored
  · exact h.alone stored hstored hversion
  · -- a version that is given only now is not the one of a copy handed out before
    exact absurd (hversion.symm.trans hnext) (ne_nextVersion h.given)

/-! ## The operations -/

lemma write_touch {place : Location} {r : Resource} (h : location r = place) :
    s.Touch (s.write place r) :=
  .placed r (congrArg (s.objects.insert · _) h.symm) rfl

lemma FinalizersWritten.touch {copy stored written : Resource} {finalizers : List String}
    (hs : s.Orderly) (h : s.FinalizersWritten s' copy finalizers stored written) :
    s.Touch s' := by
  by_cases hgone : stored.isBeingDeleted ∧ finalizers.isEmpty
  · refine .removed (location copy) ?_ (by rw [h.lastVersion]; omega)
    rw [h.objects, if_pos hgone]
  · refine .placed (withFinalizers stored finalizers) ?_ h.lastVersion
    rw [h.objects, if_neg hgone, h.result]
    exact congrArg (s.objects.insert · _) (hs.located h.found).symm

lemma StatusWritten.touch {copy stored written : Resource} {status : Status}
    (hs : s.Orderly) (h : s.StatusWritten s' copy status stored written) :
    s.Touch s' := by
  refine .placed (withStatus stored status) ?_ h.lastVersion
  rw [h.objects, h.result]
  exact congrArg (s.objects.insert · _) (hs.located h.found).symm

/-- With a copy that the store has handed out, a finalizer write replaces that very copy. -/
lemma FinalizersWritten.stored_eq {copy stored written : Resource} {finalizers : List String}
    (h : s.FinalizersWritten s' copy finalizers stored written) (hcopy : s.Issued copy) :
    stored = copy :=
  hcopy.alone stored h.found h.version

lemma FinalizersWritten.written_eq {copy stored written : Resource} {finalizers : List String}
    (h : s.FinalizersWritten s' copy finalizers stored written) (hcopy : s.Issued copy) :
    written = s.stamped (withFinalizers copy finalizers) := by
  rw [h.result, h.stored_eq hcopy]

/-- With a copy that the store has handed out, a status write replaces that very copy. -/
lemma StatusWritten.stored_eq {copy stored written : Resource} {status : Status}
    (h : s.StatusWritten s' copy status stored written) (hcopy : s.Issued copy) :
    stored = copy :=
  hcopy.alone stored h.found h.version

/-- A finalizer write reaches no other place, and leaves the written resource in its own or
nothing. -/
lemma FinalizersWritten.get? {copy stored written : Resource} {finalizers : List String}
    (h : s.FinalizersWritten s' copy finalizers stored written) (place : Location) :
    s'.objects.get? place = if place = location copy then
      (if stored.isBeingDeleted ∧ finalizers.isEmpty then none else some written)
      else s.objects.get? place := by
  rw [h.objects]
  by_cases hgone : stored.isBeingDeleted ∧ finalizers.isEmpty
  · rw [if_pos hgone, if_pos hgone, Table.get?_erase]
  · rw [if_neg hgone, if_neg hgone, Table.get?_insert]

/-- A status write reaches no other place, and leaves the written resource in its own. -/
lemma StatusWritten.get? {copy stored written : Resource} {status : Status}
    (h : s.StatusWritten s' copy status stored written) (place : Location) :
    s'.objects.get? place =
      if place = location copy then some written else s.objects.get? place := by
  rw [h.objects, Table.get?_insert]

lemma FinalizersWritten.get?_self {copy stored written : Resource} {finalizers : List String}
    (h : s.FinalizersWritten s' copy finalizers stored written) (hne : finalizers ≠ []) :
    s'.objects.get? (location copy) = some written := by
  rw [h.get?, if_pos rfl, if_neg (by simp [hne])]

lemma StatusWritten.get?_self {copy stored written : Resource} {status : Status}
    (h : s.StatusWritten s' copy status stored written) :
    s'.objects.get? (location copy) = some written := by
  rw [h.get?, if_pos rfl]

lemma edit_touch (hs : s.Orderly) (e : Edit) : s.Touch (s.edit e) := by
  cases e with
  | insert r => exact .placed r rfl rfl
  | updateSpec ns name f =>
    show s.Touch (s.updateSpec ns name f)
    obtain h | ⟨r, hr, h⟩ := s.updateSpec_cases ns name f <;> rw [h]
    · exact .kept (.refl s)
    · exact write_touch (by rw [location_withSpec, hs.located hr])
  | markDeleted ns name =>
    show s.Touch (s.markDeleted ns name)
    obtain h | ⟨r, hr, ⟨-, h⟩ | h⟩ := s.markDeleted_cases ns name <;> rw [h]
    · exact .kept (.refl s)
    · exact .removed (ns, name) rfl (Nat.le_refl _)
    · exact write_touch (by rw [location_withMark, hs.located hr])
  | replaceFinalizers copy finalizers =>
    obtain ⟨_, -, h⟩ | ⟨_, _, -, h⟩ := s.replaceFinalizers_cases copy finalizers
    · exact .kept h
    · exact h.touch hs
  | replaceStatus copy status =>
    obtain ⟨_, -, h⟩ | ⟨_, _, -, h⟩ := s.replaceStatus_cases copy status
    · exact .kept h
    · exact h.touch hs
  | injectStatusConflicts count => exact .kept ⟨rfl, rfl⟩
  | injectFinalizerConflicts count => exact .kept ⟨rfl, rfl⟩

/-! ## What a request can have done -/

namespace Serves

lemma get {ns name : String} {outcome : Except Error (Option Resource)}
    (h : s.Serves (.get ns name) outcome s') :
    s' = s ∧ ∀ found, outcome = .ok found → found = s.objects.get? (ns, name) := by
  rcases h with ⟨rfl, rfl⟩ | ⟨e, rfl, rfl⟩
  · exact ⟨rfl, fun found hfound => (Except.ok.inj hfound).symm⟩
  · exact ⟨rfl, fun found hfound => nomatch hfound⟩

lemma error {request : Request} {e : Error} (h : s.Serves request (.error e) s') :
    s.SameContent s' := by
  rcases h with ⟨houtcome, rfl⟩ | ⟨_, -, rfl⟩
  · cases request with
    | get ns name => exact .refl s
    | replaceFinalizers copy finalizers =>
      obtain ⟨_, -, h⟩ | ⟨_, _, hok, -⟩ := s.replaceFinalizers_cases copy finalizers
      · exact h
      · exact nomatch houtcome.trans hok
    | replaceStatus copy status =>
      obtain ⟨_, -, h⟩ | ⟨_, _, hok, -⟩ := s.replaceStatus_cases copy status
      · exact h
      · exact nomatch houtcome.trans hok
  · exact .refl _

lemma replaceFinalizers {copy written : Resource} {finalizers : List String}
    (h : s.Serves (.replaceFinalizers copy finalizers) (.ok written) s') :
    ∃ stored, s.FinalizersWritten s' copy finalizers stored written := by
  rcases h with ⟨houtcome, rfl⟩ | ⟨e, houtcome, -⟩
  · obtain ⟨_, herror, -⟩ | ⟨stored, _, hok, h⟩ := s.replaceFinalizers_cases copy finalizers
    · exact nomatch houtcome.trans herror
    · cases houtcome.trans hok
      exact ⟨stored, h⟩
  · cases houtcome

lemma replaceStatus {copy written : Resource} {status : Status}
    (h : s.Serves (.replaceStatus copy status) (.ok written) s') :
    ∃ stored, s.StatusWritten s' copy status stored written := by
  rcases h with ⟨houtcome, rfl⟩ | ⟨e, houtcome, -⟩
  · obtain ⟨_, herror, -⟩ | ⟨stored, _, hok, h⟩ := s.replaceStatus_cases copy status
    · exact nomatch houtcome.trans herror
    · cases houtcome.trans hok
      exact ⟨stored, h⟩
  · cases houtcome

lemma touch (hs : s.Orderly) {request : Request} {outcome : request.Outcome}
    (h : s.Serves request outcome s') : s.Touch s' := by
  cases outcome with
  | error e => exact .kept h.error
  | ok reply =>
    cases request with
    | get ns name =>
      obtain ⟨rfl, -⟩ := h.get
      exact .kept (.refl _)
    | replaceFinalizers copy finalizers =>
      obtain ⟨_, h⟩ := h.replaceFinalizers
      exact h.touch hs
    | replaceStatus copy status =>
      obtain ⟨_, h⟩ := h.replaceStatus
      exact h.touch hs

/-- A resource in a reply is a copy that the store has handed out. -/
lemma issued (hs : s.Orderly) {ns name : String} {r : Resource}
    (h : s.Serves (.get ns name) (.ok (some r)) s') : s'.Issued r := by
  obtain ⟨rfl, hfound⟩ := h.get
  exact hs.issued (hfound _ rfl).symm

end Serves

/-! ## Without other writers -/

/-- A finalizer write that is based on what is stored replaces that, unless a conflict is
injected. -/
lemma replaceFinalizers_stored {r : Resource} (hr : s.objects.get? (location r) = some r)
    (finalizers : List String) :
    (0 < s.finalizerConflicts ∧ ∃ e, (s.replaceFinalizers r finalizers).1 = .error e) ∨
      ∃ written, (s.replaceFinalizers r finalizers).1 = .ok written ∧
        s.FinalizersWritten (s.replaceFinalizers r finalizers).2 r finalizers r written := by
  obtain ⟨e, herror, -⟩ | ⟨stored, written, hok, hwritten⟩ :=
    s.replaceFinalizers_cases r finalizers
  · refine .inl ⟨Nat.pos_of_ne_zero fun hnone => ?_, e, herror⟩
    simp [replaceFinalizers, basis, hr, hnone] at herror
  · obtain rfl : r = stored := Option.some.inj (hr.symm.trans hwritten.found)
    exact .inr ⟨written, hok, hwritten⟩

/-- A status write that is based on what is stored replaces that, unless a conflict is injected. -/
lemma replaceStatus_stored {r : Resource} (hr : s.objects.get? (location r) = some r)
    (status : Status) :
    (0 < s.statusConflicts ∧ (∃ e, (s.replaceStatus r status).1 = .error e) ∧
        s.SameContent (s.replaceStatus r status).2) ∨
      ∃ written, (s.replaceStatus r status).1 = .ok written ∧
        s.StatusWritten (s.replaceStatus r status).2 r status r written := by
  obtain ⟨e, herror, hsame⟩ | ⟨stored, written, hok, hwritten⟩ := s.replaceStatus_cases r status
  · refine .inl ⟨Nat.pos_of_ne_zero fun hnone => ?_, ⟨e, herror⟩, hsame⟩
    simp [replaceStatus, basis, hr, hnone] at herror
  · obtain rfl : r = stored := Option.some.inj (hr.symm.trans hwritten.found)
    exact .inr ⟨written, hok, hwritten⟩

/-- No other writer is going to be first. -/
structure Unopposed (s : InMemory) : Prop where
  status : s.statusConflicts = 0
  finalizers : s.finalizerConflicts = 0

lemma Unopposed.serve (h : s.Unopposed) (request : Request) : (s.serve request).2.Unopposed := by
  obtain ⟨hstatus, hfinalizers⟩ := h
  cases request with
  | get ns name => exact ⟨hstatus, hfinalizers⟩
  | replaceFinalizers copy finalizers =>
    unfold InMemory.serve InMemory.replaceFinalizers
    dsimp only
    split
    · exact ⟨hstatus, by simp [hfinalizers]⟩
    · split
      · exact ⟨hstatus, by simp [write, hfinalizers]⟩
      · exact ⟨hstatus, by simp [write, hfinalizers]⟩
  | replaceStatus copy status =>
    unfold InMemory.serve InMemory.replaceStatus
    dsimp only
    split
    · exact ⟨by simp [hstatus], hfinalizers⟩
    · exact ⟨by simp [write, hstatus], hfinalizers⟩

end InMemory

end TargetRegistrar.Store
