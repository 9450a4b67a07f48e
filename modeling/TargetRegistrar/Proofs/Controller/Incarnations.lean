import TargetRegistrar.Proofs.Controller.Cancellation
import TargetRegistrar.Proofs.Controller.Ownership

/-!
# Incarnations of a resource

While a pass is under way, its resource may be removed, and another one inserted under the same
namespace and name.  A status write never meets that other resource by accident: it is based on the
copy that was fetched last, and replaces that very copy.  But the copy is fetched by its name, so
that it may be of another incarnation than the one that the pass has read at its start, and will be
if the resource was replaced before.

`Story` is a trail with the edits of others in their places, so that it can be said when the
resource was replaced.  `Traced` is the invariant, and `status_write_lineage` the result.
-/

namespace TargetRegistrar.Controller

open Store

/-! ## Stories -/

/-- What happens while a pass is under way. -/
inductive Happening where
  | edited (e : Edit)
  | asked (x : Exchange)

/-- Whether the pass has asked the store something. -/
def Happening.isRequest : Happening → Bool
  | edited _ => false
  | asked x => x.query.isRequest

/-- The exchanges among the happenings. -/
def exchanges (events : List Happening) : List Exchange :=
  events.filterMap fun
    | .edited _ => none
    | .asked x => some x

/-- The pass `p` is left with `rest` to do in the store `s`, after the happenings, the last one
first. -/
inductive Story {α : Type} (p : Program α) :
    Program α → Store.InMemory → List Happening → Prop where
  | start : Story p p {} []
  | edited {rest : Program α} {s : Store.InMemory} {events : List Happening}
      (h : Story p rest s events) (e : Edit) : Story p rest (s.edit e) (.edited e :: events)
  | asked {q : Query} {next : q.Answer → Program α} {s s' : Store.InMemory}
      {events : List Happening} (h : Story p (.ask q next) s events) (answer : q.Answer)
      (hs : Answers s q answer s') : Story p (next answer) s' (.asked ⟨q, answer, s⟩ :: events)

namespace Story

variable {α P : Type} {M : P → (q : Query) → q.Answer → P → Prop} {start : P}
  {post : α → P → Prop} {p rest : Program α} {s : Store.InMemory} {events : List Happening}

/-- A story without its edits is a trail. -/
lemma trail (h : Story p rest s events) : Trail p rest s (exchanges events) := by
  induction h with
  | start => exact .start
  | edited _ e ih => exact ih.edited e
  | asked _ answer hs ih => exact ih.asked answer hs

lemma orderly (h : Story p rest s events) : s.Orderly :=
  h.trail.orderly

/-- An exchange of a story ended an earlier story. -/
lemma of_suffix {x : Exchange} {earlier : List Happening} (h : Story p rest s events)
    (hx : .asked x :: earlier <:+ events) :
    ∃ next s', Story p (.ask x.query next) x.before earlier ∧
      Answers x.before x.query x.answer s' := by
  induction h with
  | start => simp at hx
  | edited _ _ ih =>
    obtain hx | hx := List.suffix_cons_iff.mp hx
    · cases hx
    · exact ih hx
  | asked h _ hs ih =>
    obtain hx | hx := List.suffix_cons_iff.mp hx
    · cases hx
      exact ⟨_, _, h, hs⟩
    · exact ih hx

/-- An assertion that every edit and every move hands on holds in the phase that a program has come
to. -/
lemma exists_follows {At : P → Store.InMemory → List Happening → Prop} (hstart : At start {} [])
    (hedited : ∀ {ph s events}, s.Orderly → ∀ e : Edit, At ph s events →
      At ph (s.edit e) (.edited e :: events))
    (hmoved : ∀ {ph ph' q answer s s' events}, s.Orderly → At ph s events → M ph q answer ph' →
      Answers s q answer s' → At ph' s' (.asked ⟨q, answer, s⟩ :: events))
    (hp : p.Follows M post start) (h : Story p rest s events) :
    ∃ ph, rest.Follows M post ph ∧ At ph s events := by
  induction h with
  | start => exact ⟨start, hp, hstart⟩
  | edited h e ih =>
    obtain ⟨ph, hfollows, hph⟩ := ih
    exact ⟨ph, hfollows, hedited h.orderly e hph⟩
  | asked h answer hs ih =>
    obtain ⟨ph, hfollows, hph⟩ := ih
    obtain ⟨ph', hmoves, hnext⟩ := hfollows answer
    exact ⟨ph', hnext, hmoved h.orderly hph hmoves hs⟩

end Story

/-! ## What is stored keeps its identity -/

/-- What is stored after a change was stored there before it, under the same identity. -/
def KeepsIdentities (s s' : Store.InMemory) : Prop :=
  ∀ place r', s'.objects.get? place = some r' →
    ∃ r, s.objects.get? place = some r ∧ r'.metadata.uid = r.metadata.uid

section Identities

variable {s s' : Store.InMemory} {place : Location} {r r' : Resource}

lemma keepsIdentities_of_objects (h : s'.objects = s.objects) : KeepsIdentities s s' :=
  fun _ r' hr' => ⟨r', h ▸ hr', rfl⟩

lemma keepsIdentities_insert (hr : s.objects.get? place = some r)
    (huid : r'.metadata.uid = r.metadata.uid) (h : s'.objects = s.objects.insert place r') :
    KeepsIdentities s s' := by
  intro place' stored' hstored'
  rw [h, Table.get?_insert] at hstored'
  by_cases hplace : place' = place
  · rw [if_pos hplace] at hstored'
    obtain rfl : r' = stored' := Option.some.inj hstored'
    exact ⟨r, hplace ▸ hr, huid⟩
  · rw [if_neg hplace] at hstored'
    exact ⟨stored', hstored', rfl⟩

lemma keepsIdentities_erase (h : s'.objects = s.objects.erase place) : KeepsIdentities s s' := by
  intro place' stored' hstored'
  rw [h, Table.get?_erase] at hstored'
  by_cases hplace : place' = place
  · simp [hplace] at hstored'
  · rw [if_neg hplace] at hstored'
    exact ⟨stored', hstored', rfl⟩

lemma keepsIdentities_finalizers {copy stored written : Resource} {finalizers : List String}
    (h : s.FinalizersWritten s' copy finalizers stored written) : KeepsIdentities s s' := by
  have hobjects := h.objects
  split at hobjects
  · exact keepsIdentities_erase hobjects
  · refine keepsIdentities_insert h.found ?_ hobjects
    rw [h.result]
    rfl

lemma keepsIdentities_status {copy stored written : Resource} {status : Status}
    (h : s.StatusWritten s' copy status stored written) : KeepsIdentities s s' := by
  refine keepsIdentities_insert h.found ?_ h.objects
  rw [h.result]
  rfl

/-- No edit but an insertion changes an identity. -/
lemma keepsIdentities_edit (e : Edit) (hne : ∀ r, e ≠ .insert r) :
    KeepsIdentities s (s.edit e) := by
  cases e with
  | insert r => exact absurd rfl (hne r)
  | updateSpec ns name f =>
    show KeepsIdentities s (s.updateSpec ns name f)
    obtain h | ⟨r, hr, h⟩ := s.updateSpec_cases ns name f <;> rw [h]
    · exact keepsIdentities_of_objects rfl
    · have huid : (s.stamped (InMemory.withSpec r f)).metadata.uid = r.metadata.uid := rfl
      exact keepsIdentities_insert hr huid rfl
  | markDeleted ns name =>
    show KeepsIdentities s (s.markDeleted ns name)
    obtain h | ⟨r, hr, ⟨-, h⟩ | h⟩ := s.markDeleted_cases ns name <;> rw [h]
    · exact keepsIdentities_of_objects rfl
    · exact keepsIdentities_erase rfl
    · have huid : (s.stamped (InMemory.withMark r)).metadata.uid = r.metadata.uid := rfl
      exact keepsIdentities_insert hr huid rfl
  | replaceFinalizers copy finalizers =>
    obtain ⟨_, -, h⟩ | ⟨_, _, -, h⟩ := s.replaceFinalizers_cases copy finalizers
    · exact keepsIdentities_of_objects h.objects
    · exact keepsIdentities_finalizers h
  | replaceStatus copy status =>
    obtain ⟨_, -, h⟩ | ⟨_, _, -, h⟩ := s.replaceStatus_cases copy status
    · exact keepsIdentities_of_objects h.objects
    · exact keepsIdentities_status h
  | injectStatusConflicts count => exact keepsIdentities_of_objects rfl
  | injectFinalizerConflicts count => exact keepsIdentities_of_objects rfl

/-- No question of a pass changes an identity. -/
lemma Answers.keepsIdentities {q : Query} {answer : q.Answer} (h : Answers s q answer s') :
    KeepsIdentities s s' := by
  cases q with
  | store request =>
    have hserves : s.Serves request answer s' := h
    cases answer with
    | error e => exact keepsIdentities_of_objects hserves.error.objects
    | ok reply =>
      cases request with
      | get ns name =>
        obtain ⟨rfl, -⟩ := hserves.get
        exact keepsIdentities_of_objects rfl
      | replaceFinalizers copy finalizers =>
        obtain ⟨_, hwritten⟩ := hserves.replaceFinalizers
        exact keepsIdentities_finalizers hwritten
      | replaceStatus copy status =>
        obtain ⟨_, hwritten⟩ := hserves.replaceStatus
        exact keepsIdentities_status hwritten
  | _ =>
    obtain rfl : s' = s := h
    exact keepsIdentities_of_objects rfl

end Identities

/-! ## The lineage of a copy -/

/-- A resource of another identity was inserted in a place. -/
def Supplanted (place : Location) (uid : Option String) (events : List Happening) : Prop :=
  ∃ r, .edited (.insert r) ∈ events ∧ location r = place ∧ r.metadata.uid ≠ uid

/-- The happenings begin with the first copy that the pass has read, and `since` is what has
happened since. -/
structure Began (ns name : String) (first : Resource) (since events : List Happening) : Prop where
  split : ∃ before opening,
    events = since ++ .asked ⟨.store (.get ns name), .ok (some first), before⟩ :: opening ∧
      ∀ x ∈ opening, x.isRequest = false

/-- The last request to the store has fetched a copy, which is of the same identity as the first one
unless the resource had been replaced by then. -/
structure Refetched (ns name : String) (first latest : Resource) (since : List Happening) :
    Prop where
  split : ∃ before after earlier,
    since = after ++ .asked ⟨.store (.get ns name), .ok (some latest), before⟩ :: earlier ∧
      (∀ x ∈ after, x.isRequest = false) ∧
      (latest.metadata.uid = first.metadata.uid ∨
        Supplanted (ns, name) first.metadata.uid earlier)

/-- What is stored in the place of the pass is of the same identity as the first copy, unless the
resource has been replaced. -/
def Persists (place : Location) (first : Resource) (s : Store.InMemory)
    (since : List Happening) : Prop :=
  Supplanted place first.metadata.uid since ∨
    ∀ r, s.objects.get? place = some r → r.metadata.uid = first.metadata.uid

/-- What is known of the copies of a pass in each phase. -/
def Traced (ns name : String) : Phase → Store.InMemory → List Happening → Prop
  | .opening, _, events => ∀ x ∈ events, x.isRequest = false
  | .ended, _, _ => True
  | .writing _ _ latest, s, events => ∃ first since, Began ns name first since events ∧
      Persists (ns, name) first s since ∧ Refetched ns name first latest since
  | _, s, events => ∃ first since, Began ns name first since events ∧
      Persists (ns, name) first s since

section Lineage

variable {c : Config} {ns name : String} {place : Location} {uid : Option String}
  {first latest : Resource} {s s' : Store.InMemory} {since events : List Happening} {x : Happening}
  {ph ph' : Phase} {q : Query} {answer : q.Answer}

lemma Supplanted.weaken (h : Supplanted place uid events) (x : Happening) :
    Supplanted place uid (x :: events) := by
  obtain ⟨r, hr, hplace, huid⟩ := h
  exact ⟨r, List.mem_cons_of_mem x hr, hplace, huid⟩

lemma Began.cons (h : Began ns name first since events) (x : Happening) :
    Began ns name first (x :: since) (x :: events) := by
  obtain ⟨before, opening, rfl, hopening⟩ := h.split
  exact ⟨before, opening, rfl, hopening⟩

lemma Refetched.cons (h : Refetched ns name first latest since) (hx : x.isRequest = false) :
    Refetched ns name first latest (x :: since) := by
  obtain ⟨before, after, earlier, rfl, hafter, huid⟩ := h.split
  exact ⟨before, x :: after, earlier, rfl, List.forall_mem_cons.mpr ⟨hx, hafter⟩, huid⟩

lemma Persists.asked (h : Persists place first s since) (ha : Answers s q answer s') :
    Persists place first s' (.asked ⟨q, answer, s⟩ :: since) := by
  obtain h | h := h
  · exact .inl (h.weaken _)
  · refine .inr fun r' hr' => ?_
    obtain ⟨r, hr, huid⟩ := ha.keepsIdentities place r' hr'
    rw [huid, h r hr]

/-- Only an insertion can replace a resource by one of another identity. -/
lemma Persists.edited (h : Persists place first s since) (e : Edit) :
    Persists place first (s.edit e) (.edited e :: since) := by
  obtain h | h := h
  · exact .inl (h.weaken _)
  · by_cases hinsert : ∃ r, e = .insert r
    · obtain ⟨r, rfl⟩ := hinsert
      by_cases hother : location r = place ∧ r.metadata.uid ≠ first.metadata.uid
      · exact .inl ⟨r, List.mem_cons_self, hother.1, hother.2⟩
      · refine .inr fun r' hr' => ?_
        have hstored : (s.objects.insert (location r) (s.stamped r)).get? place = some r' := hr'
        rw [Table.get?_insert] at hstored
        by_cases hplace : place = location r
        · rw [if_pos hplace] at hstored
          obtain rfl : s.stamped r = r' := Option.some.inj hstored
          by_contra huid
          exact hother ⟨hplace.symm, huid⟩
        · rw [if_neg hplace] at hstored
          exact h r' hstored
    · refine .inr fun r' hr' => ?_
      obtain ⟨r, hr, huid⟩ := keepsIdentities_edit e (not_exists.mp hinsert) place r' hr'
      rw [huid, h r hr]

namespace Traced

/-- Once a copy has been read, it stays known. -/
lemma exists_began (h : Traced ns name ph s events) (hopening : ph ≠ .opening)
    (hended : ph ≠ .ended) :
    ∃ first since, Began ns name first since events ∧ Persists (ns, name) first s since := by
  cases ph with
  | opening => exact absurd rfl hopening
  | ended => exact absurd rfl hended
  | writing r change latest =>
    obtain ⟨first, since, hbegan, hpersists, -⟩ := h
    exact ⟨first, since, hbegan, hpersists⟩
  | _ => exact h

lemma edited (h : Traced ns name ph s events) (e : Edit) :
    Traced ns name ph (s.edit e) (.edited e :: events) := by
  cases ph with
  | opening => exact List.forall_mem_cons.mpr ⟨rfl, h⟩
  | ended => trivial
  | writing r change latest =>
    obtain ⟨first, since, hbegan, hpersists, hrefetched⟩ := h
    exact ⟨first, _, hbegan.cons _, hpersists.edited e, hrefetched.cons rfl⟩
  | _ =>
    obtain ⟨first, since, hbegan, hpersists⟩ := h
    exact ⟨first, _, hbegan.cons _, hpersists.edited e⟩

lemma asked_idle (h : Traced ns name ph s events) (hq : q.isIdle) (ha : Answers s q answer s') :
    Traced ns name ph s' (.asked ⟨q, answer, s⟩ :: events) := by
  have hrequest : Happening.isRequest (.asked ⟨q, answer, s⟩) = false := by
    cases q with
    | store request => cases hq
    | _ => rfl
  cases ph with
  | opening => exact List.forall_mem_cons.mpr ⟨hrequest, h⟩
  | ended => trivial
  | writing r change latest =>
    obtain ⟨first, since, hbegan, hpersists, hrefetched⟩ := h
    exact ⟨first, _, hbegan.cons _, hpersists.asked ha, hrefetched.cons hrequest⟩
  | _ =>
    obtain ⟨first, since, hbegan, hpersists⟩ := h
    exact ⟨first, _, hbegan.cons _, hpersists.asked ha⟩

/-- The copy that is read first is what the store then holds. -/
lemma read {r : Resource} (h : Traced ns name .opening s events) (hbegins : ph.Begins c r)
    (ha : s.Serves (.get ns name) (.ok (some r)) s') :
    Traced ns name ph s' (.asked ⟨.store (.get ns name), .ok (some r), s⟩ :: events) := by
  obtain ⟨rfl, hfound⟩ := ha.get
  have hstored : s'.objects.get? (ns, name) = some r := (hfound _ rfl).symm
  have hbegan : Began ns name r []
      (.asked ⟨.store (.get ns name), .ok (some r), s'⟩ :: events) := ⟨s', events, rfl, h⟩
  have hpersists : Persists (ns, name) r s' [] := by
    refine .inr fun r' hr' => ?_
    rw [hstored] at hr'
    obtain rfl := Option.some.inj hr'
    rfl
  cases hbegins with
  | ended _ => trivial
  | _ => exact ⟨r, [], hbegan, hpersists⟩

/-- The copy that is fetched is what the store then holds. -/
lemma fetched (h : ∃ first since, Began ns name first since events ∧
      Persists (ns, name) first s since) {r : Resource} {change : StatusChange}
    (ha : s.Serves (.get ns name) (.ok (some latest)) s') :
    Traced ns name (.writing r change latest) s'
      (.asked ⟨.store (.get ns name), .ok (some latest), s⟩ :: events) := by
  obtain ⟨first, since, hbegan, hpersists⟩ := h
  have hanswers : Answers s (.store (.get ns name)) (.ok (some latest)) s' := ha
  have hpersists' := hpersists.asked hanswers
  obtain ⟨rfl, hfound⟩ := ha.get
  have hstored : s'.objects.get? (ns, name) = some latest := (hfound _ rfl).symm
  refine ⟨first, _, hbegan.cons _, hpersists', s', [], since, rfl, by simp, ?_⟩
  obtain hsupplanted | hkept := hpersists
  · exact .inr hsupplanted
  · exact .inl (hkept latest hstored)

lemma moved {trail : List Exchange} (hanchored : Anchored (ns, name) ph s trail)
    (h : Traced ns name ph s events) (hm : Moves c ns name ph q answer ph')
    (ha : Answers s q answer s') : Traced ns name ph' s' (.asked ⟨q, answer, s⟩ :: events) := by
  -- in a phase that has read a copy, what is known of it outlasts the exchange
  have hcarried (hopening : ph ≠ .opening) (hended : ph ≠ .ended) :
      ∃ first since, Began ns name first since (.asked ⟨q, answer, s⟩ :: events) ∧
        Persists (ns, name) first s' since := by
    obtain ⟨first, since, hbegan, hpersists⟩ := h.exists_began hopening hended
    exact ⟨first, _, hbegan.cons _, hpersists.asked ha⟩
  cases hm with
  | idle _ hidle => exact h.asked_idle hidle ha
  | read hbegins => exact read h hbegins ha
  | readNothing _ => trivial
  | attach => exact hcarried (by simp) (by simp)
  | attachRefused => trivial
  | called hcalls _ => cases hcalls <;> exact hcarried (by simp) (by simp)
  | failed hcalls _ => cases hcalls <;> exact hcarried (by simp) (by simp)
  | @fetch _ r latest _ ns' name' hfetches hns hname =>
    have hplace : location r = (ns, name) := hanchored.fetches hfetches
    have hplace' : location r = (ns', name') := by simp [location, hns, hname]
    obtain ⟨rfl, rfl⟩ := Prod.mk.inj (hplace'.symm.trans hplace)
    have hbegan := h.exists_began (by rintro rfl; cases hfetches) (by rintro rfl; cases hfetches)
    exact fetched hbegan ha
  | fetchNothing _ _ _ _ => trivial
  | write => exact hcarried (by simp) (by simp)
  | writeRefused => exact hcarried (by simp) (by simp)
  | detach _ => trivial

end Traced

/-- What is known of a pass wherever it has come to. -/
structure Situated (ns name : String) (ph : Phase) (s : Store.InMemory) (events : List Happening) :
    Prop where
  anchored : Anchored (ns, name) ph s (exchanges events)
  traced : Traced ns name ph s events

lemma situated_start : Situated ns name .opening {} [] where
  anchored := trivial
  traced := fun _ hx => absurd hx List.not_mem_nil

/-- A pass keeps to its lineage wherever it has come to. -/
lemma Story.exists_situated {rest : Program (Except Error Directive)}
    (h : Story (reconcile c ns name).run rest s events) :
    ∃ ph, rest.Follows (Moves c ns name) (unlessStopped fun _ _ => True) ph ∧
      Situated ns name ph s events := by
  refine h.exists_follows situated_start ?_ ?_ (reconcile_follows c ns name)
  · intro ph s events hs e hsituated
    have htouch := Store.InMemory.edit_touch hs e
    exact ⟨hsituated.anchored.touched htouch, hsituated.traced.edited e⟩
  · intro ph ph' q answer s s' events hs hsituated hm ha
    exact ⟨hsituated.anchored.moved hs hm ha, hsituated.traced.moved hsituated.anchored hm ha⟩

end Lineage

/-! ## Status writes -/

/-- Where a status write that has been accepted comes from. -/
structure WrittenTo (ns name : String) (copy written : Resource) (before : Store.InMemory)
    (earlier : List Happening) : Prop where
  /-- The copy that the write is based on is what it replaces. -/
  stored : before.objects.get? (ns, name) = some copy
  kept : written.metadata.uid = copy.metadata.uid
  /-- The copy has been fetched directly before, and is of the same identity as the one that the
  pass has read at its start, unless the resource was replaced between the two. -/
  lineage : ∃ first since, Began ns name first since earlier ∧ Refetched ns name first copy since

/-- Every status write of a pass is applied to the very object that was fetched for it by the name
of the resource, however others interfere.  This is the incarnation that the pass has read at its
start unless another one was inserted before the object was fetched. -/
theorem status_write_lineage {c : Config} {ns name : String}
    {rest : Program (Except Error Directive)} {s before : Store.InMemory}
    {events earlier : List Happening} {copy written : Resource} {status : Status}
    (h : Story (reconcile c ns name).run rest s events)
    (hx : .asked ⟨.store (.replaceStatus copy status), .ok written, before⟩ :: earlier <:+ events) :
    WrittenTo ns name copy written before earlier := by
  obtain ⟨next, after, hbefore, hanswers⟩ := h.of_suffix hx
  obtain ⟨ph, hfollows, hsituated⟩ := hbefore.exists_situated
  obtain ⟨ph', hmoves, -⟩ := hfollows (.ok written)
  have hserves : before.Serves (.replaceStatus copy status) (.ok written) after := hanswers
  obtain ⟨stored, hwritten⟩ := hserves.replaceStatus
  cases hmoves with
  | idle _ hidle => cases hidle
  | write =>
    obtain ⟨-, hissued, hplace⟩ := hsituated.anchored
    obtain ⟨first, since, hbegan, -, hrefetched⟩ := hsituated.traced
    obtain rfl : stored = copy := hwritten.stored_eq hissued
    have hfound := hwritten.found
    rw [hplace] at hfound
    exact ⟨hfound, by rw [hwritten.result]; rfl, first, since, hbegan, hrefetched⟩

/-- The status of a resource whose target has just been seen operational. -/
def sampleLooked (r : Resource) : Status :=
  StatusChange.applyTo deletionInstant r (.observed (some 1) ⟨"READY", []⟩)

/-- A pass that has nothing to do with other incarnations writes to the one that it has read. -/
theorem status_write_lineage_undisturbed :
    ∃ (rest : Program (Except Error Directive)) (s before : Store.InMemory)
      (events earlier : List Happening) (written : Resource),
      Story (reconcile sampleConfig "tools" "files").run rest s events ∧
      .asked ⟨.store (.replaceStatus sampleRegisteredStored (sampleLooked sampleRegisteredStored)),
        .ok written, before⟩ :: earlier <:+ events ∧
      WrittenTo "tools" "files" sampleRegisteredStored written before earlier := by
  have hstart : Story (reconcile sampleConfig "tools" "files").run _ _ _ := .start
  have hopened := (hstart.edited (.insert sampleRegistered)).asked (q := .isCancelled) false rfl
  have hread := hopened.asked (q := .store (.get "tools" "files"))
    (.ok (some sampleRegisteredStored)) (.inl ⟨by decide +kernel, rfl⟩)
  have hseen := hread.asked (q := .gateway (.get "gw" "target-1"))
    (.finished (.ok ⟨"READY", []⟩)) rfl
  have hcounted := hseen.asked (q := .countCall .get true) () rfl
  have hfetched := hcounted.asked (q := .store (.get "tools" "files"))
    (.ok (some sampleRegisteredStored)) (.inl ⟨by decide +kernel, rfl⟩)
  have htimed := hfetched.asked (q := .now) deletionInstant rfl
  have hwritten := htimed.asked
    (q := .store (.replaceStatus sampleRegisteredStored (sampleLooked sampleRegisteredStored)))
    (.ok (sampleRegisteredStore.stamped
      (InMemory.withStatus sampleRegisteredStored (sampleLooked sampleRegisteredStored))))
    (.inl ⟨by decide +kernel, rfl⟩)
  exact ⟨_, _, _, _, _, _, hwritten, List.suffix_rfl,
    status_write_lineage hwritten List.suffix_rfl⟩

/-- A resource of another identity under the same namespace and name, and nothing known of its
target. -/
def sampleSuccessor : Resource :=
  { sampleRegistered with
    metadata := { sampleRegistered.metadata with uid := some "u2" }, status := none }

/-- The store in which that resource has taken the place of the registered one. -/
def sampleReplacedStore : Store.InMemory :=
  sampleRegisteredStore.edit (.insert sampleSuccessor)

/-- The resource as that store holds it. -/
def sampleReplaced : Resource :=
  (sampleReplacedStore.current "tools" "files").getD sampleSuccessor

/-- A status write may reach another incarnation than the one that the pass has read: what is seen
of the target of one resource is recorded for the resource that was inserted in its place
meanwhile. -/
theorem not_status_write_reaches_first_read :
    ¬ ∀ (c : Config) (ns name : String) (rest : Program (Except Error Directive))
      (s before : Store.InMemory) (events earlier since : List Happening)
      (first copy written : Resource) (status : Status),
      Story (reconcile c ns name).run rest s events →
      .asked ⟨.store (.replaceStatus copy status), .ok written, before⟩ :: earlier <:+ events →
      Began ns name first since earlier → copy.metadata.uid = first.metadata.uid := by
  intro hlaw
  have hstart : Story (reconcile sampleConfig "tools" "files").run _ _ _ := .start
  have hopened := (hstart.edited (.insert sampleRegistered)).asked (q := .isCancelled) false rfl
  have hread := hopened.asked (q := .store (.get "tools" "files"))
    (.ok (some sampleRegisteredStored)) (.inl ⟨by decide +kernel, rfl⟩)
  have hseen := hread.asked (q := .gateway (.get "gw" "target-1"))
    (.finished (.ok ⟨"READY", []⟩)) rfl
  have hcounted := hseen.asked (q := .countCall .get true) () rfl
  have hreplaced := hcounted.edited (.insert sampleSuccessor)
  have hfetched := hreplaced.asked (q := .store (.get "tools" "files"))
    (.ok (some sampleReplaced)) (.inl ⟨by decide +kernel, rfl⟩)
  have htimed := hfetched.asked (q := .now) deletionInstant rfl
  have hwritten := htimed.asked
    (q := .store (.replaceStatus sampleReplaced (sampleLooked sampleReplaced)))
    (.ok (sampleReplacedStore.stamped
      (InMemory.withStatus sampleReplaced (sampleLooked sampleReplaced))))
    (.inl ⟨by decide +kernel, rfl⟩)
  -- the first copy was read five happenings before the write
  have huid := hlaw _ _ _ _ _ _ _ _ [_, _, _, _, _] sampleRegisteredStored _ _ _ hwritten
    List.suffix_rfl ⟨_, [_, _], rfl, by simp [Happening.isRequest, Query.isRequest]⟩
  exact absurd huid (by decide +kernel)

end TargetRegistrar.Controller
