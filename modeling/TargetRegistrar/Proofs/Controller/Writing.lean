import TargetRegistrar.Proofs.Controller.Release

/-!
# Status writes

A status is written by fetching the latest copy, changing its status and sending the result back,
and once more from the start when another writer was first.  Other writers may come in between any
two of these steps.  The write is atomic all the same: if it succeeds, the copy that was changed is
what the store held at the instant of the write, because the store accepts only the version that it
holds and gives every version once; if it fails, nothing has changed.

`Attempts` and `Ended` describe the trail of a write from its first exchange to its last.
`Writes` is the relation that the programs keep to, `update_follows` says so for each of them, and
`status_update_atomic` is the result.
-/

namespace TargetRegistrar.Controller

open Store Gateway

/-! ## Updates -/

/-- What the controller writes into a status. -/
inductive StatusUpdate where
  | created (target : CreatedTarget)
  | observed (state : TargetState)
  | condition (condition : Condition)
  | ready
  | notReady (reason message : String)

namespace StatusUpdate

/-- The program that makes an update; it starts from a copy of the resource. -/
def program (r : Resource) : StatusUpdate → Pass Store.Error Resource
  | created target => recordCreated r target
  | observed state => recordState r state
  | condition c => putCondition r c
  | ready => setReady r
  | notReady reason message => setNotReady r reason message

/-- What is asked before the first attempt, and the change that is to be made then.  A condition on
readiness carries the time at which the update began. -/
inductive Begins (r : Resource) : StatusUpdate → List Exchange → StatusChange → Prop where
  | created (target : CreatedTarget) :
      Begins r (created target) [] (.created r.metadata.generation target)
  | observed (state : TargetState) :
      Begins r (observed state) [] (.observed r.metadata.generation state)
  | condition (c : Condition) : Begins r (condition c) [] (.condition c)
  | ready (began : Timestamp) (before : Store.InMemory) :
      Begins r ready [⟨.now, began, before⟩] (.condition ⟨Condition.readyType, .holds,
        "GatewayTargetReady", "Gateway target is ready and accepting requests", began,
        r.metadata.generation⟩)
  | notReady (reason message : String) (began : Timestamp) (before : Store.InMemory) :
      Begins r (notReady reason message) [⟨.now, began, before⟩] (.condition
        ⟨Condition.readyType, .fails, reason, message, began, r.metadata.generation⟩)

end StatusUpdate

/-- Fetches the latest copy of a resource. -/
abbrev fetchLatest (r : Resource) : Store.Request :=
  .get (location r).1 (location r).2

/-- The trail of an update after a number of attempts, all of which met another writer. -/
inductive Attempts (u : StatusUpdate) (r : Resource) (change : StatusChange) :
    Nat → List Exchange → Prop where
  | begun {trail : List Exchange} (h : u.Begins r trail change) : Attempts u r change 0 trail
  | refused {n : Nat} {latest : Resource} {now : Timestamp} {e : Store.Error}
      {fetched timed before : Store.InMemory} {earlier : List Exchange}
      (h : Attempts u r change n earlier) (he : e.isConflict) :
      Attempts u r change (n + 1)
        (⟨.store (.replaceStatus latest (change.applyTo now latest)), .error e, before⟩ ::
          ⟨.now, now, timed⟩ :: ⟨.store (fetchLatest r), .ok (some latest), fetched⟩ :: earlier)

/-- The trail of an update that has ended, and what it has returned. -/
inductive Ended (u : StatusUpdate) (r : Resource) :
    Except Store.Error Resource → List Exchange → Prop where
  /-- The copy does not say where it belongs. -/
  | unplaced {change : StatusChange} {field : String} {trail : List Exchange}
      (h : u.Begins r trail change) : Ended u r (.error (.missingMetadata field)) trail
  | unfetched {change : StatusChange} {n : Nat} {e : Store.Error} {before : Store.InMemory}
      {earlier : List Exchange} (h : Attempts u r change n earlier) (hn : n ≤ statusRetries) :
      Ended u r (.error e) (⟨.store (fetchLatest r), .error e, before⟩ :: earlier)
  | gone {change : StatusChange} {n : Nat} {before : Store.InMemory} {earlier : List Exchange}
      (h : Attempts u r change n earlier) (hn : n ≤ statusRetries) :
      Ended u r (.error (.notFound r.key))
        (⟨.store (fetchLatest r), .ok none, before⟩ :: earlier)
  /-- The change changes nothing. -/
  | same {change : StatusChange} {n : Nat} {latest : Resource} {now : Timestamp}
      {fetched timed : Store.InMemory} {earlier : List Exchange}
      (h : Attempts u r change n earlier) (hn : n ≤ statusRetries)
      (hfound : fetched.objects.get? (location r) = some latest)
      (hsame : latest.status = some (change.applyTo now latest)) :
      Ended u r (.ok latest)
        (⟨.now, now, timed⟩ :: ⟨.store (fetchLatest r), .ok (some latest), fetched⟩ :: earlier)
  | written {change : StatusChange} {n : Nat} {latest written : Resource} {now : Timestamp}
      {fetched timed before after : Store.InMemory} {earlier : List Exchange}
      (h : Attempts u r change n earlier) (hn : n ≤ statusRetries) (hs : before.Orderly)
      (hplace : location latest = location r)
      (hwritten : before.StatusWritten after latest (change.applyTo now latest) latest written)
      (hserved : before.Serves (.replaceStatus latest (change.applyTo now latest))
        (.ok written) after) :
      Ended u r (.ok written)
        (⟨.store (.replaceStatus latest (change.applyTo now latest)), .ok written, before⟩ ::
          ⟨.now, now, timed⟩ :: ⟨.store (fetchLatest r), .ok (some latest), fetched⟩ :: earlier)
  | refused {change : StatusChange} {n : Nat} {latest : Resource} {now : Timestamp}
      {e : Store.Error} {fetched timed before : Store.InMemory} {earlier : List Exchange}
      (h : Attempts u r change n earlier) (hn : n ≤ statusRetries)
      (he : e.isConflict → n = statusRetries) :
      Ended u r (.error e)
        (⟨.store (.replaceStatus latest (change.applyTo now latest)), .error e, before⟩ ::
          ⟨.now, now, timed⟩ :: ⟨.store (fetchLatest r), .ok (some latest), fetched⟩ :: earlier)

/-! ## The steps of an update -/

/-- How far an update has come. -/
inductive WritePhase where
  | unbegun
  /-- The latest copy is to be fetched; `left` more attempts may follow this one. -/
  | fetching (change : StatusChange) (left : Nat)
  | fetched (change : StatusChange) (left : Nat) (latest : Resource)
  /-- The changed status is to be written. -/
  | timed (change : StatusChange) (left : Nat) (latest : Resource) (now : Timestamp)
  | ended (outcome : Except Store.Error Resource)

/-- What an update asks in each phase, and the phase that follows the answer. -/
inductive Writes (u : StatusUpdate) (r : Resource) :
    WritePhase → (q : Query) → q.Answer → WritePhase → Prop where
  | begin {began : Timestamp} {change : StatusChange}
      (h : ∀ before, u.Begins r [⟨.now, began, before⟩] change) :
      Writes u r .unbegun .now began (.fetching change statusRetries)
  | fetch {change : StatusChange} {left : Nat} {latest : Resource} :
      Writes u r (.fetching change left) (.store (fetchLatest r)) (.ok (some latest))
        (.fetched change left latest)
  | gone {change : StatusChange} {left : Nat} :
      Writes u r (.fetching change left) (.store (fetchLatest r)) (.ok none)
        (.ended (.error (.notFound r.key)))
  | unfetched {change : StatusChange} {left : Nat} {e : Store.Error} :
      Writes u r (.fetching change left) (.store (fetchLatest r)) (.error e) (.ended (.error e))
  | same {change : StatusChange} {left : Nat} {latest : Resource} {now : Timestamp}
      (h : latest.status = some (change.applyTo now latest)) :
      Writes u r (.fetched change left latest) .now now (.ended (.ok latest))
  | time {change : StatusChange} {left : Nat} {latest : Resource} {now : Timestamp}
      (h : latest.status ≠ some (change.applyTo now latest)) :
      Writes u r (.fetched change left latest) .now now (.timed change left latest now)
  | write {change : StatusChange} {left : Nat} {latest written : Resource} {now : Timestamp} :
      Writes u r (.timed change left latest now)
        (.store (.replaceStatus latest (change.applyTo now latest))) (.ok written)
        (.ended (.ok written))
  | again {change : StatusChange} {left : Nat} {latest : Resource} {now : Timestamp}
      {e : Store.Error} (he : e.isConflict) :
      Writes u r (.timed change (left + 1) latest now)
        (.store (.replaceStatus latest (change.applyTo now latest))) (.error e)
        (.fetching change left)
  | refused {change : StatusChange} {left : Nat} {latest : Resource} {now : Timestamp}
      {e : Store.Error} (he : e.isConflict → left = 0) :
      Writes u r (.timed change left latest now)
        (.store (.replaceStatus latest (change.applyTo now latest))) (.error e)
        (.ended (.error e))

/-- How an update may end in a phase. -/
def WritePhase.Returns (outcome : Except Store.Error Resource) (ph : WritePhase) : Prop :=
  ph = .ended outcome ∨
    ∃ change field, ph = .fetching change statusRetries ∧ outcome = .error (.missingMetadata field)

/-- A part of an update keeps to its steps, and ends where it may. -/
abbrev Pass.Updates (u : StatusUpdate) (r : Resource) (p : Pass Store.Error Resource)
    (ph : WritePhase) : Prop :=
  Program.Follows (Writes u r) WritePhase.Returns p.run ph

section Steps

variable {u : StatusUpdate} {r : Resource} {change : StatusChange} {ns name : String}

lemma updates_writeLatest {refused : Store.Error → Pass Store.Error Resource} {left : Nat}
    (hplace : location r = (ns, name))
    (hrefused : ∀ latest now e, ∃ ph, Writes u r (.timed change left latest now)
      (.store (.replaceStatus latest (change.applyTo now latest))) (.error e) ph ∧
        (refused e).Updates u r ph) :
    (writeLatest ns name r.key change refused).Updates u r (.fetching change left) := by
  obtain ⟨rfl, rfl⟩ : (location r).1 = ns ∧ (location r).2 = name := Prod.mk.inj hplace
  intro outcome
  rcases outcome with e | _ | latest
  · exact ⟨_, .unfetched, .inl rfl⟩
  · exact ⟨_, .gone, .inl rfl⟩
  · refine ⟨_, .fetch, fun now => ?_⟩
    by_cases hsame : latest.status = some (change.applyTo now latest)
    · refine ⟨_, .same hsame, ?_⟩
      show Pass.Updates u r (if _ then pure latest else _) _
      rw [if_pos hsame]
      exact .inl rfl
    · refine ⟨_, .time hsame, ?_⟩
      show Pass.Updates u r (if _ then pure latest else _) _
      rw [if_neg hsame]
      intro outcome
      cases outcome with
      | ok written => exact ⟨_, .write, .inl rfl⟩
      | error e => exact hrefused latest now e

lemma updates_writeChange (hplace : location r = (ns, name)) (left : Nat) :
    (writeChange ns name r.key change left).Updates u r (.fetching change left) := by
  induction left with
  | zero =>
    refine updates_writeLatest hplace fun latest now e => ?_
    exact ⟨_, .refused fun _ => rfl, .inl rfl⟩
  | succ left ih =>
    refine updates_writeLatest hplace fun latest now e => ?_
    by_cases he : e.isConflict = true
    · exact ⟨_, .again he, by rw [if_pos he]; exact ih⟩
    · exact ⟨_, .refused fun h => absurd h he, by rw [if_neg he]; exact .inl rfl⟩

lemma updates_applyChange :
    (applyChange r change).Updates u r (.fetching change statusRetries) := by
  unfold applyChange
  cases hns : r.metadata.ns with
  | none => exact .inr ⟨change, _, rfl, rfl⟩
  | some ns =>
    cases hname : r.metadata.name with
    | none => exact .inr ⟨change, _, rfl, rfl⟩
    | some name => exact updates_writeChange (by simp [location, hns, hname]) statusRetries

/-- The phase in which an update is taken up. -/
inductive StatusUpdate.Opens (u : StatusUpdate) (r : Resource) : WritePhase → Prop where
  | unbegun : Opens u r .unbegun
  | fetching {change : StatusChange} (h : u.Begins r [] change) :
      Opens u r (.fetching change statusRetries)

/-- Every update keeps to its steps, whatever it is answered. -/
theorem update_follows (u : StatusUpdate) (r : Resource) :
    ∃ ph, u.Opens r ph ∧ (u.program r).Updates u r ph := by
  cases u with
  | created target => exact ⟨_, .fetching (.created target), updates_applyChange⟩
  | observed state => exact ⟨_, .fetching (.observed state), updates_applyChange⟩
  | condition c => exact ⟨_, .fetching (.condition c), updates_applyChange⟩
  | ready =>
    refine ⟨_, .unbegun, fun began => ⟨_, .begin fun before => .ready began before, ?_⟩⟩
    exact updates_applyChange
  | notReady reason message =>
    refine ⟨_, .unbegun, fun began => ⟨_, .begin fun before => .notReady _ _ began before, ?_⟩⟩
    exact updates_applyChange

end Steps

/-! ## Along an update -/

/-- What holds of an update in each phase. -/
def Written (u : StatusUpdate) (r : Resource) : WritePhase → Store.InMemory → List Exchange → Prop
  | .unbegun, _, trail => trail = []
  | .fetching change left, _, trail =>
    ∃ n, n + left = statusRetries ∧ Attempts u r change n trail
  | .fetched change left latest, s, trail =>
    ∃ n fetched earlier, n + left = statusRetries ∧ Attempts u r change n earlier ∧
      trail = ⟨.store (fetchLatest r), .ok (some latest), fetched⟩ :: earlier ∧
      fetched.objects.get? (location r) = some latest ∧ s.Issued latest ∧
      location latest = location r
  | .timed change left latest now, s, trail =>
    ∃ n fetched timed earlier, n + left = statusRetries ∧ Attempts u r change n earlier ∧
      trail = ⟨.now, now, timed⟩ :: ⟨.store (fetchLatest r), .ok (some latest), fetched⟩ ::
        earlier ∧
      s.Issued latest ∧ location latest = location r
  | .ended outcome, _, trail => Ended u r outcome trail

namespace Written

variable {u : StatusUpdate} {r : Resource} {ph ph' : WritePhase} {s s' : Store.InMemory}
  {trail : List Exchange}

lemma touched (h : Written u r ph s trail) (ht : s.Touch s') : Written u r ph s' trail := by
  cases ph with
  | fetched change left latest =>
    obtain ⟨n, fetched, earlier, hn, hattempts, htrail, hfound, hissued, hplace⟩ := h
    exact ⟨n, fetched, earlier, hn, hattempts, htrail, hfound, hissued.touch ht, hplace⟩
  | timed change left latest now =>
    obtain ⟨n, fetched, timed, earlier, hn, hattempts, htrail, hissued, hplace⟩ := h
    exact ⟨n, fetched, timed, earlier, hn, hattempts, htrail, hissued.touch ht, hplace⟩
  | _ => exact h

lemma moved {q : Query} {answer : q.Answer} (hs : s.Orderly) (h : Written u r ph s trail)
    (hm : Writes u r ph q answer ph') (ha : Answers s q answer s') :
    Written u r ph' s' (⟨q, answer, s⟩ :: trail) := by
  cases hm with
  | begin hbegins =>
    obtain rfl : trail = [] := h
    exact ⟨0, Nat.zero_add _, .begun (hbegins s)⟩
  | fetch =>
    obtain ⟨n, hn, hattempts⟩ := h
    have hissued := Store.InMemory.Serves.issued hs ha
    obtain ⟨rfl, hfound⟩ := Store.InMemory.Serves.get ha
    have hfound := (hfound _ rfl).symm
    exact ⟨n, _, trail, hn, hattempts, rfl, hfound, hissued, hs.located hfound⟩
  | gone =>
    obtain ⟨n, hn, hattempts⟩ := h
    exact .gone hattempts (by omega)
  | unfetched =>
    obtain ⟨n, hn, hattempts⟩ := h
    exact .unfetched hattempts (by omega)
  | same hsame =>
    obtain ⟨n, fetched, earlier, hn, hattempts, rfl, hfound, -, -⟩ := h
    exact .same hattempts (by omega) hfound hsame
  | time _ =>
    obtain ⟨n, fetched, earlier, hn, hattempts, rfl, -, hissued, hplace⟩ := h
    obtain rfl : s' = s := ha
    exact ⟨n, fetched, s', earlier, hn, hattempts, rfl, hissued, hplace⟩
  | write =>
    obtain ⟨n, fetched, timed, earlier, hn, hattempts, rfl, hissued, hplace⟩ := h
    obtain ⟨stored, hwritten⟩ := Store.InMemory.Serves.replaceStatus ha
    obtain rfl := hwritten.stored_eq hissued
    exact .written hattempts (by omega) hs hplace hwritten ha
  | again he =>
    obtain ⟨n, fetched, timed, earlier, hn, hattempts, rfl, -, -⟩ := h
    exact ⟨n + 1, by omega, .refused hattempts he⟩
  | refused he =>
    obtain ⟨n, fetched, timed, earlier, hn, hattempts, rfl, -, -⟩ := h
    refine .refused hattempts (by omega) fun hconflict => ?_
    have := he hconflict
    omega

lemma stable (hopens : u.Opens r ph) : Stable (Writes u r) ph (Written u r) where
  opening _ := by
    cases hopens with
    | unbegun => exact rfl
    | fetching hbegins => exact ⟨0, Nat.zero_add _, .begun hbegins⟩
  touched := touched
  moved := moved

end Written

/-- The trail of an update that has returned is as `Ended` says. -/
lemma ended_of_trail {u : StatusUpdate} {r : Resource} {outcome : Except Store.Error Resource}
    {s : Store.InMemory} {trail : List Exchange}
    (h : Trail (u.program r).run (.done outcome) s trail) : Ended u r outcome trail := by
  obtain ⟨start, hopens, hfollows⟩ := update_follows u r
  obtain ⟨ph, hreturns, hwritten⟩ := h.exists_follows (Written.stable hopens) hfollows
  obtain rfl | ⟨change, field, rfl, rfl⟩ := hreturns
  · exact hwritten
  · obtain ⟨n, hn, hattempts⟩ := hwritten
    cases hattempts with
    | begun hbegins => exact .unplaced hbegins
    | refused _ _ => omega

/-! ## Atomicity -/

/-- How a status write ended. -/
def Exchange.statusWrite? : Exchange → Option (Except Store.Error Resource)
  | ⟨.store (.replaceStatus ..), outcome, _⟩ => some outcome
  | _ => none

/-- How the status writes of a trail ended, the last one first. -/
def statusWrites (trail : List Exchange) : List (Except Store.Error Resource) :=
  trail.filterMap Exchange.statusWrite?

/-- The exchange changed no object of the store. -/
def Exchange.Keeps (x : Exchange) : Prop :=
  ∀ after, Answers x.before x.query x.answer after → after.objects = x.before.objects

/-- Each status write comes right after a look at the store, for the time is all that is read in
between, and is based on what that look returned. -/
def Prepared (r : Resource) (trail : List Exchange) : Prop :=
  ∀ copy status outcome before earlier,
    ⟨.store (.replaceStatus copy status), outcome, before⟩ :: earlier <:+ trail →
      ∃ now timed fetched earliest, earlier =
        ⟨.now, now, timed⟩ :: ⟨.store (fetchLatest r), .ok (some copy), fetched⟩ :: earliest

/-- Between two states of a store the stored resource of one place was given another status,
computed from the one that it had, and a version that nothing in the store has; nothing else
changed. -/
structure Replaced (before after : Store.InMemory) (place : Location) (f : Status → Status)
    (written : Resource) : Prop where
  stored : ∃ stored, before.objects.get? place = some stored ∧
    written = before.stamped (Store.InMemory.withStatus stored (f (stored.status.getD {})))
  fresh : ∀ place' r, before.objects.get? place' = some r →
    r.metadata.resourceVersion ≠ written.metadata.resourceVersion
  objects : ∀ place', after.objects.get? place' =
    if place' = place then some written else before.objects.get? place'

/-- The trail of an update that has succeeded with a resource. -/
inductive Succeeded (u : StatusUpdate) (r result : Resource) : List Exchange → Prop where
  /-- The last exchange wrote the changed status, and no other one changed anything. -/
  | written {start earlier : List Exchange} {change : StatusChange} {now : Timestamp}
      {copy : Resource} {status : Status} {timed before after : Store.InMemory}
      (hstart : start <:+ earlier) (hbegins : u.Begins r start change)
      (hserved : before.Serves (.replaceStatus copy status) (.ok result) after)
      (hreplaced : Replaced before after (location r) (fun s => change.apply now s) result)
      (hkeeps : ∀ x ∈ ⟨.now, now, timed⟩ :: earlier, x.Keeps) :
      Succeeded u r result (⟨.store (.replaceStatus copy status), .ok result, before⟩ ::
        ⟨.now, now, timed⟩ :: earlier)
  /-- The change changes nothing in what was fetched last, and no exchange changed anything. -/
  | unchanged {start earlier : List Exchange} {change : StatusChange} {now : Timestamp}
      {timed fetched : Store.InMemory} (hstart : start <:+ earlier)
      (hbegins : u.Begins r start change)
      (hfound : fetched.objects.get? (location r) = some result)
      (hsame : result.status = some (change.apply now (result.status.getD {})))
      (hkeeps : ∀ x ∈ ⟨.now, now, timed⟩ ::
        ⟨.store (fetchLatest r), .ok (some result), fetched⟩ :: earlier, x.Keeps) :
      Succeeded u r result (⟨.now, now, timed⟩ ::
        ⟨.store (fetchLatest r), .ok (some result), fetched⟩ :: earlier)

/-- What is promised of an update that has returned. -/
structure AtomicUpdate (u : StatusUpdate) (r : Resource) (outcome : Except Store.Error Resource)
    (trail : List Exchange) : Prop where
  ok : ∀ result, outcome = .ok result → Succeeded u r result trail
  error : ∀ e, outcome = .error e → ∀ x ∈ trail, x.Keeps
  attempts : (statusWrites trail).length ≤ 3
  prepared : Prepared r trail
  /-- A conflict is returned only if a look at the store reports it or the third write meets it. -/
  conflict : ∀ e, outcome = .error e → e.isConflict →
    (∃ before earlier, trail = ⟨.store (fetchLatest r), .error e, before⟩ :: earlier) ∨
      ∃ copy status before earlier,
        trail = ⟨.store (.replaceStatus copy status), .error e, before⟩ :: earlier ∧
          (statusWrites trail).length = 3

section Atomicity

variable {u : StatusUpdate} {r copy latest : Resource} {change : StatusChange}
  {status : Status} {now : Timestamp} {before timed fetched : Store.InMemory} {n : Nat}
  {trail earlier : List Exchange}

lemma keeps_now : Exchange.Keeps ⟨.now, now, timed⟩ := by
  intro after hafter
  obtain rfl : after = timed := hafter
  rfl

lemma keeps_fetch {outcome : Except Store.Error (Option Resource)} :
    Exchange.Keeps ⟨.store (fetchLatest r), outcome, before⟩ := by
  intro after hafter
  obtain ⟨rfl, -⟩ := Store.InMemory.Serves.get hafter
  rfl

lemma keeps_refused {e : Store.Error} :
    Exchange.Keeps ⟨.store (.replaceStatus copy status), .error e, before⟩ :=
  fun _ hafter => (Store.InMemory.Serves.error hafter).objects

lemma keeps_cons {x : Exchange} (hx : x.Keeps) (h : ∀ x ∈ trail, x.Keeps) :
    ∀ y ∈ x :: trail, y.Keeps := by
  rintro y (_ | ⟨_, hy⟩)
  · exact hx
  · exact h y hy

/-- Only status writes have to be prepared. -/
lemma Prepared.cons {x : Exchange} (hx : x.statusWrite? = none) (h : Prepared r trail) :
    Prepared r (x :: trail) := by
  intro copy status outcome before earlier hsuffix
  obtain heq | hsuffix := List.suffix_cons_iff.mp hsuffix
  · obtain ⟨rfl, -⟩ := List.cons.inj heq
    cases hx
  · exact h _ _ _ _ _ hsuffix

lemma Prepared.attempt {outcome : Except Store.Error Resource} (h : Prepared r earlier) :
    Prepared r (⟨.store (.replaceStatus copy status), outcome, before⟩ ::
      ⟨.now, now, timed⟩ :: ⟨.store (fetchLatest r), .ok (some copy), fetched⟩ :: earlier) := by
  intro copy' status' outcome' before' earlier' hsuffix
  obtain heq | hsuffix := List.suffix_cons_iff.mp hsuffix
  · obtain ⟨hput, rfl⟩ := List.cons.inj heq
    cases hput
    exact ⟨now, timed, fetched, earlier, rfl⟩
  · exact (h.cons rfl).cons rfl _ _ _ _ _ hsuffix

/-- What was done before the last attempt changed nothing and was prepared. -/
structure Harmless (r : Resource) (n : Nat) (trail : List Exchange) : Prop where
  keeps : ∀ x ∈ trail, x.Keeps
  count : (statusWrites trail).length = n
  prepared : Prepared r trail

lemma Harmless.clock (h : Harmless r n trail) : Harmless r n (⟨.now, now, timed⟩ :: trail) :=
  ⟨keeps_cons keeps_now h.keeps, h.count, h.prepared.cons rfl⟩

lemma Harmless.fetch {outcome : Except Store.Error (Option Resource)} (h : Harmless r n trail) :
    Harmless r n (⟨.store (fetchLatest r), outcome, before⟩ :: trail) :=
  ⟨keeps_cons keeps_fetch h.keeps, h.count, h.prepared.cons rfl⟩

lemma Harmless.count_attempt {outcome : Except Store.Error Resource}
    (h : Harmless r n earlier) :
    (statusWrites (⟨.store (.replaceStatus copy status), outcome, before⟩ ::
      ⟨.now, now, timed⟩ :: ⟨.store (fetchLatest r), .ok (some copy), fetched⟩ ::
        earlier)).length = n + 1 :=
  congrArg (· + 1) h.count

lemma Harmless.refused {e : Store.Error} (h : Harmless r n earlier) :
    Harmless r (n + 1) (⟨.store (.replaceStatus copy status), .error e, before⟩ ::
      ⟨.now, now, timed⟩ :: ⟨.store (fetchLatest r), .ok (some copy), fetched⟩ :: earlier) :=
  ⟨keeps_cons keeps_refused h.fetch.clock.keeps, h.count_attempt, h.prepared.attempt⟩

lemma StatusUpdate.Begins.harmless (h : u.Begins r trail change) : Harmless r 0 trail := by
  have hnil : Harmless r 0 [] := ⟨by simp, rfl, fun _ _ _ _ _ h => by simp at h⟩
  cases h with
  | ready _ _ => exact hnil.clock
  | notReady _ _ _ _ => exact hnil.clock
  | _ => exact hnil

lemma Attempts.harmless (h : Attempts u r change n trail) : Harmless r n trail := by
  induction h with
  | begun hbegins => exact hbegins.harmless
  | refused _ _ ih => exact ih.refused

lemma Attempts.exists_start (h : Attempts u r change n trail) :
    ∃ start, start <:+ trail ∧ u.Begins r start change := by
  induction h with
  | begun hbegins => exact ⟨_, List.suffix_rfl, hbegins⟩
  | refused _ _ ih =>
    obtain ⟨start, hstart, hbegins⟩ := ih
    exact ⟨start, hstart.trans (List.suffix_append [_, _, _] _), hbegins⟩

/-- A write that is based on the stored resource itself replaces its status. -/
lemma replaced_of_written {after : Store.InMemory} {written : Resource} (hs : before.Orderly)
    (h : before.StatusWritten after latest (change.applyTo now latest) latest written)
    (hplace : location latest = location r) :
    Replaced before after (location r) (fun s => change.apply now s) written where
  stored := ⟨latest, hplace ▸ h.found, h.result⟩
  fresh place' r' hr := by
    have hversion : written.metadata.resourceVersion = some before.nextVersion := by
      rw [h.result]
      rfl
    rw [hversion]
    exact Store.InMemory.ne_nextVersion (hs.versioned hr)
  objects place' := by rw [h.get? place', hplace]

/-- What is promised of an update that fails, as long as conflicts are returned only for cause. -/
lemma Harmless.atomic {e : Store.Error} (h : Harmless r n trail) (hn : n ≤ 3)
    (hconflict : e.isConflict →
      (∃ before earlier, trail = ⟨.store (fetchLatest r), .error e, before⟩ :: earlier) ∨
        ∃ copy status before earlier,
          trail = ⟨.store (.replaceStatus copy status), .error e, before⟩ :: earlier ∧ n = 3) :
    AtomicUpdate u r (.error e) trail := by
  refine ⟨fun _ hok => (nomatch hok), fun _ _ => h.keeps, ?_, h.prepared, ?_⟩
  · rwa [h.count]
  · rintro _ ⟨⟩ he
    rw [h.count]
    exact hconflict he

/-- What is promised of an update is what its trail shows. -/
lemma Ended.atomic {outcome : Except Store.Error Resource} (h : Ended u r outcome trail) :
    AtomicUpdate u r outcome trail := by
  have hretries : statusRetries = 2 := rfl
  cases h with
  | unplaced hbegins => exact hbegins.harmless.atomic (by omega) nofun
  | unfetched hattempts hn =>
    exact hattempts.harmless.fetch.atomic (by omega) fun _ => .inl ⟨_, _, rfl⟩
  | gone hattempts hn => exact hattempts.harmless.fetch.atomic (by omega) nofun
  | refused hattempts hn he =>
    refine hattempts.harmless.refused.atomic (by omega) fun hconflict => ?_
    have hlast := he hconflict
    exact .inr ⟨_, _, _, _, rfl, by omega⟩
  | same hattempts hn hfound hsame =>
    have hharmless := hattempts.harmless
    obtain ⟨start, hstart, hbegins⟩ := hattempts.exists_start
    refine ⟨?_, fun _ he => (nomatch he), ?_, hharmless.fetch.clock.prepared,
      fun _ he => (nomatch he)⟩
    · rintro _ ⟨⟩
      exact .unchanged hstart hbegins hfound hsame hharmless.fetch.clock.keeps
    · rw [hharmless.fetch.clock.count]
      omega
  | written hattempts hn hs hplace hwritten hserved =>
    have hharmless := hattempts.harmless
    have hreplaced := replaced_of_written hs hwritten hplace
    obtain ⟨start, hstart, hbegins⟩ := hattempts.exists_start
    refine ⟨?_, fun _ he => (nomatch he), ?_, hharmless.prepared.attempt,
      fun _ he => (nomatch he)⟩
    · rintro _ ⟨⟩
      refine .written ?_ hbegins hserved hreplaced hharmless.fetch.clock.keeps
      exact hstart.trans (List.suffix_cons _ _)
    · rw [hharmless.count_attempt]
      omega

end Atomicity

/-- Every update of a status is atomic, however stale the copy is that it starts from, however
others interfere with it and whatever the store answers. -/
theorem status_update_atomic {u : StatusUpdate} {r : Resource}
    {outcome : Except Store.Error Resource} {s : Store.InMemory} {trail : List Exchange}
    (h : Trail (u.program r).run (.done outcome) s trail) : AtomicUpdate u r outcome trail :=
  (ended_of_trail h).atomic

/-- The store that holds a registered resource and will refuse one status write. -/
def sampleContendedStore : Store.InMemory :=
  (({} : Store.InMemory).edit (.insert sampleRegistered)).edit (.injectStatusConflicts 1)

/-- The resource as that store holds it. -/
def sampleContended : Resource :=
  (sampleContendedStore.current "tools" "files").getD sampleRegistered

/-- Its status when its target has been seen operational. -/
def sampleSeen : Status :=
  StatusChange.applyTo deletionInstant sampleContended (.observed (some 1) ⟨"READY", []⟩)

/-- An update that meets another writer succeeds in its second attempt. -/
theorem updated_in_second_attempt :
    ∃ (outcome : Except Store.Error Resource) (s : Store.InMemory) (trail : List Exchange),
      Trail (StatusUpdate.program sampleRegistered (.observed ⟨"READY", []⟩)).run (.done outcome) s
        trail ∧
      (statusWrites trail).length = 2 ∧
      AtomicUpdate (.observed ⟨"READY", []⟩) sampleRegistered outcome trail := by
  have hstart : Trail (StatusUpdate.program sampleRegistered (.observed ⟨"READY", []⟩)).run _ _ _ :=
    .start
  have hcontended := (hstart.edited (.insert sampleRegistered)).edited (.injectStatusConflicts 1)
  have hfetched := hcontended.asked (q := .store (.get "tools" "files"))
    (.ok (some sampleContended)) (.inl ⟨by decide +kernel, rfl⟩)
  have htimed := hfetched.asked (q := .now) deletionInstant rfl
  have hrefused := htimed.asked (q := .store (.replaceStatus sampleContended sampleSeen))
    (.error (.conflict "tools/files")) (.inl ⟨by decide +kernel, rfl⟩)
  have hagain := hrefused.asked (q := .store (.get "tools" "files"))
    (.ok (some sampleContended)) (.inl ⟨by decide +kernel, rfl⟩)
  have hready := hagain.asked (q := .now) deletionInstant rfl
  have hwritten := hready.asked (q := .store (.replaceStatus sampleContended sampleSeen))
    (.ok (sampleContendedStore.stamped (Store.InMemory.withStatus sampleContended sampleSeen)))
    (.inl ⟨by decide +kernel, rfl⟩)
  exact ⟨_, _, _, hwritten, rfl, status_update_atomic hwritten⟩

end TargetRegistrar.Controller
