import TargetRegistrar.Proofs.Controller.Conflicts
import TargetRegistrar.Proofs.Controller.Effects
import TargetRegistrar.Proofs.Fleet.Acknowledgement
import TargetRegistrar.Proofs.Fleet.Served

/-!
# What a pass knows of readiness

Two writes make a resource ready: one records that its target was seen operational, the other sets
the condition.  Either can fail, other passes and users come in between, and no write ever takes the
condition back because of what was seen of the target.  So the condition may be left behind: it then
names an earlier generation than the status does (`Honest`).

While a pass works on a resource that carries the finalizer, nobody else writes the status of that
resource (`Stands`).  `Knows` says for each leg of a pass what therefore is stored in its place, and
`Knows.moved` and `honest_moved` that one answer of the pass breaks neither.
-/

namespace TargetRegistrar.Fleet

open Store Gateway Controller

/-! ## Honest resources -/

/-- The second of two generations is the first one or a later one. -/
def NoEarlier (g g' : Option Int) : Prop :=
  g = g' ∨ rank g < rank g'

/-- The condition on readiness of a resource. -/
def readiness? (s : Resource) : Option Condition :=
  Condition.find? Condition.readyType (conditionsOf s)

/-- The state in which the target was last seen. -/
def seenState? (s : Resource) : Option String :=
  s.status.bind Status.targetStatus

/-- The target was seen operational for the generation that a condition names, and the status names
no other, or the status names a later generation than the condition does. -/
def Confirmed (s : Resource) (ready : Condition) : Prop :=
  (ready.observedGeneration = s.observedGeneration ∧ seenState? s = some targetReady) ∨
    rank ready.observedGeneration < rank s.observedGeneration

/-- A status with a target is not ahead of the specification, and readiness is announced only for a
target that was seen operational. -/
structure Honest (s : Resource) : Prop where
  lag : s.recordedTarget? ≠ none → NoEarlier s.observedGeneration s.metadata.generation
  ready : ∀ ready, readiness? s = some ready → ready.verdict = .holds →
    s.recordedTarget? ≠ none ∧ Confirmed s ready

/-- What a copy announces belongs to an earlier generation. -/
def Outdated (r : Resource) : Prop :=
  ∀ ready, readiness? r = some ready → ready.verdict = .holds →
    rank ready.observedGeneration < rank r.metadata.generation

section Honesty

variable {r s s' : Resource} {g g' g'' : Option Int} {change : StatusChange} {now : Timestamp}
  {edits : (Spec → Spec) → Prop}

lemma NoEarlier.trans (h : NoEarlier g g') (h' : NoEarlier g' g'') : NoEarlier g g'' := by
  obtain rfl | hlt := h
  · exact h'
  · obtain rfl | hlt' := h'
    · exact .inr hlt
    · exact .inr (Int.lt_trans hlt hlt')

/-- Users only move on to later generations. -/
lemma UserTurn.noEarlier (h : UserTurn edits s s') :
    NoEarlier s.metadata.generation s'.metadata.generation := by
  obtain ⟨-, hgen⟩ | ⟨_, -, -, hgen⟩ := h.spec
  · exact .inl hgen.symm
  · rw [hgen]
    exact .inr (rank_lt_next _)

lemma Evolves.noEarlier (h : Evolves edits r s) :
    NoEarlier r.metadata.generation s.metadata.generation := by
  obtain ⟨-, hgen⟩ | hlt := h.same_or_later
  · exact .inl hgen.symm
  · exact .inr hlt

lemma readiness?_congr (h : s'.status = s.status) : readiness? s' = readiness? s := by
  rw [readiness?, readiness?, conditionsOf, conditionsOf, h]

lemma seenState?_congr (h : s'.status = s.status) : seenState? s' = seenState? s := by
  rw [seenState?, seenState?, h]

lemma Confirmed.congr {ready : Condition} (h : Confirmed s ready) (hstatus : s'.status = s.status) :
    Confirmed s' ready := by
  rw [Confirmed, observedGeneration_congr hstatus, seenState?_congr hstatus]
  exact h

/-- Only the status and the generation matter. -/
lemma Honest.congr (h : Honest s) (hstatus : s'.status = s.status)
    (hgen : NoEarlier s.metadata.generation s'.metadata.generation) : Honest s' := by
  have htarget := recordedTarget?_congr hstatus
  constructor
  case lag =>
    intro hrec
    rw [observedGeneration_congr hstatus]
    exact (h.lag (htarget ▸ hrec)).trans hgen
  case ready =>
    intro ready hready hholds
    rw [readiness?_congr hstatus] at hready
    obtain ⟨hrec, hconfirmed⟩ := h.ready ready hready hholds
    exact ⟨htarget ▸ hrec, hconfirmed.congr hstatus⟩

lemma Honest.blank (h : s.status = none) : Honest s := by
  constructor
  case lag =>
    intro hrec
    simp [Resource.recordedTarget?, h] at hrec
  case ready =>
    intro ready hready
    simp [readiness?, conditionsOf, h, Condition.find?] at hready

/-- A copy is settled when its target was last seen operational and that has been announced. -/
lemma isSettled_iff_readiness : r.isSettled ↔
    seenState? r = some targetReady ∧
      ∃ ready, readiness? r = some ready ∧ ready.verdict = .holds := by
  obtain ⟨_, _, status⟩ := r
  cases status with
  | none => simp [Resource.isSettled, seenState?]
  | some status => exact isSettled_iff

/-- If the specification has moved on, or the target was not seen operational yet, readiness has
been announced for an earlier generation at most. -/
lemma Honest.outdated (h : Honest r)
    (hset : r.metadata.generation = r.observedGeneration → r.isSettled = false) : Outdated r := by
  intro ready hready hholds
  obtain ⟨hrec, hconfirmed⟩ := h.ready ready hready hholds
  obtain hsame | hlater := h.lag hrec
  -- the status is up to date: an announcement that is, too, would make the resource settled
  · obtain ⟨-, hseen⟩ | hlt := hconfirmed
    · have hsettled : r.isSettled := isSettled_iff_readiness.mpr ⟨hseen, ready, hready, hholds⟩
      rw [hset hsame.symm] at hsettled
      cases hsettled
    · rwa [hsame] at hlt
  · obtain ⟨hgen, -⟩ | hlt := hconfirmed
    · rwa [hgen]
    · exact Int.lt_trans hlt hlater

end Honesty

/-! ## What an update finds and leaves -/

/-- A status shows a target in a state, as it was seen for the generation of a copy. -/
def Shows (r : Resource) (state : String) (status : Option Status) : Prop :=
  ∃ shown, status = some shown ∧ shown.recordedTarget? ≠ none ∧
    shown.observedGeneration = r.metadata.generation ∧ shown.targetStatus = some state

/-- A status announces readiness for the generation of a copy. -/
def Announced (r : Resource) (status : Option Status) : Prop :=
  ∃ shown ready, status = some shown ∧ shown.ready? = some ready ∧ ready.verdict = .holds ∧
    ready.observedGeneration = r.metadata.generation ∧
    shown.observedGeneration = r.metadata.generation ∧ shown.targetStatus = some targetReady

/-- The status on which an update is made that reports of a target. -/
def Needs (r : Resource) : StatusUpdate → Option Status → Prop
  | .created _, status => status = r.status ∧ r.recordedTarget? = none
  | .observed _, status => status = r.status ∧ r.recordedTarget? ≠ none ∧ Outdated r
  | .ready, status => Shows r targetReady status
  | _, _ => False

/-- The status that such an update leaves behind. -/
def Leaves (r : Resource) : StatusUpdate → Option Status → Prop
  | .observed state, status => Shows r state.status status
  | .ready, status => Announced r status
  | _, _ => True

section Updates

variable {r latest s : Resource} {u : StatusUpdate} {change : StatusChange} {now : Timestamp}
  {edits : (Spec → Spec) → Prop}

/-- An update that finds what it needs leaves what it should. -/
lemma Needs.leaves (h : Needs r u latest.status) (hmakes : u.Makes r change) :
    Leaves r u (some (change.applyTo now latest)) := by
  obtain ⟨trail, hbegins⟩ := hmakes
  cases hbegins with
  | created target => trivial
  | observed state =>
    obtain ⟨hstatus, hrec, -⟩ := h
    refine ⟨_, rfl, ?_, rfl, rfl⟩
    rw [recordedTarget?_applyTo]
    exact recordedTarget?_congr hstatus ▸ hrec
  | ready began before =>
    obtain ⟨shown, hshown, -, hgen, hseen⟩ := h
    obtain ⟨ready, hready, hholds, hcurrent⟩ :=
      exists_find?_set (readyCondition r began) (conditionsOf latest)
    refine ⟨_, ready, rfl, hready, hholds, hcurrent, ?_, ?_⟩
    · rw [observedGeneration_applyTo, Resource.observedGeneration, hshown]
      exact hgen
    · show (latest.status.getD {}).targetStatus = some targetReady
      rw [hshown]
      exact hseen
  | _ => cases h

/-- Where conditions stay, so does the one on readiness. -/
lemma readiness?_written (h : s.status = some (change.applyTo now latest))
    (hmakes : u.Makes r change) (hu : u.isAnnouncement = false) :
    readiness? s = readiness? latest := by
  rw [readiness?, readiness?, conditionsOf, h]
  show Condition.find? _ (change.applyTo now latest).conditions = _
  rw [hmakes.conditions hu]

/-- An update that finds what it needs keeps a resource honest. -/
lemma Honest.needed (hlatest : Honest latest) (hneeds : Needs r u latest.status)
    (hspec : Evolves edits r latest) (hmakes : u.Makes r change)
    (hstatus : s.status = some (change.applyTo now latest))
    (hgen : s.metadata.generation = latest.metadata.generation) : Honest s := by
  have hleaves : Leaves r u s.status := hstatus ▸ hneeds.leaves hmakes
  have htarget := recordedTarget?_written hstatus
  have hobserved := observedGeneration_written hstatus
  have hreadiness := readiness?_written hstatus hmakes
  have hcurrent : NoEarlier r.metadata.generation s.metadata.generation := hgen ▸ hspec.noEarlier
  obtain ⟨_, hbegins⟩ := hmakes
  cases hbegins with
  | created target =>
    obtain ⟨hsame, hnone⟩ := hneeds
    refine ⟨fun _ => hobserved ▸ hcurrent, fun ready hready hholds => ?_⟩
    -- readiness is announced only where a target is recorded
    rw [hreadiness rfl] at hready
    obtain ⟨hrec, -⟩ := hlatest.ready ready hready hholds
    exact absurd ((recordedTarget?_congr hsame).trans hnone) hrec
  | observed state =>
    obtain ⟨hsame, hrec, houtdated⟩ := hneeds
    refine ⟨fun _ => hobserved ▸ hcurrent, fun ready hready hholds => ⟨?_, .inr ?_⟩⟩
    · rw [htarget, recordedTarget?_congr hsame]
      exact hrec
    · rw [hreadiness rfl, readiness?_congr hsame] at hready
      rw [hobserved]
      exact houtdated ready hready hholds
  | ready began before =>
    obtain ⟨shown, hshown, hrec, hobserved', -⟩ := hneeds
    obtain ⟨shown', ready', hshown', hready', -, hfound, hcurrent', hseen⟩ := hleaves
    have hrecorded : latest.recordedTarget? ≠ none := by
      rw [Resource.recordedTarget?, hshown]
      exact hrec
    refine ⟨fun _ => ?_, fun ready hready hholds => ⟨htarget ▸ hrecorded, .inl ⟨?_, ?_⟩⟩⟩
    · rw [hobserved, hgen]
      exact hlatest.lag hrecorded
    · rw [readiness?, conditionsOf, hshown'] at hready
      obtain rfl : ready' = ready := Option.some.inj (hready'.symm.trans hready)
      rw [Resource.observedGeneration, hshown']
      exact hfound.trans hcurrent'.symm
    · rw [seenState?, hshown']
      exact hseen
  | _ => cases hneeds

/-- Taking readiness back keeps a resource honest. -/
lemma Honest.retracted {reason message : String} (hlatest : Honest latest)
    (hmakes : (StatusUpdate.notReady reason message).Makes r change)
    (hstatus : s.status = some (change.applyTo now latest))
    (hgen : s.metadata.generation = latest.metadata.generation) : Honest s := by
  have htarget := recordedTarget?_written hstatus
  have hobserved := observedGeneration_written hstatus
  obtain ⟨_, hbegins⟩ := hmakes
  cases hbegins with
  | notReady _ _ began before =>
    refine ⟨fun hrec => ?_, fun ready hready hholds => ?_⟩
    · rw [hobserved, hgen]
      exact hlatest.lag fun hnone => hrec (htarget.trans hnone)
    · obtain ⟨found, hfound, hfails, -⟩ := exists_find?_set
        ⟨Condition.readyType, .fails, reason, message, began, r.metadata.generation⟩
        (conditionsOf latest)
      rw [readiness?, conditionsOf, hstatus] at hready
      obtain rfl : found = ready := Option.some.inj (hfound.symm.trans hready)
      cases hfails.symm.trans hholds

end Updates

/-! ## What a pass knows -/

/-- A resource with the finalizer stands in a place, of which a copy is or was a version, with a
status as told. -/
def Stands (place : Location) (s : Store.InMemory) (r : Resource) (P : Option Status → Prop) :
    Prop :=
  ∃ stored, s.objects.get? place = some stored ∧ stored.hasFinalizer finalizer ∧
    Evolves (fun _ => True) r stored ∧ P stored.status

/-- What is known of the status while an update is under way that reports of a target. -/
def Meets (r : Resource) (u : StatusUpdate) : WritePhase → Option Status → Prop
  | .unbegun, status => Needs r u status
  | .fetching _ _, status => Needs r u status
  | .fetched _ _ latest, status => Needs r u status ∧ status = latest.status
  | .timed _ _ _ _, status => Needs r u status
  | .ended (.ok _), status => Leaves r u status
  | .ended (.error _), _ => True

/-- What is known of a copy with the finalizer. -/
structure Attends (place : Location) (s : Store.InMemory) (r : Resource) : Prop where
  honest : Honest r
  stands : Stands place s r (· = r.status)

/-- The legs in which a pass reports nothing of a target. -/
def isNeutral : Leg → Bool
  | .guarded _ => false
  | .settled _ => false
  | .updating _ _ _ => false
  | _ => true

/-- What a pass knows of the resource in its place. -/
inductive Knows (place : Location) (s : Store.InMemory) : Leg → Prop where
  | guarded {r : Resource} (h : Attends place s r) : Knows place s (.guarded r)
  | settled {r : Resource} (h : Attends place s r)
      (hgen : r.metadata.generation = r.observedGeneration) (hset : r.isSettled) :
      Knows place s (.settled r)
  | updating {r : Resource} {u : StatusUpdate} {ph : WritePhase}
      (h : Stands place s r (Meets r u ph)) : Knows place s (.updating r u ph)
  | retracting {r : Resource} {reason message : String} {ph : WritePhase} :
      Knows place s (.updating r (.notReady reason message) ph)
  /-- In the other legs the resource does not matter. -/
  | nothing {leg : Leg} (h : isNeutral leg) : Knows place s leg

section Knowledge

variable {place : Location} {s s' : Store.InMemory} {r : Resource} {P Q : Option Status → Prop}
  {leg leg' : Leg} {q : Query} {answer : q.Answer} {u : StatusUpdate} {ph ph' : WritePhase}

lemma Stands.mono (h : Stands place s r P) (hPQ : ∀ status, P status → Q status) :
    Stands place s r Q := by
  obtain ⟨stored, hstored, hguard, hspec, hstatus⟩ := h
  exact ⟨stored, hstored, hguard, hspec, hPQ _ hstatus⟩

lemma Stands.of_objects (h : Stands place s r P)
    (hobjects : s'.objects.get? place = s.objects.get? place) : Stands place s' r P := by
  obtain ⟨stored, hstored, hstands⟩ := h
  exact ⟨stored, hobjects.trans hstored, hstands⟩

/-- What is known is not lost as long as the resource stands. -/
lemma Knows.mono (h : Knows place s leg)
    (hstands : ∀ r P, Stands place s r P → Stands place s' r P) : Knows place s' leg := by
  cases h with
  | guarded h => exact .guarded ⟨h.honest, hstands _ _ h.stands⟩
  | settled h hgen hset => exact .settled ⟨h.honest, hstands _ _ h.stands⟩ hgen hset
  | updating h => exact .updating (hstands _ _ h)
  | retracting => exact .retracting
  | nothing h => exact .nothing h

/-- Users change neither the status nor the finalizer. -/
lemma Stands.act {w : World} {a : Act} (h : Stands place w.store r P)
    (ha : Respectful (fun _ => True) w a) : Stands place (w.act a).store r P := by
  obtain ⟨stored, hstored, hguard, hspec, hstatus⟩ := h
  obtain ⟨stored', hstored', hturn⟩ := guarded_act ha hstored hguard
  exact ⟨stored', hstored', hturn.guard ▸ hguard, hspec.turn hturn, hturn.status ▸ hstatus⟩

/-- A copy with the finalizer stands in its place when it has just been read or written. -/
lemma Attends.of_stored (hr : s.objects.get? place = some r) (hguard : r.hasFinalizer finalizer)
    (hhonest : Honest r) : Attends place s r :=
  ⟨hhonest, r, hr, hguard, .same rfl rfl, rfl⟩

/-! ### Updates -/

/-- A status write that is served leaves what the update should leave. -/
lemma Stands.written {latest written : Resource} {change : StatusChange} {now : Timestamp}
    (h : Stands place s r (Needs r u)) (hplace : location latest = place)
    (hmakes : u.Makes r change)
    (hwritten : s.StatusWritten s' latest (change.applyTo now latest) latest written) :
    Stands place s' r (Leaves r u) := by
  obtain ⟨stored, hstored, hguard, hspec, hneeds⟩ := h
  obtain rfl : latest = stored := Option.some.inj ((hplace ▸ hwritten.found).symm.trans hstored)
  have hresult := hwritten.result
  refine ⟨written, hplace ▸ hwritten.get?_self, ?_, ?_, ?_⟩
  · rw [hresult]
    exact hguard
  · rw [hresult]
    exact hspec.congr rfl rfl
  · rw [hresult]
    exact hneeds.leaves hmakes

/-- An update goes on knowing what it needs, and leaves what it should. -/
lemma Stands.moved (h : Stands place s r (Meets r u ph)) (hm : Writes u r ph q answer ph')
    (hserved : Served place s s' q answer) (hsound : ph.Sound u r) :
    Stands place s' r (Meets r u ph') := by
  cases hm with
  | begin _ =>
    cases hserved with
    | nothing _ hobjects => exact h.of_objects (by rw [hobjects])
  | fetch =>
    cases hserved with
    | nothing hnone _ => cases hnone
    | read hlatest hobjects =>
      obtain ⟨stored, hstored, hguard, hspec, hneeds⟩ := h
      obtain rfl : _ = stored := Option.some.inj (hlatest.symm.trans hstored)
      exact ⟨_, by rw [hobjects, hstored], hguard, hspec, hneeds, rfl⟩
  | gone =>
    cases hserved with
    | nothing _ hobjects => exact (h.of_objects (by rw [hobjects])).mono fun _ _ => trivial
  | unfetched =>
    cases hserved with
    | nothing _ hobjects => exact (h.of_objects (by rw [hobjects])).mono fun _ _ => trivial
  | same hsame =>
    cases hserved with
    -- nothing is written, since the copy that was fetched has the new status already
    | nothing _ hobjects =>
      refine (h.of_objects (by rw [hobjects])).mono fun status hmeets => ?_
      obtain ⟨hneeds, rfl⟩ := hmeets
      show Leaves r u _
      rw [hsame]
      exact hneeds.leaves hsound.1
  | time _ =>
    cases hserved with
    | nothing _ hobjects => exact (h.of_objects (by rw [hobjects])).mono fun _ hmeets => hmeets.1
  | write =>
    cases hserved with
    | nothing hnone _ => cases hnone
    | status hplace hwritten => exact Stands.written h hplace hsound.1 hwritten
  | again _ =>
    cases hserved with
    | nothing _ hobjects => exact h.of_objects (by rw [hobjects])
  | refused _ =>
    cases hserved with
    | nothing _ hobjects => exact (h.of_objects (by rw [hobjects])).mono fun _ _ => trivial

/-! ### Steps of a pass -/

/-- A pass does not write while its remote operation is under way. -/
lemma Served.objects_of_works (h : Served place s s' q answer) (hworks : Works leg q answer leg') :
    s'.objects = s.objects := by
  cases hworks <;> cases h <;> assumption

/-- A call that succeeds is followed by an update that finds what it needs. -/
lemma knows_of_calls {call : Call} {next : call.Reply → Leg} (hcalls : leg.Calls call next)
    (h : Knows place s leg) (reply : call.Reply) : Knows place s (next reply) := by
  cases hcalls with
  | create hrec =>
    cases h with
    | guarded h => exact .updating (h.stands.mono fun _ hstatus => ⟨hstatus, hrec⟩)
    | nothing h => cases h
  | update hrec hgen =>
    cases h with
    | guarded h =>
      have houtdated := h.honest.outdated fun hsame => absurd hsame hgen
      exact .updating (h.stands.mono fun _ hstatus => ⟨hstatus, by simp [hrec], houtdated⟩)
    | nothing h => cases h
  | poll hrec _ hset =>
    cases h with
    | guarded h =>
      have houtdated := h.honest.outdated fun _ => hset
      exact .updating (h.stands.mono fun _ hstatus => ⟨hstatus, by simp [hrec], houtdated⟩)
    | nothing h => cases h
  | delete => exact .nothing rfl

lemma Knows.worked (h : Knows place s leg) (hworks : Works leg q answer leg') :
    Knows place s leg' := by
  cases hworks with
  | rest hgen hset =>
    cases h with
    | guarded h => exact .settled h hgen hset
    | nothing h => cases h
  | draw _ => exact h
  | call hcalls _ => exact knows_of_calls hcalls h _
  | fail _ _ => exact h
  | wait _ => exact h
  | _ => exact .nothing rfl

/-- Readiness is announced only after the target was seen operational. -/
lemma knows_of_announces (hannounces : leg.Announces r u) (h : Knows place s leg)
    (hbegins : Writes u r .unbegun q answer ph) : Knows place s (.updating r u ph) := by
  cases hannounces with
  | ready hstate =>
    cases hbegins with
    | begin _ =>
      cases h with
      | updating h =>
        have hshows : Stands place s r (Shows r _) := h
        rw [hstate] at hshows
        exact .updating hshows
      | nothing h => cases h
  | _ => exact .retracting

/-- Finalizers have nothing to do with honesty. -/
lemma honest_finalizers {r' : Resource} {finalizers : List String}
    (hwritten : s.FinalizersWritten s' r finalizers r r') (h : Honest r) : Honest r' := by
  rw [hwritten.result]
  exact h.congr rfl (.inl rfl)

lemma attends_attached {r' : Resource} (hplace : location r = place)
    (hwritten : s.FinalizersWritten s' r (r.finalizers ++ [finalizer]) r r') (h : Honest r) :
    Attends place s' r' := by
  refine .of_stored (hplace ▸ hwritten.get?_self (by simp)) ?_ (honest_finalizers hwritten h)
  rw [hwritten.result]
  exact hasFinalizer_attached s r r

/-- What a pass knows after an answer. -/
lemma Knows.moved (h : Knows place s leg) (hm : Proceeds place.1 place.2 leg q answer leg')
    (hserved : Served place s s' q answer) (hsound : leg.Sound)
    (hhonest : ∀ r, s.objects.get? place = some r → Honest r) : Knows place s' leg' := by
  have hsame : s'.objects = s.objects → ∀ r P, Stands place s r P → Stands place s' r P :=
    fun hobjects _ _ hstands => hstands.of_objects (by rw [hobjects])
  cases hm with
  | read hopens =>
    cases hserved with
    | nothing hnone _ => cases hnone
    | read hr hobjects =>
      cases hopens with
      | guarded _ hguard =>
        exact .guarded (.of_stored (by rw [hobjects, hr]) hguard (hhonest _ hr))
      | _ => exact .nothing rfl
  | attach =>
    cases hserved with
    | nothing hnone _ => cases hnone
    | finalizers hplace hwritten =>
      exact .guarded (attends_attached hplace hwritten (hhonest _ (hplace ▸ hwritten.found)))
  | work hworks => exact (h.worked hworks).mono (hsame (hserved.objects_of_works hworks))
  | announce hannounces hbegins =>
    cases hserved with
    | nothing _ hobjects => exact (knows_of_announces hannounces h hbegins).mono (hsame hobjects)
  | update hwrites =>
    cases h with
    | updating h => exact .updating (h.moved hwrites hserved hsound)
    | retracting => exact .retracting
    | nothing h => cases h
  | book answer _ hq =>
    refine h.mono (hsame ?_)
    cases hserved with
    | nothing _ hobjects => exact hobjects
    | _ => cases hq
  | _ => exact .nothing rfl

/-- A status write of a pass keeps the resource honest. -/
lemma honest_status {latest written : Resource} {status : Status} (h : Knows place s leg)
    (hm : Proceeds place.1 place.2 leg (.store (.replaceStatus latest status)) (.ok written) leg')
    (hsound : leg.Sound) (hplace : location latest = place)
    (hwritten : s.StatusWritten s' latest status latest written) (hhonest : Honest latest) :
    Honest written := by
  have hstatus : written.status = some status := hwritten.result ▸ rfl
  have hgen : written.metadata.generation = latest.metadata.generation := hwritten.result ▸ rfl
  cases hm with
  | work hworks => cases hworks
  | update hwrites =>
    cases hwrites with
    | write =>
      cases h with
      | updating h =>
        obtain ⟨stored, hstored, -, hspec, hneeds⟩ := h
        obtain rfl : latest = stored :=
          Option.some.inj ((hplace ▸ hwritten.found).symm.trans hstored)
        exact hhonest.needed hneeds hspec hsound.1 hstatus hgen
      | retracting => exact hhonest.retracted hsound.1 hstatus hgen
      | nothing h => cases h
  | book _ _ hq => cases hq

/-- What is stored in the place of a pass stays honest when the pass is answered. -/
lemma honest_moved {r' : Resource} (h : Knows place s leg)
    (hm : Proceeds place.1 place.2 leg q answer leg') (hserved : Served place s s' q answer)
    (hsound : leg.Sound) (hhonest : ∀ r, s.objects.get? place = some r → Honest r)
    (hr' : s'.objects.get? place = some r') : Honest r' := by
  cases hserved with
  | nothing _ hobjects => exact hhonest r' (hobjects ▸ hr')
  | read _ hobjects => exact hhonest r' (hobjects ▸ hr')
  | @finalizers r written finalizers hplace hwritten =>
    rw [hwritten.get?, if_pos hplace.symm] at hr'
    by_cases hgone : r.isBeingDeleted ∧ finalizers.isEmpty
    · simp [hgone] at hr'
    · rw [if_neg hgone] at hr'
      obtain rfl : written = r' := Option.some.inj hr'
      exact honest_finalizers hwritten (hhonest r (hplace ▸ hwritten.found))
  | @status latest written status hplace hwritten =>
    rw [hwritten.get?, if_pos hplace.symm] at hr'
    obtain rfl : written = r' := Option.some.inj hr'
    exact honest_status h hm hsound hplace hwritten (hhonest latest (hplace ▸ hwritten.found))

end Knowledge

end TargetRegistrar.Fleet
