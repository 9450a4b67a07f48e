import TargetRegistrar.Proofs.Controller.Footprint
import TargetRegistrar.Proofs.Controller.Writing
import TargetRegistrar.Proofs.Json.MergePatch
import TargetRegistrar.Proofs.Resource.RoundTrip
import TargetRegistrar.Proofs.Store.History
import TargetRegistrar.Store.ApiServer

/-!
# Status writes as merge patches

The store in memory replaces a status.  The API server is sent a merge patch, which keeps what it
does not mention, and an absent option is not mentioned.  So what it stores is the new status
supplemented by the old one (`decode?_merged`), which is the new one just in case that lets go of no
option that the old one had (`Covers`).  Reasons are mentioned even when there are none, and
conditions always are.

No update of the controller lets go of an option, if the copy that it starts from has a generation
(`StatusUpdate.Begins.covers`); `status_patch_replaces` draws the conclusion that both stores then
hold the same status.
-/

namespace TargetRegistrar

open Json

/-! ## Statuses that let go of nothing -/

namespace Status

variable {new old : Status}

/-- A status with the options of another one where it has none. -/
def supplementedBy (new old : Status) : Status :=
  { new with
    observedGeneration := new.observedGeneration.or old.observedGeneration
    targetId := new.targetId.or old.targetId
    gatewayArn := new.gatewayArn.or old.gatewayArn
    targetStatus := new.targetStatus.or old.targetStatus
    lastSynchronized := new.lastSynchronized.or old.lastSynchronized }

/-- A status has every option that another one has. -/
structure Covers (new old : Status) : Prop where
  observedGeneration : old.observedGeneration.isSome → new.observedGeneration.isSome
  targetId : old.targetId.isSome → new.targetId.isSome
  gatewayArn : old.gatewayArn.isSome → new.gatewayArn.isSome
  targetStatus : old.targetStatus.isSome → new.targetStatus.isSome
  lastSynchronized : old.lastSynchronized.isSome → new.lastSynchronized.isSome

lemma or_eq_left_iff {α : Type} {o o' : Option α} : o.or o' = o ↔ (o'.isSome → o.isSome) := by
  cases o <;> cases o' <;> simp

lemma supplementedBy_eq_iff : new.supplementedBy old = new ↔ new.Covers old := by
  constructor
  · intro h
    exact {
      observedGeneration := or_eq_left_iff.mp (congrArg Status.observedGeneration h)
      targetId := or_eq_left_iff.mp (congrArg Status.targetId h)
      gatewayArn := or_eq_left_iff.mp (congrArg Status.gatewayArn h)
      targetStatus := or_eq_left_iff.mp (congrArg Status.targetStatus h)
      lastSynchronized := or_eq_left_iff.mp (congrArg Status.lastSynchronized h) }
  · intro h
    simp only [supplementedBy, or_eq_left_iff.mpr h.observedGeneration,
      or_eq_left_iff.mpr h.targetId, or_eq_left_iff.mpr h.gatewayArn,
      or_eq_left_iff.mpr h.targetStatus, or_eq_left_iff.mpr h.lastSynchronized]

lemma IsWritable.supplementedBy (hnew : new.IsWritable) (hold : old.IsWritable) :
    (new.supplementedBy old).IsWritable where
  generation n hn := (Option.or_eq_some_iff.mp hn).elim (hnew.generation n) fun h =>
    hold.generation n h.2
  synchronized t ht := (Option.or_eq_some_iff.mp ht).elim (hnew.synchronized t) fun h =>
    hold.synchronized t h.2
  conditions := hnew.conditions

end Status

/-! ## Patched statuses -/

namespace Store.ApiServer

variable {old new : Status}

/-- The fields of a status with their values, given those of the reasons. -/
def listed (reasons : Option Json) (s : Status) : List (String × Option Json) :=
  [("observedGeneration", s.observedGeneration.map int), ("targetId", s.targetId.map str),
   ("gatewayArn", s.gatewayArn.map str), ("targetStatus", s.targetStatus.map str),
   ("statusReasons", reasons), ("lastSynchronized", s.lastSynchronized.map ofTimestamp),
   ("conditions", some (arr (s.conditions.map Condition.encode)))]

lemma isFlat_listed {texts : List String} :
    ∀ m ∈ listed (some (ofTexts texts)) new, ∀ value ∈ m.2, value.isFlat := by
  simp [listed, ofTexts, ofTimestamp, isFlat]

/-- A patch with reasons has the say on them. -/
lemma zipWith_listed {reasons : Json} {oldReasons : Option Json} :
    ((listed (some reasons) new).map Prod.snd).zipWith Option.or
      ((listed oldReasons old).map Prod.snd) =
        (listed (some reasons) (new.supplementedBy old)).map Prod.snd := by
  simp [listed, Status.supplementedBy, Option.map_or]

/-- What is stored after a patch of a status is read as the new one, supplemented by the old one. -/
theorem decode?_merged (hold : old.IsWritable) (hnew : new.IsWritable) :
    Status.decode? (merged (some old.encode) (patchedStatus new)) =
      some (new.supplementedBy old) := by
  have hfields : fields? Status.fields (merged (some old.encode) (patchedStatus new)) = some
      ((listed (some (ofTexts new.statusReasons)) (new.supplementedBy old)).map Prod.snd) := by
    rw [← zipWith_listed]
    exact fields?_merged Status.fields_nodup rfl rfl isFlat_listed
  rw [Status.decode?, hfields]
  exact Status.ofFields?_written (hnew.supplementedBy hold) (texts?_ofTexts new.statusReasons)

/-- Where there was no status, the new one is stored as it is. -/
theorem decode?_merged_none (hnew : new.IsWritable) :
    Status.decode? (merged none (patchedStatus new)) = some new := by
  have hfields : fields? Status.fields (merged none (patchedStatus new)) =
      some ((listed (some (ofTexts new.statusReasons)) new).map Prod.snd) :=
    fields?_merged_none Status.fields_nodup rfl isFlat_listed
  rw [Status.decode?, hfields]
  exact Status.ofFields?_written hnew (texts?_ofTexts new.statusReasons)

/-- A patch replaces a status just in case the new one has every option that the old one has. -/
theorem decode?_merged_eq_iff {old : Option Status} (hold : ∀ s ∈ old, s.IsWritable)
    (hnew : new.IsWritable) :
    Status.decode? (merged (old.map Status.encode) (patchedStatus new)) = some new ↔
      ∀ s ∈ old, new.Covers s := by
  cases old with
  | none => simp [decode?_merged_none hnew]
  | some s => simp [decode?_merged (hold s rfl) hnew, Status.supplementedBy_eq_iff]

/-! ## A server that applies patches -/

/-- What a server holds after a request. -/
def received (request : Http.Request) (object : Json) : Json :=
  match request.body with
  | none => object
  | some body =>
    if request.method = "PATCH" ∧ request.contentType = some "application/merge-patch+json" then
      merged (some object) body
    else object

/-- A server that holds one object, merges every patch into it, and answers in any way. -/
def patching (respond : Http.Request → Json → Option Http.Response) (request : Http.Request) :
    StateM Json (Option Http.Response) :=
  fun object => (respond request (received request object), received request object)

@[simp] lemma run_patching (respond : Http.Request → Json → Option Http.Response)
    (request : Http.Request) (object : Json) : (patching respond request).run object =
      (respond request (received request object), received request object) :=
  rfl

/-- A copy says which version of which object it is of, and the object has an address. -/
def IsAddressed (copy : Resource) : Prop :=
  ∃ ns name version, copy.metadata.ns = some ns ∧ copy.metadata.name = some name ∧
    copy.metadata.resourceVersion = some version ∧ (target? ns name "/status?").isSome

/-- The status that an object has. -/
def statusOf (object : Json) : Option Status :=
  (object.member? "status").bind Status.decode?

lemma member?_merged_statusPatch (object : Json) (version : String) (status : Status) :
    (merged (some object) (statusPatch version status)).member? "status" =
      some (merged (object.member? "status") (patchedStatus status)) := by
  have hbefore : findMember "status" object.members = object.member? "status" := by
    cases object <;> rfl
  calc
    (merged (some object) (statusPatch version status)).member? "status"
    _ = some (merged (findMember "status" object.members) (patchedStatus status)) :=
      findMember_mergedMembers (by simp)
    _ = some (merged (object.member? "status") (patchedStatus status)) := by rw [hbefore]

/-- What a write does with the answer leaves the server alone. -/
lemma run_write {send : Http.Request → StateM Json (Option Http.Response)} {copy : Resource}
    {ns name version part : String} {patch : String → Json} {object : Json}
    (hns : copy.metadata.ns = some ns) (hname : copy.metadata.name = some name)
    (hversion : copy.metadata.resourceVersion = some version) :
    ((write send copy part patch).run object).2 = ((submit send "PATCH"
      (target? ns name (part ++ "?")) (some (patch version))).run object).2 := by
  simp only [write, hns, hname, hversion, StateT.run_bind]
  generalize (submit send "PATCH" (target? ns name (part ++ "?"))
    (some (patch version))).run object = answered
  obtain ⟨_ | stored, object'⟩ := answered <;> rfl

/-- What is sent for a status write is the patch of that status. -/
lemma serve_replaceStatus {respond : Http.Request → Json → Option Http.Response}
    {copy : Resource} (h : IsAddressed copy) (status : Status) (object : Json) :
    ∃ version, ((serve (patching respond) (.replaceStatus copy status)).run object).2 =
      merged (some object) (statusPatch version status) := by
  obtain ⟨ns, name, version, hns, hname, hversion, haddress⟩ := h
  obtain ⟨target, htarget⟩ := Option.isSome_iff_exists.mp haddress
  have hurl : target? ns name ("/status" ++ "?") = some target := htarget
  refine ⟨version, ?_⟩
  calc
    ((serve (patching respond) (.replaceStatus copy status)).run object).2
    _ = ((submit (patching respond) "PATCH" (some target)
          (some (statusPatch version status))).run object).2 := by
      rw [← hurl]
      exact run_write hns hname hversion
    _ = merged (some object) (statusPatch version status) := by
      simp only [submit, StateT.run_bind, run_patching, received]
      rfl

/-- A status that is written for a copy is what both stores hold afterwards. -/
structure StoredAlike (copy : Resource) (status : Status) : Prop where
  /-- A server that applies patches held the status of the copy before. -/
  patched : ∀ (respond : Http.Request → Json → Option Http.Response) (object : Json),
    IsAddressed copy → object.member? "status" = copy.status.map Status.encode →
    statusOf ((serve (patching respond) (.replaceStatus copy status)).run object).2 = some status
  /-- A store in memory has accepted the write. -/
  replaced : ∀ (s s' : InMemory) (written : Resource),
    s.replaceStatus copy status = (.ok written, s') →
    (s'.objects.get? (location copy)).bind (·.status) = some status
  /-- A store in memory that returned the copy at some time accepts the write exactly if no refusal
  is pending, a resource is stored in the place, and nothing has been written there since. -/
  accepted : ∀ (earlier later : List Access) (a : Access),
    (InMemory.after {} earlier).returned? a = some copy →
    let s := InMemory.after {} (earlier ++ a :: later)
    (∃ written, (s.replaceStatus copy status).1 = .ok written) ↔
      s.statusConflicts = 0 ∧ (s.objects.get? (location copy)).isSome ∧
        InMemory.Unwritten (location copy) (InMemory.after {} (earlier ++ [a])) later

lemma storedAlike_of_covers {copy : Resource} {status : Status}
    (hold : ∀ old ∈ copy.status, old.IsWritable) (hnew : status.IsWritable)
    (h : ∀ old ∈ copy.status, status.Covers old) : StoredAlike copy status where
  patched respond object haddressed hobject := by
    obtain ⟨version, hserved⟩ := serve_replaceStatus haddressed status object
    rw [hserved, statusOf, member?_merged_statusPatch, hobject]
    exact (decode?_merged_eq_iff hold hnew).mpr h
  replaced s s' written hwritten := by
    rcases s.replaceStatus_cases copy status with ⟨e, herror, -⟩ | ⟨stored, copied, -, hkept⟩
    · rw [hwritten] at herror
      cases herror
    · rw [hwritten] at hkept
      rw [hkept.get?_self, hkept.result]
      rfl
  accepted earlier later a hreturned := by
    rw [InMemory.after_append, InMemory.after_append]
    exact (InMemory.checked_of_returned (InMemory.Orderly.empty.after earlier) hreturned later
      (.status status)).accepted

end Store.ApiServer

/-! ## Updates of the controller -/

namespace Controller

open Store Store.ApiServer

variable {r : Resource} {u : StatusUpdate}

/-- An update asks for the latest copy and the time, and writes that copy's status with its
change. -/
lemma StatusUpdate.asks_program {P : Query → Prop} (hget : ∀ ns name, P (.store (.get ns name)))
    (hnow : P .now)
    (hput : ∀ asked change, u.Begins r asked change → ∀ latest now,
      P (.store (.replaceStatus latest (change.applyTo now latest)))) :
    (u.program r).Asks P := by
  cases u with
  | created target => exact asks_applyChange r hget hnow (hput _ _ (.created target))
  | observed state => exact asks_applyChange r hget hnow (hput _ _ (.observed state))
  | condition c => exact asks_applyChange r hget hnow (hput _ _ (.condition c))
  | ready =>
    refine Pass.asks_bind (Pass.asks_query hnow) fun began => ?_
    exact asks_applyChange r hget hnow (hput _ _ (.ready began {}))
  | notReady reason message =>
    refine Pass.asks_bind (Pass.asks_query hnow) fun began => ?_
    exact asks_applyChange r hget hnow (hput _ _ (.notReady reason message began {}))

/-- A change for a generation lets go of no option. -/
lemma StatusUpdate.Begins.covers {asked : List Exchange} {change : StatusChange}
    (h : u.Begins r asked change) (hgeneration : r.metadata.generation.isSome) (now : Timestamp)
    {latest : Resource} {old : Status} (hold : latest.status = some old) :
    (change.applyTo now latest).Covers old := by
  have hlatest : latest.status.getD {} = old := by rw [hold, Option.getD_some]
  rw [StatusChange.applyTo, hlatest]
  cases h with
  | created target =>
    exact ⟨fun _ => hgeneration, fun _ => rfl, fun _ => rfl, fun _ => rfl, fun _ => rfl⟩
  | observed state => exact ⟨fun _ => hgeneration, id, id, fun _ => rfl, fun _ => rfl⟩
  | condition c => exact ⟨id, id, id, id, id⟩
  | ready began before => exact ⟨id, id, id, id, id⟩
  | notReady reason message began before => exact ⟨id, id, id, id, id⟩

/-- A patch with a new status leaves the new status, just in case that has every option that the old
one has.  Every status that an update makes out of the latest one has them, if the copy that the
update starts from has a generation; so what an update has written is the same in both stores. -/
theorem status_patch_replaces :
    (∀ (old : Option Status) (new : Status), (∀ s ∈ old, s.IsWritable) → new.IsWritable →
      (Status.decode? (merged (old.map Status.encode) (patchedStatus new)) = some new ↔
        ∀ s ∈ old, new.Covers s)) ∧
    ∀ (r : Resource) (u : StatusUpdate), r.metadata.generation.isSome →
      (∀ asked change, u.Begins r asked change → ∀ now latest, ∀ old ∈ latest.status,
        (change.applyTo now latest).Covers old) ∧
      (u.program r).Asks fun q => ∀ latest status, q = .store (.replaceStatus latest status) →
        (∀ old ∈ latest.status, old.IsWritable) → status.IsWritable →
          StoredAlike latest status := by
  refine ⟨fun old new hold hnew => decode?_merged_eq_iff hold hnew, fun r u hgeneration => ?_⟩
  have hcovers : ∀ asked change, u.Begins r asked change → ∀ now latest, ∀ old ∈ latest.status,
      (change.applyTo now latest).Covers old :=
    fun _ _ h now _ _ hold => h.covers hgeneration now hold
  refine ⟨hcovers, StatusUpdate.asks_program (fun _ _ => by simp) (by simp) ?_⟩
  intro asked change h latest now latest' status heq hold hnew
  cases heq
  exact storedAlike_of_covers hold hnew (hcovers asked change h now latest)

/-- The status of a resource before its target has been looked at. -/
def sampleStatus : Status :=
  { observedGeneration := some 1, targetId := some "target-1" }

/-- The status of the stored resource once its target has been seen operational. -/
def samplePatched : Status :=
  StatusChange.applyTo deletionInstant sampleMarked (.observed (some 1) ⟨"READY", []⟩)

/-- A patch that says less than the old status is no replacement.  The state of a target that is
recorded is what both stores hold then: by a patch, and by a write that is accepted since nothing
has been written after the copy was fetched. -/
theorem status_patch_replaces_recorded :
    Status.decode? (merged (some sampleStatus.encode) (patchedStatus {})) ≠ some {} ∧
      statusOf ((serve (patching fun _ _ => none) (.replaceStatus sampleMarked samplePatched)).run
        (obj [("status", sampleStatus.encode)])).2 = some samplePatched ∧
      ∃ written, (sampleStore.replaceStatus sampleMarked samplePatched).1 = .ok written ∧
        ((sampleStore.replaceStatus sampleMarked samplePatched).2.objects.get?
          (location sampleMarked)).bind (·.status) = some samplePatched := by
  have hgeneration : FitsIn64Bits 1 := ⟨by decide, by decide⟩
  have hinstant : deletionInstant.HasFourDigitYear := ⟨by decide, by decide⟩
  have hbefore : sampleMarked.status = some sampleStatus := by decide +kernel
  have hold : ∀ s ∈ some sampleStatus, s.IsWritable := by
    intro s hs
    cases hs
    exact ⟨by simpa [sampleStatus], by simp [sampleStatus], by simp [sampleStatus]⟩
  have hrecorded : samplePatched.IsWritable := by
    exact ⟨by simpa [samplePatched, StatusChange.applyTo, StatusChange.apply],
      by simpa [samplePatched, StatusChange.applyTo, StatusChange.apply],
      by simp [samplePatched, StatusChange.applyTo, StatusChange.apply, hbefore, sampleStatus]⟩
  obtain ⟨hiff, hupdates⟩ := status_patch_replaces
  refine ⟨fun hpatched => ?_, ?_⟩
  · have hcovers := (hiff (some sampleStatus) {} hold ⟨by simp, by simp, by simp⟩).mp hpatched
    exact absurd ((hcovers sampleStatus rfl).targetId rfl) (by decide)
  have hasks := (hupdates sampleMarked (.observed ⟨"READY", []⟩) (by decide +kernel)).2
  have hfetched := (hasks.2 (.ok (some sampleMarked))).2 deletionInstant
  have halike : StoredAlike sampleMarked samplePatched :=
    hfetched.1 sampleMarked samplePatched rfl (hbefore ▸ hold) hrecorded
  have haddressed : IsAddressed sampleMarked := ⟨"tools", "files", "2", by decide +kernel⟩
  have hobject : (obj [("status", sampleStatus.encode)]).member? "status" =
      sampleMarked.status.map Status.encode := by
    rw [hbefore]
    rfl
  have hreturned : (InMemory.after {} [.edit (.insert sampleRegistered),
      .edit (.markDeleted "tools" "files")]).returned? (.get "tools" "files") =
        some sampleMarked := by decide +kernel
  obtain ⟨written, hwritten⟩ := (halike.accepted _ [] _ hreturned).mpr
    ⟨rfl, by decide +kernel, trivial⟩
  exact ⟨halike.patched _ _ haddressed hobject, written, hwritten,
    halike.replaced sampleStore _ written (Prod.ext hwritten rfl)⟩

end Controller

end TargetRegistrar
