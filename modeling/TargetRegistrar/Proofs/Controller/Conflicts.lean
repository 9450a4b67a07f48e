import TargetRegistrar.Proofs.Controller.Decision
import TargetRegistrar.Proofs.Controller.Legs

/-!
# Conflicts with other writers

Whatever the store and the gateway answer, a pass turns a conflict into the request for another
pass, and nothing else: it does so exactly when its last request to the store met another writer.
A pass that ends like this, or with an error, may have written before.  It may have attached the
finalizer or recorded what the gateway has returned, but it has not touched the conditions, for
after a condition is written no request to the store is left that could fail.

`Dialogue` is a pass with arbitrary answers.  Among other writers of one store the writes of a pass
replace what they are based on (`Based`), so that what holds of the copies holds of the stored
objects.
-/

namespace TargetRegistrar.Controller

open Store Gateway

/-! ## Requests that met other writers -/

/-- For a request to the store, whether it met another writer. -/
def Turn.conflict? : Turn → Option Bool
  | ⟨.store _, .error e⟩ => some e.isConflict
  | ⟨.store _, .ok _⟩ => some false
  | _ => none

/-- Whether the last request to the store met another writer. -/
def metConflict (turns : List Turn) : Bool :=
  (turns.findSome? Turn.conflict?).getD false

lemma metConflict_cons (t : Turn) (turns : List Turn) :
    metConflict (t :: turns) = t.conflict?.getD (metConflict turns) := by
  unfold metConflict
  rw [List.findSome?_cons]
  cases t.conflict? <;> rfl

/-- The conditions of a resource. -/
def conditionsOf (r : Resource) : List Condition :=
  (r.status.getD {}).conditions

/-- A status that has been written has the conditions of the copy that the write is based on. -/
def Turn.KeepsConditions : Turn → Prop
  | ⟨.store (.replaceStatus copy status), .ok _⟩ => status.conditions = conditionsOf copy
  | _ => True

/-! ## Updates within a pass -/

namespace StatusUpdate

/-- Whether an update sets a condition. -/
def isAnnouncement : StatusUpdate → Bool
  | created _ => false
  | observed _ => false
  | condition _ => true
  | ready => true
  | notReady _ _ => true

/-- The change that an update makes. -/
def Makes (u : StatusUpdate) (r : Resource) (change : StatusChange) : Prop :=
  ∃ trail, u.Begins r trail change

lemma Makes.conditions {u : StatusUpdate} {r : Resource} {change : StatusChange}
    (h : u.Makes r change) (hu : u.isAnnouncement = false) (now : Timestamp) (latest : Resource) :
    (change.applyTo now latest).conditions = conditionsOf latest := by
  obtain ⟨trail, hbegins⟩ := h
  cases hbegins with
  | created _ => rfl
  | observed _ => rfl
  | _ => cases hu

end StatusUpdate

/-- What is known of an update in each phase: the change that it makes, and how often it may yet be
repeated. -/
def WritePhase.Sound (u : StatusUpdate) (r : Resource) : WritePhase → Prop
  | .fetching change left => u.Makes r change ∧ left ≤ statusRetries
  | .fetched change left _ => u.Makes r change ∧ left ≤ statusRetries
  | .timed change left _ _ => u.Makes r change ∧ left ≤ statusRetries
  | _ => True

lemma Writes.sound {u : StatusUpdate} {r : Resource} {ph ph' : WritePhase} {q : Query}
    {answer : q.Answer} (h : Writes u r ph q answer ph') (hph : ph.Sound u r) :
    ph'.Sound u r := by
  cases h with
  | begin hbegins => exact ⟨⟨_, hbegins {}⟩, Nat.le_refl _⟩
  | fetch => exact hph
  | time _ => exact hph
  | again _ => exact ⟨hph.1, Nat.le_of_succ_le hph.2⟩
  | _ => trivial

namespace Leg

/-- Updates of a leg are as they should be. -/
def Sound : Leg → Prop
  | updating r u ph => ph.Sound u r
  | _ => True

/-- Whether the last request of the pass met another writer. -/
def isConflicted : Leg → Bool
  | stopped e => e.isConflict
  | updating _ _ (.fetching _ left) => left < statusRetries
  | updating _ _ (.ended (.error e)) => e.isConflict
  | _ => false

/-- Whether a condition has been set. -/
def hasAnnounced : Leg → Bool
  | updating _ u (.ended (.ok _)) => u.isAnnouncement
  | _ => false

end Leg

section Legs

variable {c : Config} {ns name : String} {leg leg' : Leg} {q : Query} {answer : q.Answer}
  {turns : List Turn}

lemma Leg.Calls.sound {call : Call} {next : call.Reply → Leg} (h : leg.Calls call next)
    (reply : call.Reply) : (next reply).Sound := by
  cases h with
  | create _ => exact ⟨⟨_, .created reply⟩, Nat.le_refl _⟩
  | update _ _ => exact ⟨⟨_, .observed reply⟩, Nat.le_refl _⟩
  | poll _ _ _ => exact ⟨⟨_, .observed reply⟩, Nat.le_refl _⟩
  | delete => trivial

lemma Works.sound (h : Works leg q answer leg') (hleg : leg.Sound) : leg'.Sound := by
  cases h with
  | call hcalls _ => exact hcalls.sound _
  | fail _ _ => exact hleg
  | wait _ => exact hleg
  | _ => trivial

lemma Proceeds.sound (h : Proceeds ns name leg q answer leg') (hleg : leg.Sound) :
    leg'.Sound := by
  cases h with
  | read hopens => cases hopens <;> trivial
  | work hworks => exact hworks.sound hleg
  | announce _ hbegins => exact hbegins.sound trivial
  | update hwrites => exact hwrites.sound hleg
  | book _ _ _ => exact hleg
  | _ => trivial

/-! ## Conflicts -/

lemma conflict?_of_isBookkeeping (answer : q.Answer) (hq : q.isBookkeeping) :
    Turn.conflict? ⟨q, answer⟩ = none := by
  cases q with
  | store request => cases hq
  | _ => rfl

lemma Leg.Operates.isConflicted {r : Resource} (h : leg.Operates r) :
    leg.isConflicted = false := by
  cases h <;> rfl

lemma Leg.Calls.isConflicted {call : Call} {next : call.Reply → Leg} (h : leg.Calls call next)
    (reply : call.Reply) : (next reply).isConflicted = false := by
  cases h <;> rfl

/-- During its operation a pass asks the store nothing. -/
lemma Works.isConflicted (h : Works leg q answer leg') :
    leg'.isConflicted = (Turn.conflict? ⟨q, answer⟩).getD leg.isConflicted := by
  obtain ⟨r, hoperates⟩ := h.operates
  rw [hoperates.isConflicted]
  cases h with
  | call hcalls _ => exact hcalls.isConflicted _
  | fail _ _ => exact hoperates.isConflicted
  | wait _ => exact hoperates.isConflicted
  | _ => rfl

/-- An update that repeats its attempt has met another writer, and one that goes on has not. -/
lemma Writes.isConflicted {u : StatusUpdate} {r : Resource} {ph ph' : WritePhase}
    (h : Writes u r ph q answer ph') (hph : ph.Sound u r) :
    (Leg.updating r u ph').isConflicted =
      (Turn.conflict? ⟨q, answer⟩).getD (Leg.updating r u ph).isConflicted := by
  cases h with
  | again he =>
    have hleft := hph.2
    show decide _ = Store.Error.isConflict _
    rw [he]
    exact decide_eq_true hleft
  | _ => rfl

/-- A leg is conflicted exactly when the last request to the store met another writer. -/
lemma Proceeds.isConflicted (h : Proceeds ns name leg q answer leg') (hleg : leg.Sound) :
    leg'.isConflicted = (Turn.conflict? ⟨q, answer⟩).getD leg.isConflicted := by
  cases h with
  | read hopens => cases hopens <;> rfl
  | work hworks => exact hworks.isConflicted
  | announce hannounces hbegins =>
    rw [hbegins.isConflicted trivial]
    cases hannounces <;> rfl
  | update hwrites => exact hwrites.isConflicted hleg
  | book _ _ hq =>
    rw [conflict?_of_isBookkeeping _ hq]
    rfl
  | _ => rfl

/-! ## Conditions -/

lemma keepsConditions_of_isBookkeeping (answer : q.Answer) (hq : q.isBookkeeping) :
    Turn.KeepsConditions ⟨q, answer⟩ := by
  cases q with
  | store request => cases hq
  | _ => trivial

/-- A write that changes conditions ends an announcement. -/
lemma Writes.keepsConditions {u : StatusUpdate} {r : Resource} {ph ph' : WritePhase}
    (h : Writes u r ph q answer ph') (hph : ph.Sound u r) :
    Turn.KeepsConditions ⟨q, answer⟩ ∨ (Leg.updating r u ph').hasAnnounced := by
  cases h with
  -- every other question of an update leaves the store as it is
  | write =>
    cases hu : u.isAnnouncement with
    | true => exact .inr hu
    | false => exact .inl (hph.1.conditions hu _ _)
  | _ => exact .inl trivial

/-- A question that changes conditions is the end of an announcement. -/
lemma Proceeds.keepsConditions (h : Proceeds ns name leg q answer leg') (hleg : leg.Sound) :
    Turn.KeepsConditions ⟨q, answer⟩ ∨ leg'.hasAnnounced := by
  cases h with
  | work hworks => cases hworks <;> exact .inl trivial
  | update hwrites => exact hwrites.keepsConditions hleg
  | book _ _ hq => exact .inl (keepsConditions_of_isBookkeeping _ hq)
  | _ => exact .inl trivial

/-- After an announcement only the ledger and the counters are left. -/
lemma Proceeds.hasAnnounced (h : Proceeds ns name leg q answer leg') (hleg : leg.hasAnnounced) :
    leg'.hasAnnounced := by
  cases h with
  | book _ _ _ => exact hleg
  | work hworks =>
    obtain ⟨r, hoperates⟩ := hworks.operates
    cases hoperates <;> cases hleg
  | announce hannounces _ => cases hannounces <;> cases hleg
  | update hwrites => cases hwrites <;> cases hleg
  | _ => cases hleg

/-- What is known of a pass after its turns. -/
structure Known (leg : Leg) (turns : List Turn) : Prop where
  sound : leg.Sound
  conflict : metConflict turns = leg.isConflicted
  conditions : (∀ t ∈ turns, t.KeepsConditions) ∨ leg.hasAnnounced

lemma Known.moved (h : Known leg turns) (hleg : Proceeds ns name leg q answer leg') :
    Known leg' (⟨q, answer⟩ :: turns) where
  sound := hleg.sound h.sound
  conflict := by rw [metConflict_cons, hleg.isConflicted h.sound, h.conflict]
  conditions := by
    obtain hturns | hannounced := h.conditions
    · exact (hleg.keepsConditions h.sound).imp_left fun hturn =>
        List.forall_mem_cons.mpr ⟨hturn, hturns⟩
    · exact .inr (hleg.hasAnnounced hannounced)

end Legs

/-! ## How a pass ends -/

/-- The pass has asked for another one at once, or it has failed. -/
def BrokenOff (outcome : Except Error Directive) : Prop :=
  outcome = .ok .requeueNow ∨ ∃ e, outcome = .error e

namespace Leg.Ends

variable {c : Config} {leg : Leg} {ending : Except Error Directive}

lemma surface_eq_requeueNow {e : Store.Error} :
    surface c (.error (.store e)) = .ok .requeueNow ↔ e.isConflict := by
  rw [surface_store]
  by_cases he : e.isConflict = true
  · simp [he]
  · simp [he]

/-- A pass asks for another one at once in the legs that are conflicted. -/
lemma surface_iff (h : leg.Ends c ending) :
    surface c ending = .ok .requeueNow ↔ leg.isConflicted := by
  cases h with
  | refused => exact surface_eq_requeueNow
  | stopped => exact surface_eq_requeueNow
  | abandoned hoperates => simp [surface, hoperates.isConflicted]
  | updated hconcludes => cases hconcludes <;> simp [surface, isConflicted]
  | unplaced =>
    rw [surface_eq_requeueNow]
    simp [isConflicted, Store.Error.isConflict]
  | _ => simp [surface, isConflicted]

/-- A pass that has set a condition is finished. -/
lemma not_brokenOff (h : leg.Ends c ending) (hleg : leg.hasAnnounced) :
    ¬ BrokenOff (surface c ending) := by
  cases h with
  | updated hconcludes => cases hconcludes <;> simp [surface, BrokenOff]
  | abandoned hoperates => cases hoperates <;> cases hleg
  | _ => cases hleg

end Leg.Ends

/-- What is promised of a pass that has ended with an outcome after its turns. -/
structure Retried (outcome : Except Error Directive) (turns : List Turn) : Prop where
  /-- Nothing but a refusal of the store is an error of the pass, and no conflict is one. -/
  error : ∀ e, outcome = .error e → ∃ e', e = .store e' ∧ e'.isConflict = false
  /-- Another pass is asked for at once exactly when the last request met another writer. -/
  conflict : outcome = .ok .requeueNow ↔ metConflict turns
  /-- A pass that asks for another one, or fails, has written no other conditions. -/
  conditions : BrokenOff outcome → ∀ t ∈ turns, t.KeepsConditions

lemma retried_of_dialogue {c : Config} {ns name : String}
    {outcome : Except Error Directive} {turns : List Turn}
    (h : Dialogue (reconcile c ns name).run (.done outcome) turns) : Retried outcome turns := by
  have hstart : Known .waking [] := ⟨trivial, rfl, .inl (by simp)⟩
  obtain ⟨leg, ⟨ending, hends, houtcome⟩, hknown⟩ :=
    Dialogue.exists_follows hstart Known.moved (reconcile_proceeds c ns name) h
  refine ⟨fun e herror => exists_refusal_of_failed (herror ▸ h), ?_, fun hbroken => ?_⟩
  · rw [houtcome, hends.surface_iff, hknown.conflict]
  · exact hknown.conditions.resolve_right fun hannounced =>
      hends.not_brokenOff hannounced (houtcome ▸ hbroken)

/-! ## Among other writers -/

/-- Every stored object has the conditions that it had before. -/
def SameConditions (before after : Store.InMemory) : Prop :=
  ∀ place r', after.objects.get? place = some r' →
    ∃ r, before.objects.get? place = some r ∧ conditionsOf r' = conditionsOf r

/-- The exchange changed the conditions of no object of the store. -/
def Exchange.KeepsConditions (x : Exchange) : Prop :=
  ∀ after, Answers x.before x.query x.answer after → SameConditions x.before after

/-- The exchange without the store. -/
def Exchange.turn (x : Exchange) : Turn :=
  ⟨x.query, x.answer⟩

/-- The copy that a pass bases its next write on has been handed out by the store. -/
def Based (ph : Phase) (s : Store.InMemory) (_ : List Exchange) : Prop :=
  ∀ r, ph.basis? = some r → s.Issued r

section Trails

variable {c : Config} {ns name : String} {s s' : Store.InMemory} {trail : List Exchange}

lemma SameConditions.of_objects (h : s'.objects = s.objects) : SameConditions s s' :=
  fun _ r' hr' => ⟨r', h ▸ hr', rfl⟩

/-- Finalizers are no conditions. -/
lemma sameConditions_finalizers {copy stored written : Resource} {finalizers : List String}
    (h : s.FinalizersWritten s' copy finalizers stored written) : SameConditions s s' := by
  intro place r' hr'
  rw [h.get?] at hr'
  by_cases hplace : place = location copy
  · by_cases hgone : stored.isBeingDeleted ∧ finalizers.isEmpty
    · simp [hplace, hgone] at hr'
    · rw [if_pos hplace, if_neg hgone, h.result] at hr'
      cases hr'
      exact ⟨stored, hplace ▸ h.found, rfl⟩
  · exact ⟨r', by simpa [hplace] using hr', rfl⟩

/-- A status with the conditions of the stored object leaves them as they are. -/
lemma sameConditions_status {copy stored written : Resource} {status : Status}
    (h : s.StatusWritten s' copy status stored written)
    (hsame : status.conditions = conditionsOf stored) : SameConditions s s' := by
  intro place r' hr'
  rw [h.get?] at hr'
  by_cases hplace : place = location copy
  · rw [if_pos hplace, h.result] at hr'
    cases hr'
    exact ⟨stored, hplace ▸ h.found, hsame⟩
  · exact ⟨r', by simpa [hplace] using hr', rfl⟩

lemma Based.moved {ph ph' : Phase} {q : Query} {answer : q.Answer} (hs : s.Orderly)
    (h : Based ph s trail) (hm : Moves c ns name ph q answer ph') (ha : Answers s q answer s') :
    Based ph' s' (⟨q, answer, s⟩ :: trail) := by
  have ht : s.Touch s' := ha.touch hs
  cases hm with
  | idle _ _ => exact fun r hr => (h r hr).touch ht
  | failed _ _ => exact fun r hr => (h r hr).touch ht
  | read hbegins =>
    have hissued := Store.InMemory.Serves.issued hs ha
    cases hbegins with
    | released _ _ _ =>
      rintro _ ⟨⟩
      exact hissued
    | deleting _ _ _ _ =>
      rintro _ ⟨⟩
      exact hissued
    | unguarded _ _ _ =>
      rintro _ ⟨⟩
      exact hissued
    | _ => rintro _ ⟨⟩
  | called hcalls _ =>
    cases hcalls with
    | delete =>
      rintro _ ⟨⟩
      exact (h _ rfl).touch ht
    | _ => rintro _ ⟨⟩
  | fetch _ _ _ =>
    rintro _ ⟨⟩
    exact Store.InMemory.Serves.issued hs ha
  | _ => rintro _ ⟨⟩

lemma Based.stable : Stable (Moves c ns name) .opening Based where
  opening _ _ h := nomatch h
  touched h ht r hr := (h r hr).touch ht
  moved := moved

lemma Trail.dialogue {α : Type} {p rest : Program α} (h : Trail p rest s trail) :
    Dialogue p rest (trail.map Exchange.turn) := by
  induction h with
  | start => exact .start
  | edited _ _ ih => exact ih
  | asked _ answer _ ih => exact ih.asked answer

/-- An exchange of a pass keeps the conditions of the stored objects if it keeps those of the copy
that it writes. -/
lemma Trail.keepsConditions {rest : Pass Error Directive} {x : Exchange}
    (h : Trail (reconcile c ns name).run rest.run s trail) (hx : x ∈ trail)
    (hturn : x.turn.KeepsConditions) : x.KeepsConditions := by
  obtain ⟨later, earlier, rfl⟩ := List.append_of_mem hx
  obtain ⟨ph, ph', -, hbased, hmoves, -⟩ :=
    h.exists_move Based.stable (List.suffix_append later (x :: earlier))
  obtain ⟨q, answer, before⟩ := x
  intro after hserved
  cases q with
  | store request =>
    cases answer with
    | error e => exact .of_objects (Store.InMemory.Serves.error hserved).objects
    | ok reply =>
      cases request with
      | get ns' name' =>
        obtain ⟨rfl, -⟩ := Store.InMemory.Serves.get hserved
        exact .of_objects rfl
      | replaceFinalizers copy finalizers =>
        obtain ⟨stored, hwritten⟩ := Store.InMemory.Serves.replaceFinalizers hserved
        exact sameConditions_finalizers hwritten
      | replaceStatus copy status =>
        obtain ⟨stored, hwritten⟩ := Store.InMemory.Serves.replaceStatus hserved
        have hissued : before.Issued copy := by
          cases hmoves with
          | idle _ hidle => cases hidle
          | write => exact hbased _ rfl
        refine sameConditions_status hwritten ?_
        rw [hwritten.stored_eq hissued]
        exact hturn
  | _ =>
    obtain rfl : after = before := hserved
    exact .of_objects rfl

end Trails

/-- Conflicts are retried and otherwise invisible.  Whatever the store and the gateway answer, the
result of a pass is a directive or an error of the store other than a conflict; it asks for another
pass at once exactly when its last request to the store met another writer; and whenever it does
so or fails, its writes have left the conditions as they were: those of the copies that they are
based on, and in a store with other writers those of the stored objects. -/
theorem conflicts_retried (c : Config) (ns name : String) :
    (∀ outcome turns, Dialogue (reconcile c ns name).run (.done outcome) turns →
      Retried outcome turns) ∧
    ∀ outcome s trail, Trail (reconcile c ns name).run (.done outcome) s trail →
      BrokenOff outcome → ∀ x ∈ trail, x.KeepsConditions := by
  refine ⟨fun outcome turns h => retried_of_dialogue h, fun outcome s trail h hbroken x hx => ?_⟩
  have hturns := (retried_of_dialogue h.dialogue).conditions hbroken
  have hended : Trail (reconcile c ns name).run (ExceptT.mk (.done outcome)).run s trail := h
  exact hended.keepsConditions hx (hturns _ (List.mem_map_of_mem hx))

/-- The resource after its target has been seen operational, as the store then holds it. -/
def sampleRecorded : Resource :=
  sampleRegisteredStore.stamped (Store.InMemory.withStatus sampleContended sampleSeen)

/-- Its status when that has been announced. -/
def sampleAnnounced : Status :=
  StatusChange.applyTo deletionInstant sampleRecorded (.condition ⟨Condition.readyType, .holds,
    "GatewayTargetReady", "Gateway target is ready and accepting requests", deletionInstant,
    some 1⟩)

/-- A pass that has recorded what it has seen, and meets other writers when it announces that, asks
for another pass, and has touched no condition. -/
theorem conflicts_retried_after_recording :
    ∃ (outcome : Except Error Directive) (s : Store.InMemory) (trail : List Exchange),
      Trail (reconcile sampleConfig "tools" "files").run (.done outcome) s trail ∧
      BrokenOff outcome ∧ (statusWrites trail).length = 4 ∧
      Retried outcome (trail.map Exchange.turn) ∧ ∀ x ∈ trail, x.KeepsConditions := by
  have hstart : Trail (reconcile sampleConfig "tools" "files").run _ _ _ := .start
  have hopened := (hstart.edited (.insert sampleRegistered)).asked (q := .isCancelled) false rfl
  have hread := hopened.asked (q := .store (.get "tools" "files"))
    (.ok (some sampleContended)) (.inl ⟨by decide +kernel, rfl⟩)
  have hseen := hread.asked (q := .gateway (.get "gw" "target-1"))
    (.finished (.ok ⟨"READY", []⟩)) rfl
  have hcounted := hseen.asked (q := .countCall .get true) () rfl
  have hfetched := hcounted.asked (q := .store (.get "tools" "files"))
    (.ok (some sampleContended)) (.inl ⟨by decide +kernel, rfl⟩)
  have htimed := hfetched.asked (q := .now) deletionInstant rfl
  have hrecorded := htimed.asked (q := .store (.replaceStatus sampleContended sampleSeen))
    (.ok sampleRecorded) (.inl ⟨by decide +kernel, rfl⟩)
  have hsucceeded := hrecorded.asked (q := .succeed "tools/files") () rfl
  have hbegun := (hsucceeded.edited (.injectStatusConflicts 3)).asked (q := .now)
    deletionInstant rfl
  have hfetched₁ := hbegun.asked (q := .store (.get "tools" "files"))
    (.ok (some sampleRecorded)) (.inl ⟨by decide +kernel, rfl⟩)
  have htimed₁ := hfetched₁.asked (q := .now) deletionInstant rfl
  have hrefused₁ := htimed₁.asked (q := .store (.replaceStatus sampleRecorded sampleAnnounced))
    (.error (.conflict "tools/files")) (.inl ⟨by decide +kernel, rfl⟩)
  have hfetched₂ := hrefused₁.asked (q := .store (.get "tools" "files"))
    (.ok (some sampleRecorded)) (.inl ⟨by decide +kernel, rfl⟩)
  have htimed₂ := hfetched₂.asked (q := .now) deletionInstant rfl
  have hrefused₂ := htimed₂.asked (q := .store (.replaceStatus sampleRecorded sampleAnnounced))
    (.error (.conflict "tools/files")) (.inl ⟨by decide +kernel, rfl⟩)
  have hfetched₃ := hrefused₂.asked (q := .store (.get "tools" "files"))
    (.ok (some sampleRecorded)) (.inl ⟨by decide +kernel, rfl⟩)
  have htimed₃ := hfetched₃.asked (q := .now) deletionInstant rfl
  have hrefused₃ := htimed₃.asked (q := .store (.replaceStatus sampleRecorded sampleAnnounced))
    (.error (.conflict "tools/files")) (.inl ⟨by decide +kernel, rfl⟩)
  have hretry : BrokenOff (.ok .requeueNow) := .inl rfl
  obtain ⟨hdialogues, htrails⟩ := conflicts_retried sampleConfig "tools" "files"
  exact ⟨_, _, _, hrefused₃, hretry, rfl, hdialogues _ _ hrefused₃.dialogue,
    htrails _ _ _ hrefused₃ hretry⟩

end TargetRegistrar.Controller
