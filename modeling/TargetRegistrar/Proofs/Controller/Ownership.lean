import TargetRegistrar.Proofs.Backoff.History
import TargetRegistrar.Proofs.Controller.Footprint
import TargetRegistrar.Proofs.Controller.Undisturbed
import TargetRegistrar.Proofs.Controller.Warrant
import TargetRegistrar.Proofs.Gateway.Calls

/-!
# What a pass may change

Finalizers and conditions of other writers stand in the same lists that a pass writes as a whole,
from copies that others may have overtaken.  Still a pass only touches what it owns, and `Confined`
says what that is.

A `Sojourn` is a pass among others who edit the store, put the gateway and the accounts of failures
in any state, and do so between any two of its questions.  They only keep from placing targets under
identifiers that are still to be given, for a create would replace such a target.
`Anchored` is what holds of the copies of the pass meanwhile: what it writes is based on a copy that
the store has handed out from the place of the pass, and what it updates or deletes is recorded in a
resource that the store held there.
-/

namespace TargetRegistrar

/-! ## Conditions of others -/

/-- The lists have the same conditions in the same places, but for those on readiness. -/
def SameOthers (conditions conditions' : List Condition) : Prop :=
  ∀ (i : Nat) (c : Condition), c.type ≠ Condition.readyType →
    (conditions[i]? = some c ↔ conditions'[i]? = some c)

lemma Condition.sameOthers_set {new : Condition} (hnew : new.type = readyType)
    (cs : List Condition) : SameOthers cs (Condition.set new cs) := by
  intro i c hc
  have hne : new ≠ c := fun h => hc (h ▸ hnew)
  induction cs generalizing i with
  | nil =>
    cases i with
    | zero => simp [Condition.set, hne]
    | succ i => simp [Condition.set]
  | cons old cs ih =>
    by_cases hold : old.type = new.type
    · have hold' : old ≠ c := fun h => hc (h ▸ hold.trans hnew)
      have hsucceeding : Condition.succeeding old new ≠ c := fun h => by
        have htype := Condition.type_succeeding old new
        rw [h, hnew] at htype
        exact hc htype
      cases i with
      | zero => simp [Condition.set, hold, hold', hsucceeding]
      | succ i => simp [Condition.set, hold]
    · cases i with
      | zero => simp [Condition.set, hold]
      | succ i => simpa [Condition.set, hold] using ih i

/-! ## Targets -/

/-- The existing target that a call is to change. -/
def Gateway.Call.subject? : Call → Option String
  | create _ => none
  | get .. => none
  | update request => some request.targetId
  | delete _ targetId => some targetId

/-- A call changes the target that it is about, or makes one that was not held before. -/
lemma Gateway.InMemory.get?_serve {g : InMemory} (h : g.Unclaimed) (time : Nat) (call : Call)
    (targetId : String) :
    (g.serve time call).2.targets.get? targetId = g.targets.get? targetId ∨
      call.subject? = some targetId ∨
      ((∃ request, call = .create request) ∧ g.targets.get? targetId = none) := by
  have hserved := g.serve_served time call
  generalize (g.serve time call).1 = outcome at hserved
  generalize (g.serve time call).2 = g' at hserved ⊢
  cases hserved with
  | failed _ hsame => exact .inl (by rw [hsame.targets])
  | recalled _ _ hsame => exact .inl (by rw [hsame.targets])
  | polled hsame => exact .inl (by rw [hsame.targets])
  | created _ _ htargets _ _ =>
    by_cases hid : targetId = g.nextId
    · have hnone : g.targets.get? g.nextId = none := h (g.lastId + 1) (by omega)
      exact .inr (.inr ⟨⟨_, rfl⟩, hid ▸ hnone⟩)
    · exact .inl (by rw [htargets, Table.get?_insert, if_neg hid])
  | @updated request _ _ _ _ htargets _ _ =>
    by_cases hid : targetId = request.targetId
    · exact .inr (.inl (congrArg some hid.symm))
    · exact .inl (by rw [htargets, Table.get?_insert, if_neg hid])
  | @deleted _ deleted _ htargets _ _ =>
    by_cases hid : targetId = deleted
    · exact .inr (.inl (congrArg some hid.symm))
    · exact .inl (by rw [htargets, Table.get?_erase, if_neg hid])

namespace Controller

open Store Gateway Registration

/-! ## A pass among others -/

/-- What a question does to a scene, however it is answered.  A request may be refused, and a call
may reach the gateway or not, whatever becomes known of it. -/
def Scene.Endures (s : Scene) : (q : Query) → q.Answer → Scene → Prop
  | .store request, outcome, s' =>
    ∃ store, s.store.Serves request outcome store ∧ s' = { s with store }
  | .gateway call, _, s' =>
    s' = s ∨ ∃ time, s' = { s with gateway := (s.gateway.serve time call).2 }
  | .fail key, _, s' => s' = { s with ledger := (s.ledger.fail key).2 }
  | .succeed key, _, s' => s' = { s with ledger := s.ledger.succeed key }
  | .forget key, _, s' => s' = { s with ledger := s.ledger.forget key }
  | _, _, s' => s' = s

/-- The program `p` is left with `rest` to do in a scene, after its exchanges, the last one first.
Between them others do what they like. -/
inductive Sojourn {α : Type} (p : Program α) : Program α → Scene → List Exchange → Prop where
  | start : Sojourn p p {} []
  | edited {rest : Program α} {s : Scene} {trail : List Exchange} (h : Sojourn p rest s trail)
      (e : Edit) : Sojourn p rest { s with store := s.store.edit e } trail
  | moved {rest : Program α} {s : Scene} {trail : List Exchange} (h : Sojourn p rest s trail)
      (gateway : Gateway.InMemory) (hgateway : gateway.Unclaimed) (ledger : Backoff.Ledger) :
      Sojourn p rest { s with gateway, ledger } trail
  | asked {q : Query} {next : q.Answer → Program α} {s s' : Scene} {trail : List Exchange}
      (h : Sojourn p (.ask q next) s trail) (answer : q.Answer) (ha : s.Endures q answer s') :
      Sojourn p (next answer) s' (⟨q, answer, s.store⟩ :: trail)

lemma Scene.Endures.answers {s s' : Scene} {q : Query} {answer : q.Answer}
    (h : s.Endures q answer s') : Controller.Answers s.store q answer s'.store := by
  cases q with
  | store request =>
    obtain ⟨store, hserves, rfl⟩ := h
    exact hserves
  | gateway call => obtain rfl | ⟨time, rfl⟩ := h <;> exact rfl
  | _ =>
    cases h
    exact rfl

namespace Sojourn

variable {α : Type} {p rest : Program α} {s : Scene} {trail : List Exchange}

/-- What the store goes through is a trail. -/
lemma followed (h : Sojourn p rest s trail) : Trail p rest s.store trail := by
  induction h with
  | start => exact .start
  | edited _ e ih => exact ih.edited e
  | moved _ _ _ _ ih => exact ih
  | asked _ answer ha ih => exact ih.asked answer ha.answers

lemma unclaimed (h : Sojourn p rest s trail) : s.gateway.Unclaimed := by
  induction h with
  | start => exact fun _ _ => rfl
  | edited _ _ ih => exact ih
  | moved _ _ hgateway _ _ => exact hgateway
  | @asked q _ _ _ _ _ answer ha ih =>
    cases q with
    | store request =>
      obtain ⟨store, -, rfl⟩ := ha
      exact ih
    | gateway call =>
      obtain rfl | ⟨time, rfl⟩ := ha
      · exact ih
      · exact ih.serve time call
    | _ =>
      cases ha
      exact ih

/-- What is left of a program asks nothing that the program does not ask. -/
lemma asks {P : Query → Prop} (h : Sojourn p rest s trail) (hp : p.Asks P) : rest.Asks P := by
  induction h with
  | start => exact hp
  | edited _ _ ih => exact ih
  | moved _ _ _ _ ih => exact ih
  | asked _ answer _ ih => exact ih.2 answer

end Sojourn

/-! ## The copies of a pass -/

/-- What holds of the copies of a pass in a place, for each phase.  A copy that a write is to be
based on was handed out by the store, and the store has held a copy whose target is looked
after. -/
def Anchored (place : Location) : Phase → Store.InMemory → List Exchange → Prop
  | .opening, _, _ => True
  | .unguarded r _, s, _ => s.Issued r ∧ location r = place
  | .guarded r _, _, trail => location r = place ∧ Held trail place r
  | .reporting r, _, _ => location r = place
  | .changing r _, _, _ => location r = place
  | .writing r _ latest, s, _ => location r = place ∧ s.Issued latest ∧ location latest = place
  | .deleting r _ targetId, s, trail =>
    s.Issued r ∧ location r = place ∧ r.recordedTarget? = some targetId ∧ Held trail place r
  | .released r, s, _ => s.Issued r ∧ location r = place
  | .ended, _, _ => True

namespace Anchored

variable {c : Config} {ns name : String} {place : Location} {ph ph' : Phase}
  {s s' : Store.InMemory} {trail : List Exchange} {r : Resource}

lemma touched (h : Anchored place ph s trail) (ht : s.Touch s') : Anchored place ph s' trail := by
  cases ph with
  | unguarded r v => exact ⟨h.1.touch ht, h.2⟩
  | writing r change latest => exact ⟨h.1, h.2.1.touch ht, h.2.2⟩
  | deleting r gatewayId targetId => exact ⟨h.1.touch ht, h.2⟩
  | released r => exact ⟨h.1.touch ht, h.2⟩
  | _ => exact h

lemma weaken (x : Exchange) (h : Anchored place ph s trail) :
    Anchored place ph s (x :: trail) := by
  cases ph with
  | guarded r v => exact ⟨h.1, h.2.weaken x⟩
  | deleting r gatewayId targetId => exact ⟨h.1, h.2.1, h.2.2.1, h.2.2.2.weaken x⟩
  | _ => exact h

/-- A copy that was just read is what the store holds. -/
lemma begins (hs : s.Orderly) (h : ph.Begins c r)
    (ha : s.Serves (.get ns name) (.ok (some r)) s') :
    Anchored (ns, name) ph s' (⟨.store (.get ns name), .ok (some r), s⟩ :: trail) := by
  have hissued : s'.Issued r := Store.InMemory.Serves.issued hs ha
  obtain ⟨rfl, hfound⟩ := ha.get
  have hstored : s'.objects.get? (ns, name) = some r := (hfound _ rfl).symm
  have hplace : location r = (ns, name) := hs.located hstored
  have hheld : Held (⟨.store (.get ns name), .ok (some r), s'⟩ :: trail) (ns, name) r :=
    ⟨_, List.mem_cons_self, _, ha, hstored⟩
  cases h with
  | released _ _ _ => exact ⟨hissued, hplace⟩
  | deleting _ _ hrec _ => exact ⟨hissued, hplace, hrec, hheld⟩
  | unguarded _ _ _ => exact ⟨hissued, hplace⟩
  | guarded _ _ _ => exact ⟨hplace, hheld⟩
  | invalid _ _ => exact hplace
  | ended _ => trivial

/-- The latest copy is fetched from the place of the pass. -/
lemma fetches {change : StatusChange} (h : Anchored place ph s trail) (hf : ph.Fetches r change) :
    location r = place := by
  cases hf with
  | changing _ => exact h
  | guarded _ _ => exact h.1
  | reporting _ => exact h
  | writing _ _ _ => exact h.1

/-- After the success of its call a pass goes on with the same copy. -/
lemma called {call : Call} {next : call.Reply → Phase} (h : Anchored place ph s trail)
    (hcalls : ph.Calls call next) (reply : call.Reply) : Anchored place (next reply) s trail := by
  cases hcalls with
  | create _ _ => exact h.1
  | update _ _ _ => exact h.1
  | poll _ _ _ => exact h.1
  | delete => exact ⟨h.1, h.2.1⟩

/-- What a call is to change is recorded in a resource that the store has held. -/
lemma subject {call : Call} {next : call.Reply → Phase} {targetId : String}
    (h : Anchored place ph s trail) (hcalls : ph.Calls call next)
    (hsubject : call.subject? = some targetId) :
    ∃ r, Held trail place r ∧ r.recordedTarget? = some targetId := by
  cases hcalls with
  | create _ _ => cases hsubject
  | @update r _ _ request hrec _ hreq =>
    obtain ⟨config, -, rfl⟩ := updateRequest_eq_ok hreq
    obtain rfl := Option.some.inj hsubject
    exact ⟨r, h.2, hrec⟩
  | poll _ _ _ => cases hsubject
  | @delete r _ _ =>
    obtain rfl := Option.some.inj hsubject
    exact ⟨r, h.2.2.2, h.2.2.1⟩

lemma moved {q : Query} {answer : q.Answer} (hs : s.Orderly) (h : Anchored (ns, name) ph s trail)
    (hm : Moves c ns name ph q answer ph') (ha : Answers s q answer s') :
    Anchored (ns, name) ph' s' (⟨q, answer, s⟩ :: trail) := by
  have ht : s.Touch s' := ha.touch hs
  cases hm with
  | idle _ _ => exact (h.touched ht).weaken _
  | read hbegins => exact begins hs hbegins ha
  | readNothing _ => trivial
  | @attach r r' v =>
    obtain ⟨hissued, hplace⟩ := h
    obtain ⟨stored, hwritten⟩ := Store.InMemory.Serves.replaceFinalizers ha
    have hstored : s'.objects.get? (location r) = some r' := hwritten.get?_self (by simp)
    have hplace' : location r' = location r := by
      rw [hwritten.written_eq hissued]
      rfl
    exact ⟨hplace'.trans hplace, ⟨_, List.mem_cons_self, s', ha, hplace ▸ hstored⟩⟩
  | attachRefused => trivial
  | called hcalls _ => exact ((h.touched ht).called hcalls _).weaken _
  | failed _ _ => exact (h.touched ht).weaken _
  | @fetch _ r latest _ ns' name' hfetches hns hname =>
    have hplace : location r = (ns, name) := h.fetches hfetches
    have hissued : s'.Issued latest := Store.InMemory.Serves.issued hs ha
    obtain ⟨rfl, hfound⟩ := Store.InMemory.Serves.get ha
    have hlatest : location latest = (ns', name') := hs.located (hfound _ rfl).symm
    have hfetched : location r = (ns', name') := by simp [location, hns, hname]
    exact ⟨hplace, hissued, (hlatest.trans hfetched.symm).trans hplace⟩
  | fetchNothing _ _ _ _ => trivial
  | write => exact h.1
  | writeRefused => exact h.1
  | detach _ => trivial

lemma stable : Stable (Moves c ns name) .opening (Anchored (ns, name)) where
  opening _ := trivial
  touched := touched
  moved := moved

end Anchored

/-! ## What becomes of a scene -/

/-- What a pass does to what is stored in its place. -/
inductive Tended : Option Resource → Option Resource → Prop where
  | kept (found : Option Resource) : Tended found found
  /-- The finalizer is attached at the end of the list, or taken away wherever it stands. -/
  | finalizers {r : Resource} {finalizers : List String} (version : Option String)
      (h : finalizers = r.finalizers ++ [finalizer] ∨
        finalizers = r.finalizers.filter (· ≠ finalizer)) :
      Tended (some r) (some { r with
        metadata := { r.metadata with
          finalizers := some finalizers, resourceVersion := version } })
  /-- Nothing keeps a resource any more that is marked for deletion. -/
  | released {r : Resource} (hmark : r.isBeingDeleted)
      (hnone : r.finalizers.filter (· ≠ finalizer) = []) : Tended (some r) none
  /-- A status write leaves the conditions of others in their places. -/
  | status {r : Resource} {status : Status} (version : Option String)
      (h : SameOthers (r.status.getD {}).conditions status.conditions) :
      Tended (some r) (some { r with
        status := some status, metadata := { r.metadata with resourceVersion := version } })

/-- What a question of a pass changes in a scene, after the exchanges of the trail. -/
structure Confined (ns name : String) (trail : List Exchange) (q : Query) (s s' : Scene) :
    Prop where
  elsewhere : ∀ place ≠ (ns, name), s'.store.objects.get? place = s.store.objects.get? place
  here : Tended (s.store.objects.get? (ns, name)) (s'.store.objects.get? (ns, name))
  /-- A target is left alone, or it is recorded for what the store has held in the place of the
  pass, or it has just been created. -/
  targets : ∀ targetId, s'.gateway.targets.get? targetId = s.gateway.targets.get? targetId ∨
    (∃ r, Held trail (ns, name) r ∧ r.recordedTarget? = some targetId) ∨
    ((∃ request, q = .gateway (.create request)) ∧ s.gateway.targets.get? targetId = none)
  accounts : ∀ key ≠ ns ++ "/" ++ name,
    s'.ledger.accounts.get? key = s.ledger.accounts.get? key

section Confined

variable {c : Config} {ns name : String} {place : Location} {ph ph' : Phase} {q : Query}
  {answer : q.Answer} {trail : List Exchange}

lemma StatusChange.IsOwn.sameOthers {change : StatusChange} (h : change.IsOwn) (now : Timestamp)
    (latest : Resource) : SameOthers (latest.status.getD {}).conditions
      (change.applyTo now latest).conditions := by
  cases change with
  | created generation target => exact fun _ _ _ => Iff.rfl
  | observed generation state => exact fun _ _ _ => Iff.rfl
  | condition condition => exact Condition.sameOthers_set h _

/-- What a question may do to the stored resources. -/
structure StoreConfined (place : Location) (s s' : Store.InMemory) : Prop where
  elsewhere : ∀ p ≠ place, s'.objects.get? p = s.objects.get? p
  here : Tended (s.objects.get? place) (s'.objects.get? place)

lemma storeConfined_of_objects {s s' : Store.InMemory} (h : s'.objects = s.objects) :
    StoreConfined place s s' :=
  ⟨fun p _ => by rw [h], by rw [h]; exact .kept _⟩

/-- A finalizer write that is based on a copy from a place stays in that place. -/
lemma storeConfined_finalizers {s s' : Store.InMemory} {r : Resource} {finalizers : List String}
    {outcome : Except Store.Error Resource} (hissued : s.Issued r) (hplace : location r = place)
    (hlist : finalizers = r.finalizers ++ [finalizer] ∨
      finalizers = r.finalizers.filter (· ≠ finalizer))
    (ha : s.Serves (.replaceFinalizers r finalizers) outcome s') : StoreConfined place s s' := by
  cases outcome with
  | error e => exact storeConfined_of_objects ha.error.objects
  | ok written =>
    obtain ⟨stored, hwritten⟩ := ha.replaceFinalizers
    obtain rfl := hwritten.stored_eq hissued
    have hfound := hwritten.found
    have hafter := hwritten.get?
    rw [hplace] at hfound hafter
    refine ⟨fun p hp => by rw [hafter, if_neg hp], ?_⟩
    rw [hafter, if_pos rfl, hfound]
    by_cases hgone : stored.isBeingDeleted ∧ finalizers.isEmpty
    · rw [if_pos hgone]
      obtain ⟨hmark, hempty⟩ := hgone
      obtain rfl | rfl := hlist
      · simp at hempty
      · exact .released hmark (List.isEmpty_iff.mp hempty)
    · rw [if_neg hgone, hwritten.result]
      exact .finalizers _ hlist

/-- A status write that is based on a copy from a place stays in that place. -/
lemma storeConfined_status {s s' : Store.InMemory} {r : Resource} {status : Status}
    {outcome : Except Store.Error Resource} (hissued : s.Issued r) (hplace : location r = place)
    (hothers : SameOthers (r.status.getD {}).conditions status.conditions)
    (ha : s.Serves (.replaceStatus r status) outcome s') : StoreConfined place s s' := by
  cases outcome with
  | error e => exact storeConfined_of_objects ha.error.objects
  | ok written =>
    obtain ⟨stored, hwritten⟩ := ha.replaceStatus
    obtain rfl := hwritten.stored_eq hissued
    have hfound := hwritten.found
    have hafter := hwritten.get?
    rw [hplace] at hfound hafter
    refine ⟨fun p hp => by rw [hafter, if_neg hp], ?_⟩
    rw [hafter, if_pos rfl, hfound, hwritten.result]
    exact .status _ hothers

/-- Whatever a move does to the store, it does in the place of the pass. -/
lemma Anchored.storeConfined {s s' : Store.InMemory} {key : String}
    (h : Anchored (ns, name) ph s trail) (hq : q.IsOwn key)
    (hm : Moves c ns name ph q answer ph') (ha : Answers s q answer s') :
    StoreConfined (ns, name) s s' := by
  have hget {ns' name' : String} {outcome : Except Store.Error (Option Resource)}
      (hread : s.Serves (.get ns' name') outcome s') : StoreConfined (ns, name) s s' :=
    storeConfined_of_objects (by rw [hread.get.1])
  cases hm with
  | @idle _ q _ hidle =>
    cases q with
    | store request => cases hidle
    | gateway call => cases hidle
    | _ => exact storeConfined_of_objects (congrArg Store.InMemory.objects ha)
  | read _ => exact hget ha
  | readNothing _ => exact hget ha
  | attach => exact storeConfined_finalizers h.1 h.2 (.inl rfl) ha
  | attachRefused => exact storeConfined_finalizers h.1 h.2 (.inl rfl) ha
  | called _ _ => exact storeConfined_of_objects (congrArg Store.InMemory.objects ha)
  | failed _ _ => exact storeConfined_of_objects (congrArg Store.InMemory.objects ha)
  | fetch _ _ _ => exact hget ha
  | fetchNothing _ _ _ _ => exact hget ha
  | write =>
    obtain ⟨change, now, hown, hstatus⟩ := hq
    exact storeConfined_status h.2.1 h.2.2 (hstatus ▸ hown.sameOthers now _) ha
  | writeRefused =>
    obtain ⟨change, now, hown, hstatus⟩ := hq
    exact storeConfined_status h.2.1 h.2.2 (hstatus ▸ hown.sameOthers now _) ha
  | detach _ => exact storeConfined_finalizers h.1 h.2 (.inr rfl) ha

/-- Whatever a question does to the accounts, it does to the one of the pass. -/
lemma Scene.Endures.accounts {s s' : Scene} {key k : String} (hq : q.IsOwn key) (hk : k ≠ key)
    (ha : s.Endures q answer s') :
    s'.ledger.accounts.get? k = s.ledger.accounts.get? k := by
  cases q with
  | store request =>
    obtain ⟨store, -, rfl⟩ := ha
    rfl
  | gateway call => obtain rfl | ⟨time, rfl⟩ := ha <;> rfl
  | fail key' =>
    cases ha
    obtain rfl : key' = key := hq
    exact Backoff.Ledger.fail_other hk
  | succeed key' =>
    cases ha
    obtain rfl : key' = key := hq
    exact Backoff.Ledger.succeed_other hk
  | forget key' =>
    cases ha
    obtain rfl : key' = key := hq
    exact Backoff.Ledger.forget_other hk
  | _ =>
    cases ha
    rfl

/-- Whatever a move does to the targets, it does to a recorded one, or it makes a new one. -/
lemma Anchored.targets {s s' : Scene} (h : Anchored place ph s.store trail)
    (hunclaimed : s.gateway.Unclaimed) (hm : Moves c ns name ph q answer ph')
    (ha : s.Endures q answer s') (targetId : String) :
    s'.gateway.targets.get? targetId = s.gateway.targets.get? targetId ∨
      (∃ r, Held trail place r ∧ r.recordedTarget? = some targetId) ∨
      ((∃ request, q = .gateway (.create request)) ∧
        s.gateway.targets.get? targetId = none) := by
  cases q with
  | store request =>
    obtain ⟨store, -, rfl⟩ := ha
    exact .inl rfl
  | gateway call =>
    obtain ⟨next, hcalls⟩ : ∃ next : call.Reply → Phase, ph.Calls call next := by
      cases hm with
      | idle _ hidle => cases hidle
      | called hcalls _ => exact ⟨_, hcalls⟩
      | failed hcalls _ => exact ⟨_, hcalls⟩
    obtain rfl | ⟨time, rfl⟩ := ha
    · exact .inl rfl
    · obtain hsame | hsubject | ⟨⟨request, rfl⟩, hnew⟩ :=
        Gateway.InMemory.get?_serve hunclaimed time call targetId
      · exact .inl hsame
      · exact .inr (.inl (h.subject hcalls hsubject))
      · exact .inr (.inr ⟨⟨request, rfl⟩, hnew⟩)
  | _ =>
    cases ha
    exact .inl rfl

/-- Whatever others do between the questions of a pass, and however its questions are answered, each
of them changes nothing but what the pass owns. -/
theorem pass_confined {s s' : Scene} {next : q.Answer → Pass Error Directive}
    (h : Sojourn (reconcile c ns name).run (.ask q next) s trail)
    (ha : s.Endures q answer s') : Confined ns name trail q s s' := by
  obtain ⟨ph, hfollows, hAt⟩ :=
    h.followed.exists_follows Anchored.stable (reconcile_follows c ns name)
  obtain ⟨ph', hm, -⟩ := hfollows answer
  have hown : q.IsOwn (ns ++ "/" ++ name) := (h.asks (asks_reconcile c ns name)).1
  obtain ⟨helsewhere, hhere⟩ := hAt.storeConfined hown hm ha.answers
  exact ⟨helsewhere, hhere, hAt.targets h.unclaimed hm ha, fun _ hk => ha.accounts hown hk⟩

end Confined

/-- A resource that is guarded by others as well. -/
def sampleShared : Resource :=
  { sampleRegistered with
    metadata := { sampleRegistered.metadata with
      finalizers := some ["other/first", finalizer, "other/last"] } }

/-- The store in which that resource is marked for deletion. -/
def sampleSharedStore : Store.InMemory :=
  (({} : Store.InMemory).edit (.insert sampleShared)).edit (.markDeleted "tools" "files")

/-- The resource as that store holds it. -/
def sampleSharedMarked : Resource :=
  (sampleSharedStore.current "tools" "files").getD sampleShared

/-- The write that lets a resource go leaves the finalizers of others as they are. -/
theorem detach_keeps_other_finalizers :
    ∃ (next : Except Store.Error Resource → Pass Error Directive) (s s' : Scene)
      (trail : List Exchange) (r r' : Resource),
      Sojourn (reconcile sampleConfig "tools" "files").run
        (.ask (.store (.replaceFinalizers sampleSharedMarked ["other/first", "other/last"])) next)
        s trail ∧
      s.store.objects.get? ("tools", "files") = some r ∧
      r.finalizers = ["other/first", finalizer, "other/last"] ∧
      s'.store.objects.get? ("tools", "files") = some r' ∧
      r'.finalizers = ["other/first", "other/last"] ∧
      Confined "tools" "files" trail
        (.store (.replaceFinalizers sampleSharedMarked ["other/first", "other/last"])) s s' := by
  have hstart : Sojourn (reconcile sampleConfig "tools" "files").run _ _ _ := .start
  have hmarked := (hstart.edited (.insert sampleShared)).edited (.markDeleted "tools" "files")
  have hopened := hmarked.asked (q := .isCancelled) false rfl
  have hread := hopened.asked (q := .store (.get "tools" "files"))
    (.ok (some sampleSharedMarked)) ⟨_, .inl ⟨by decide +kernel, rfl⟩, rfl⟩
  have hdeleted := hread.asked (q := .gateway (.delete "gw" "target-1"))
    (.finished (.ok ())) (.inl rfl)
  have hcounted := hdeleted.asked (q := .countCall .delete true) () rfl
  have hserved : Scene.Endures { store := sampleSharedStore }
      (.store (.replaceFinalizers sampleSharedMarked ["other/first", "other/last"]))
      (.ok (sampleSharedStore.stamped
        (Store.InMemory.withFinalizers sampleSharedMarked ["other/first", "other/last"]))) _ :=
    ⟨_, .inl ⟨by decide +kernel, rfl⟩, rfl⟩
  exact ⟨_, _, _, _, sampleSharedMarked, _, hcounted, by decide +kernel, by decide +kernel, rfl,
    by decide +kernel, pass_confined hcounted hserved⟩

end Controller

end TargetRegistrar
