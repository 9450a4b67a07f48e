import TargetRegistrar.Proofs.Controller.Errand
import TargetRegistrar.Proofs.Controller.Release

/-!
# What a create or an update rests on

A pass validates the copy that it has read, attaches the finalizer if the copy lacks it, and sends
its request on behalf of what the store returned from that.  Others may have edited, deleted or
replaced the resource meanwhile, and may do so again before the call is made.

`Warrant` says what holds of every create and update all the same: there was a moment of the pass at
which the store held a resource with the finalizer, not marked for deletion and with a valid
specification, and the request is the one that is built from that very resource.  The finalizer is
written only over the copy that was validated (`FinalizersWritten.stored_eq`), and a finalizer
changes nothing that validation reads, so that the two copies agree.
-/

namespace TargetRegistrar.Controller

open Store Gateway Registration

/-- Right after a question of the trail the store held the resource in a place. -/
def Held (trail : List Exchange) (place : Location) (r : Resource) : Prop :=
  ∃ x ∈ trail, ∃ s, Answers x.before x.query x.answer s ∧ s.objects.get? place = some r

/-- A resource whose target may be created or updated, with its validated specification. -/
structure Cleared (c : Config) (r : Resource) (v : Validated) : Prop where
  guarded : r.hasFinalizer finalizer
  kept : r.isBeingDeleted = false
  valid : validate c.defaultGateway r = .ok v

/-- The tokens under which the target of a resource may be created: the one of its identity and
generation, or for want of an identity one that was drawn. -/
inductive TokenFor (r : Resource) (trail : List Exchange) : CreateToken → Prop where
  | chosen {uid : String} (huid : r.metadata.uid = some uid) (hne : uid ≠ "") :
      TokenFor r trail (.chosen (uid ++ "-" ++ toString (r.metadata.generation.getD 0)))
  | drawn {token : CreateToken} {before : Store.InMemory}
      (huid : ∀ uid, r.metadata.uid = some uid → uid = "")
      (htoken : ⟨.freshToken, token, before⟩ ∈ trail) : TokenFor r trail token

/-- The call is the one that is built from a resource with a validated specification. -/
inductive BuiltFrom (r : Resource) (v : Validated) (trail : List Exchange) : Call → Prop where
  | create {request : CreateRequest} {token : CreateToken} (hrec : r.recordedTarget? = none)
      (hreq : v.createRequest = .ok request) (htoken : TokenFor r trail token) :
      BuiltFrom r v trail (.create { request with clientToken := some token })
  | update {targetId : String} {request : UpdateRequest}
      (hrec : r.recordedTarget? = some targetId) (hreq : v.updateRequest targetId = .ok request) :
      BuiltFrom r v trail (.update request)

/-- The store has held a resource from which the call is built. -/
def Warrant (c : Config) (place : Location) (trail : List Exchange) (call : Call) : Prop :=
  ∃ r v, Held trail place r ∧ Cleared c r v ∧ BuiltFrom r v trail call

section Warrant

variable {c : Config} {ns name : String} {place : Location} {r : Resource} {v : Validated}
  {call : Call} {trail : List Exchange}

lemma Held.weaken (x : Exchange) (h : Held trail place r) : Held (x :: trail) place r := by
  obtain ⟨y, hy, hheld⟩ := h
  exact ⟨y, List.mem_cons_of_mem x hy, hheld⟩

lemma TokenFor.weaken {token : CreateToken} (x : Exchange) (h : TokenFor r trail token) :
    TokenFor r (x :: trail) token := by
  cases h with
  | chosen huid hne => exact .chosen huid hne
  | drawn huid htoken => exact .drawn huid (List.mem_cons_of_mem x htoken)

lemma BuiltFrom.weaken (x : Exchange) (h : BuiltFrom r v trail call) :
    BuiltFrom r v (x :: trail) call := by
  cases h with
  | create hrec hreq htoken => exact .create hrec hreq (htoken.weaken x)
  | update hrec hreq => exact .update hrec hreq

lemma Warrant.weaken (x : Exchange) (h : Warrant c place trail call) :
    Warrant c place (x :: trail) call := by
  obtain ⟨r, v, hheld, hcleared, hbuilt⟩ := h
  exact ⟨r, v, hheld.weaken x, hcleared, hbuilt.weaken x⟩

lemma tokenFor_of_createToken {token : CreateToken} (h : createToken r = some token) :
    TokenFor r trail token := by
  unfold createToken at h
  cases huid : r.metadata.uid with
  | none => simp [huid, nonEmpty] at h
  | some uid =>
    by_cases hne : uid = ""
    · simp [huid, nonEmpty, hne] at h
    · obtain rfl : _ = token := by simpa [huid, nonEmpty, hne] using h
      exact .chosen huid hne

lemma no_identity_of_createToken (h : createToken r = none) (uid : String)
    (huid : r.metadata.uid = some uid) : uid = "" := by
  unfold createToken at h
  by_contra hne
  simp [huid, nonEmpty, hne] at h

/-- The request of a due create is built, up to its token. -/
lemma Due.builtFrom_create {request : CreateRequest} {token : CreateToken}
    (h : Due r v (.create request)) (hreq : request.clientToken = some token)
    (htoken : TokenFor r trail token) : BuiltFrom r v trail (.create request) := by
  cases h with
  | create hrec hbuilt =>
    have hcreate := BuiltFrom.create hrec hbuilt htoken
    rwa [show ({ ({ request with clientToken := none } : CreateRequest) with
      clientToken := some token } : CreateRequest) = request by rw [← hreq]] at hcreate

/-! ## Along a pass -/

/-- What holds of the copy in each stage until its target is created or updated. -/
def Warranted (c : Config) (ns name : String) : Stage → Store.InMemory → List Exchange → Prop
  | .unguarded r v, s, _ =>
    s.Issued r ∧ location r = (ns, name) ∧ r.isBeingDeleted = false ∧
      validate c.defaultGateway r = .ok v
  | .guarded r v, _, trail => Held trail (ns, name) r ∧ Cleared c r v
  | .drawn r v token, _, trail =>
    Held trail (ns, name) r ∧ Cleared c r v ∧ TokenFor r trail token
  | .calling call, _, trail =>
    call.operation = .create ∨ call.operation = .update → Warrant c (ns, name) trail call
  | _, _, _ => True

namespace Warranted

variable {st st' : Stage} {s s' : Store.InMemory}

/-- Others cannot take back what the store has held. -/
lemma touched (h : Warranted c ns name st s trail) (ht : s.Touch s') :
    Warranted c ns name st s' trail := by
  cases st with
  | unguarded r v => exact ⟨h.1.touch ht, h.2⟩
  | _ => exact h

lemma weaken (x : Exchange) (h : Warranted c ns name st s trail) :
    Warranted c ns name st s (x :: trail) := by
  cases st with
  | guarded r v => exact ⟨h.1.weaken x, h.2⟩
  | drawn r v token => exact ⟨h.1.weaken x, h.2.1, h.2.2.weaken x⟩
  | calling call => exact fun hcall => (h hcall).weaken x
  | _ => exact h

/-- A copy that was just read is what the store holds. -/
lemma opens {r : Resource} (hs : s.Orderly) (h : st.Opens c r)
    (ha : s.Serves (.get ns name) (.ok (some r)) s') :
    Warranted c ns name st s' (⟨.store (.get ns name), .ok (some r), s⟩ :: trail) := by
  have hissued : s'.Issued r := Store.InMemory.Serves.issued hs ha
  have hheld : Held (⟨.store (.get ns name), .ok (some r), s⟩ :: trail) (ns, name) r := by
    obtain ⟨rfl, hfound⟩ := ha.get
    exact ⟨_, List.mem_cons_self, _, ha, (hfound _ rfl).symm⟩
  cases h with
  | unguarded hdel hv hfin =>
    obtain ⟨rfl, hfound⟩ := ha.get
    exact ⟨hissued, hs.located (hfound _ rfl).symm, hdel, hv⟩
  | guarded hdel hv hfin => exact ⟨hheld, hfin, hdel, hv⟩
  | _ => trivial

/-- The finalizer is attached to the very copy that was validated. -/
lemma attached {r r' : Resource} (h : Warranted c ns name (.unguarded r v) s trail)
    (ha : s.Serves (.replaceFinalizers r (r.finalizers ++ [finalizer])) (.ok r') s') :
    Warranted c ns name (.guarded r' v) s'
      (⟨.store (.replaceFinalizers r (r.finalizers ++ [finalizer])), .ok r', s⟩ :: trail) := by
  obtain ⟨hissued, hlocation, hdel, hv⟩ := h
  obtain ⟨stored, hwritten⟩ := ha.replaceFinalizers
  have hstored : s'.objects.get? (location r) = some r' := hwritten.get?_self (by simp)
  obtain rfl := hwritten.written_eq hissued
  refine ⟨⟨_, List.mem_cons_self, s', ha, hlocation ▸ hstored⟩, ?_, hdel, ?_⟩
  · simp [Resource.hasFinalizer, Resource.finalizers, Store.InMemory.stamped,
      Store.InMemory.withFinalizers]
  · rw [← hv]
    exact validate_congr _ rfl rfl

/-- What creates or updates a target is built from a copy that the store has held. -/
lemma sends {raced : Raced call.Outcome} (h : Warranted c ns name st s trail)
    (hm : Paces c ns name st (.gateway call) raced st')
    (hmutates : call.operation = .create ∨ call.operation = .update) :
    Warrant c (ns, name) trail call := by
  cases hm with
  | quiet _ _ hquiet => cases hquiet
  | create _ hdue htoken hreq =>
    obtain ⟨hheld, hcleared⟩ := h
    exact ⟨_, _, hheld, hcleared, hdue.builtFrom_create hreq (tokenFor_of_createToken htoken)⟩
  | createDrawn _ hdue hreq =>
    obtain ⟨hheld, hcleared, htoken⟩ := h
    exact ⟨_, _, hheld, hcleared, hdue.builtFrom_create hreq htoken⟩
  | update _ hdue =>
    obtain ⟨hheld, hcleared⟩ := h
    cases hdue with
    | update hrec hgen hreq => exact ⟨_, _, hheld, hcleared, .update hrec hreq⟩
  | poll _ _ => rcases hmutates with hop | hop <;> cases hop
  | delete _ => rcases hmutates with hop | hop <;> cases hop
  | again _ => exact h hmutates

lemma moved {q : Query} {answer : q.Answer} (hs : s.Orderly) (h : Warranted c ns name st s trail)
    (hm : Paces c ns name st q answer st') (ha : Answers s q answer s') :
    Warranted c ns name st' s' (⟨q, answer, s⟩ :: trail) := by
  cases hm with
  | opened _ => trivial
  | read hopens => exact opens hs hopens ha
  | readNothing _ => trivial
  | quiet _ _ _ => exact (h.touched (ha.touch hs)).weaken _
  | attach => exact attached h ha
  | attachRefused => trivial
  | draw token htoken =>
    obtain ⟨hheld, hcleared⟩ := h
    have hno := no_identity_of_createToken htoken
    exact ⟨hheld.weaken _, hcleared, .drawn hno List.mem_cons_self⟩
  | create raced hdue htoken hreq =>
    exact fun hmutates => (h.sends (.create raced hdue htoken hreq) hmutates).weaken _
  | createDrawn raced hdue hreq =>
    exact fun hmutates => (h.sends (.createDrawn raced hdue hreq) hmutates).weaken _
  | update raced hdue => exact fun hmutates => (h.sends (.update raced hdue) hmutates).weaken _
  | poll _ _ => trivial
  | delete raced => exact fun hmutates => (h.sends (.delete raced) hmutates).weaken _
  | again raced => exact fun hmutates => (h.sends (.again raced) hmutates).weaken _
  | detach _ hst =>
    obtain rfl | ⟨_, _, rfl⟩ := hst
    · trivial
    · rintro (hop | hop) <;> cases hop

lemma stable : Stable (Paces c ns name) .opening (Warranted c ns name) where
  opening _ := trivial
  touched := touched
  moved := moved

end Warranted

/-- However others interfere with a pass and whatever it is answered, each call with which it
creates or updates a target comes after a moment at which the store held, in the place of the pass,
a resource with the finalizer, without a deletion mark and with a valid specification, and the call
is the one that is built from that resource. -/
theorem mutation_warranted {rest : Pass Error Directive} {s before : Store.InMemory}
    {earlier : List Exchange} {raced : Raced call.Outcome}
    (h : Trail (reconcile c ns name).run rest.run s trail)
    (hcall : ⟨.gateway call, raced, before⟩ :: earlier <:+ trail)
    (hmutates : call.operation = .create ∨ call.operation = .update) :
    ∃ r v, Held earlier (ns, name) r ∧ Cleared c r v ∧ BuiltFrom r v earlier call := by
  obtain ⟨st, st', s', hAt, hpaces, -⟩ :=
    h.exists_step Warranted.stable (reconcile_paces c ns name) hcall
  exact hAt.sends hpaces hmutates

end Warrant

/-- A resource that is to be registered. -/
def sampleNew : Resource where
  metadata := { name := some "files", ns := some "tools", uid := some "u1", generation := some 1 }
  spec := { endpoint := "https://files.example", capabilities := ["tools"],
            gatewayId := some "gw" }
  status := none

/-- The store that holds only that resource. -/
def sampleNewStore : Store.InMemory :=
  ({} : Store.InMemory).edit (.insert sampleNew)

/-- The resource as that store holds it. -/
def sampleNewStored : Resource :=
  (sampleNewStore.current "tools" "files").getD sampleNew

/-- The request for its target. -/
def sampleNewRequest : CreateRequest where
  gatewayId := "gw"
  config := { name := "files", description := none, endpoint := "https://files.example",
              credentials := .gatewayRole, propagation := none }
  clientToken := some (.chosen "u1-1")

/-- A pass that finds a new resource attaches the finalizer and creates the target, from the
resource as it was then, although that is marked for deletion before the call is made. -/
theorem created_from_attached :
    ∃ (rest : Pass Error Directive) (s before : Store.InMemory) (trail earlier : List Exchange)
      (raced : Raced (Call.create sampleNewRequest).Outcome),
      Trail (reconcile sampleConfig "tools" "files").run rest.run s trail ∧
      ⟨.gateway (.create sampleNewRequest), raced, before⟩ :: earlier <:+ trail ∧
      ∃ r v, Held earlier ("tools", "files") r ∧ Cleared sampleConfig r v ∧
        BuiltFrom r v earlier (.create sampleNewRequest) := by
  have hstart : Trail (reconcile sampleConfig "tools" "files").run _ _ _ := .start
  have hnew := hstart.edited (.insert sampleNew)
  have hopened := hnew.asked (q := .isCancelled) false rfl
  have hread := hopened.asked (q := .store (.get "tools" "files"))
    (.ok (some sampleNewStored)) (.inl ⟨by decide +kernel, rfl⟩)
  have hattached := hread.asked (q := .store (.replaceFinalizers sampleNewStored [finalizer]))
    (.ok (sampleNewStore.stamped (Store.InMemory.withFinalizers sampleNewStored [finalizer])))
    (.inl ⟨by decide +kernel, rfl⟩)
  have hmarked := hattached.edited (.markDeleted "tools" "files")
  have hcreated := hmarked.asked (q := .gateway (.create sampleNewRequest))
    (.finished (.ok ⟨"target-1", "arn:gw", "CREATING"⟩)) rfl
  exact ⟨_, _, _, _, _, _, hcreated, List.suffix_rfl,
    mutation_warranted hcreated List.suffix_rfl (.inl rfl)⟩

end TargetRegistrar.Controller
