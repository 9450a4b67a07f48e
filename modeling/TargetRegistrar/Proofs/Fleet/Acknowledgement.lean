import TargetRegistrar.Proofs.Fleet.Owners

/-!
# Acknowledged specifications

A status that names the generation of its resource acknowledges the specification of that
generation: the gateway has accepted it, and nothing else since.  The controller writes a generation
that it has read before the call to a copy that it reads after it, so that the specification may
have been edited in between; then the generation has moved on, and the status acknowledges nothing.

The invariant is that the acknowledged generation is never ahead of the resource, and that the last
request for a recorded target is the one of the specification as long as the two generations agree.
While a pass is under way, this is known of the copy that it works on.
-/

namespace TargetRegistrar.Fleet

open Store Gateway Controller Registration

/-! ## Accepted requests -/

/-- A request that a gateway has accepted. -/
inductive Accepted where
  | create (request : CreateRequest)
  | update (request : UpdateRequest)

/-- The create or update for a target that a deed remembers as accepted. -/
def Deed.accepted? (t : String) : Deed → Option Accepted
  | created _ request t' => if t' = t then some (.create request) else none
  | recalled _ request t' => if t' = t then some (.create request) else none
  | updated request => if request.targetId = t then some (.update request) else none
  | _ => none

/-- The last request that a gateway has accepted for a target. -/
def World.lastAccepted (w : World) (t : String) : Option Accepted :=
  w.deeds.findSome? (Deed.accepted? t)

/-- A request is the one that is built from a valid specification, whatever its token. -/
def Accepted.BuiltFrom (v : Validated) (t : String) : Accepted → Prop
  | create request => v.createRequest = .ok { request with clientToken := none }
  | update request => v.updateRequest t = .ok request

/-- The last request for a target was built from the specification of a resource. -/
def Current (c : Config) (w : World) (r : Resource) (t : String) : Prop :=
  ∃ v request, validate c.defaultGateway r = .ok v ∧ w.lastAccepted t = some request ∧
    request.BuiltFrom v t

lemma Current.congr {c : Config} {w w' : World} {r r' : Resource} {t : String}
    (h : Current c w r t) (hspec : r'.spec = r.spec) (hname : r'.metadata.name = r.metadata.name)
    (hlast : w'.lastAccepted t = w.lastAccepted t) : Current c w' r' t := by
  obtain ⟨v, request, hv, hrequest, hbuilt⟩ := h
  exact ⟨v, request, (validate_congr _ hspec hname).trans hv, hlast.trans hrequest, hbuilt⟩

variable {c : Config} {w w' : World} {place : Location} {ph ph' : Phase}
  {copy copy' : Option Resource} {a : Act} {edits : (Spec → Spec) → Prop}

lemma lastAccepted_act (a : Act) (t : String) : (w.act a).lastAccepted t = w.lastAccepted t := by
  cases a with
  | edit e => cases e <;> rfl
  | _ => rfl

/-- Why a pass on a copy has a request for a target accepted: the copy recorded no target, or it
recorded this one and the generation had moved on. -/
inductive Applied (w : World) (r : Resource) (t : String) : Prop where
  | created (hrec : r.recordedTarget? = none) (hreturned : w.Returned r t)
  | updated (hrec : r.recordedTarget? = some t)
      (hmoved : r.metadata.generation ≠ r.observedGeneration)

lemma lastAccepted_create {time : Nat} {request : CreateRequest} {reply : CreatedTarget}
    (copy : Option Resource) (h : (w.gateway.serve time (.create request)).1 = .ok reply)
    (t : String) :
    (w.afterCall copy time (.create request)).lastAccepted t =
      if reply.targetId = t then some (.create request) else w.lastAccepted t := by
  unfold World.afterCall World.lastAccepted
  rw [h]
  by_cases ht : reply.targetId = t <;>
    by_cases hknown : (w.gateway.remembered? request.clientToken).isSome <;>
      simp [deedsOfCall, hknown, Deed.accepted?, ht]

lemma lastAccepted_update {time : Nat} {request : UpdateRequest} {state : TargetState}
    (copy : Option Resource) (h : (w.gateway.serve time (.update request)).1 = .ok state)
    (t : String) :
    (w.afterCall copy time (.update request)).lastAccepted t =
      if request.targetId = t then some (.update request) else w.lastAccepted t := by
  unfold World.afterCall World.lastAccepted
  rw [h]
  by_cases ht : request.targetId = t <;> simp [deedsOfCall, Deed.accepted?, ht]

/-- A call that fails is not accepted. -/
lemma lastAccepted_error {time : Nat} {call : Call} {e : Gateway.Error}
    (h : (w.gateway.serve time call).1 = .error e) (t : String) :
    (w.afterCall copy time call).lastAccepted t = w.lastAccepted t := by
  unfold World.afterCall World.lastAccepted
  rw [h]
  cases call with
  | delete gatewayId targetId =>
    by_cases hdenied : e.isNotFound ∧ (w.gateway.heldBy? gatewayId targetId).isSome
    · simp only [deedsOfCall, if_pos hdenied]
      rfl
    · simp only [deedsOfCall, if_neg hdenied]
      rfl
  | _ => rfl

lemma lastAccepted_afterCall (hcopy : ∀ r v, ph = .guarded r v → copy = some r) (time : Nat)
    {call : Call} {next : call.Reply → Phase} (hcalls : ph.Calls call next) (t : String) :
    (w.afterCall copy time call).lastAccepted t = w.lastAccepted t ∨
      ∃ r v, ph = .guarded r v ∧ Applied (w.afterCall copy time call) r t := by
  cases houtcome : (w.gateway.serve time call).1 with
  | error e => exact .inl (lastAccepted_error houtcome t)
  | ok reply =>
    cases hcalls with
    | @create r v request hrec _ =>
      obtain rfl := hcopy r v rfl
      by_cases ht : reply.targetId = t
      · have hreturned := returned_afterCall (r := r) houtcome
        rw [ht] at hreturned
        exact .inr ⟨r, v, rfl, .created hrec hreturned⟩
      · exact .inl (by rw [lastAccepted_create (some r) houtcome t, if_neg ht])
    | @update r v t' request hrec hgen hreq =>
      obtain ⟨config, -, rfl⟩ := updateRequest_eq_ok hreq
      by_cases ht : t' = t
      · subst ht
        exact .inr ⟨r, v, rfl, .updated hrec hgen⟩
      · exact .inl (by rw [lastAccepted_update copy houtcome t, if_neg ht])
    | poll _ _ _ =>
      refine .inl ?_
      unfold World.afterCall World.lastAccepted
      rw [houtcome]
      rfl
    | delete =>
      refine .inl ?_
      unfold World.afterCall World.lastAccepted
      rw [houtcome]
      rfl

/-- What was last accepted for a target stays so, unless the pass has a request for it accepted. -/
lemma lastAccepted_stride (hcopy : ∀ r v, ph = .guarded r v → copy = some r)
    (hs : Stride c place w ph copy w' ph' copy') (t : String) :
    w'.lastAccepted t = w.lastAccepted t ∨ ∃ r v, ph = .guarded r v ∧ Applied w' r t := by
  cases hs with
  | tried time hcalls => exact lastAccepted_afterCall hcopy time hcalls t
  | succeeded time hcalls _ => exact lastAccepted_afterCall hcopy time hcalls t
  | _ => exact .inl rfl

/-! ## What a status acknowledges -/

/-- Generations in their order; before the first of them there may be none. -/
def rank (generation : Option Int) : Int :=
  generation.getD (-1)

lemma rank_lt_next (generation : Option Int) :
    rank generation < rank (some (generation.getD 0 + 1)) := by
  cases generation with
  | none => decide
  | some n =>
    show n < n + 1
    omega

/-- The acknowledged generation is not ahead of the resource, and if it is the same, the last
request for the recorded target was built from the specification. -/
structure Acknowledges (c : Config) (w : World) (r : Resource) : Prop where
  lag : rank r.observedGeneration ≤ rank r.metadata.generation
  current : ∀ t, r.recordedTarget? = some t → r.observedGeneration = r.metadata.generation →
    Current c w r t

/-- What a change reports of a copy has been accepted. -/
def Reports (c : Config) (w : World) (r : Resource) : StatusChange → Prop
  | .created generation target =>
    generation = r.metadata.generation ∧ Current c w r target.targetId
  | .observed generation _ =>
    generation = r.metadata.generation ∧ ∀ t, r.recordedTarget? = some t → Current c w r t
  | .condition _ => True

/-- What is known while a pass works on a copy. -/
def Announces (c : Config) (w : World) : Phase → Prop
  | .guarded r _ => Acknowledges c w r
  | .changing r change => Reports c w r change
  | .writing r change _ => Reports c w r change
  | _ => True

/-- Stored resources acknowledge only what has been accepted, and passes report only that. -/
def acknowledgement (c : Config) : Assertion where
  Holds w := ∀ place s, w.store.objects.get? place = some s → Acknowledges c w s
  At _ ph _ w := Announces c w ph

lemma Acknowledges.congr {r r' : Resource} (h : Acknowledges c w r)
    (hturn : PassTurn r r') (hrec : r'.recordedTarget? = r.recordedTarget?)
    (hobserved : r'.observedGeneration = r.observedGeneration)
    (hlast : ∀ t, r.recordedTarget? = some t → r.observedGeneration = r.metadata.generation →
      w'.lastAccepted t = w.lastAccepted t) : Acknowledges c w' r' := by
  refine ⟨?_, fun t ht hgen => ?_⟩
  · rw [hobserved, hturn.generation]
    exact h.lag
  · rw [hrec] at ht
    rw [hobserved, hturn.generation] at hgen
    exact (h.current t ht hgen).congr hturn.spec hturn.name (hlast t ht hgen)

lemma Acknowledges.behind {r : Resource}
    (h : rank r.observedGeneration < rank r.metadata.generation) : Acknowledges c w r := by
  refine ⟨Int.le_of_lt h, fun t _ hsame => ?_⟩
  rw [hsame] at h
  exact absurd h (Int.lt_irrefl _)

/-- A resource without a status acknowledges nothing. -/
lemma Acknowledges.blank {r : Resource} (hblank : r.status = none)
    (hgen : 0 ≤ r.metadata.generation.getD 0) : Acknowledges c w r := by
  refine ⟨?_, fun t ht _ => ?_⟩
  · rw [Resource.observedGeneration, hblank]
    cases hsome : r.metadata.generation with
    | none => exact Int.le_refl _
    | some n =>
      rw [hsome] at hgen
      exact Int.le_trans (by decide) hgen
  · rw [Resource.recordedTarget?, hblank] at ht
    cases ht

/-- An edit leaves the acknowledged generation behind. -/
lemma Acknowledges.turn {s s' : Resource} (h : Acknowledges c w s) (ht : UserTurn edits s s')
    (hlast : ∀ t, w'.lastAccepted t = w.lastAccepted t) : Acknowledges c w' s' := by
  have hrec := recordedTarget?_congr ht.status
  have hobserved := observedGeneration_congr ht.status
  obtain ⟨hspec, hgen⟩ | ⟨_, -, -, hgen⟩ := ht.spec
  · exact h.congr ⟨ht.uid, ht.name, hspec, hgen⟩ hrec hobserved fun t _ _ => hlast t
  · refine .behind ?_
    rw [hobserved, hgen]
    exact Int.lt_of_le_of_lt h.lag (rank_lt_next _)

/-- A resource in custody has the specification of the copy as long as it has its generation. -/
lemma Evolves.same_or_later {r s : Resource} (h : Evolves edits r s) :
    (s.spec = r.spec ∧ s.metadata.generation = r.metadata.generation) ∨
      rank r.metadata.generation < rank s.metadata.generation := by
  induction h with
  | same hspec hgen => exact .inl ⟨hspec, hgen⟩
  | @edited s s' _ _ _ _ hgen ih =>
    have hstep : rank s.metadata.generation < rank s'.metadata.generation := by
      rw [hgen]
      exact rank_lt_next _
    obtain ⟨-, hsame⟩ | hlt := ih
    · exact .inr (hsame ▸ hstep)
    · exact .inr (Int.lt_trans hlt hstep)

/-- A status that acknowledges the generation of a copy, after the specification of the copy has
been accepted for the target that the status records. -/
lemma Acknowledges.of_matches {r s s' : Resource} (hmatches : Matches edits r s)
    (hturn : PassTurn s s') (hobserved : s'.observedGeneration = r.metadata.generation)
    (hcurrent : ∀ t, s'.recordedTarget? = some t → Current c w r t) : Acknowledges c w s' := by
  obtain ⟨hspec, hgen⟩ | hlt := hmatches.spec.same_or_later
  · refine ⟨?_, fun t ht _ => ?_⟩
    · exact Int.le_of_eq (by rw [hobserved, hturn.generation, hgen])
    · have hname := hturn.name.trans hmatches.name
      exact (hcurrent t ht).congr (hturn.spec.trans hspec) hname rfl
  · refine .behind ?_
    rw [hobserved, hturn.generation]
    exact hlt

/-- After a change that reports what has been accepted, the status acknowledges no more than
that. -/
lemma Reports.acknowledges {r s s' : Resource} {change : StatusChange} {now : Timestamp}
    (h : Reports c w r change) (hs : Acknowledges c w s)
    (hward : change.isRemote → Matches edits r s) (hturn : PassTurn s s')
    (hstatus : s'.status = some (change.applyTo now s)) : Acknowledges c w s' := by
  have hrec := recordedTarget?_written hstatus
  have hobserved := observedGeneration_written hstatus
  cases change with
  | created generation target =>
    obtain ⟨rfl, hcurrent⟩ := h
    refine .of_matches (hward rfl) hturn hobserved fun t ht => ?_
    rw [ht] at hrec
    obtain rfl : target.targetId = t := by
      simpa using (Option.filter_eq_some_iff.mp hrec.symm).1
    exact hcurrent
  | observed generation state =>
    obtain ⟨rfl, hcurrent⟩ := h
    refine .of_matches (hward rfl) hturn hobserved fun t ht => hcurrent t ?_
    rw [← recordedTarget?_congr (hward rfl).status, ← ht]
    exact hrec.symm
  | condition condition => exact hs.congr hturn hrec hobserved fun _ _ _ => rfl

/-! ## Every pass keeps to its own targets -/

variable {r s : Resource} {t : String}

/-- A target that a copy in custody records was made for that resource. -/
lemma madeFor_of_ward (hrecords : records.Holds w) (hph : Tended edits place ph w)
    (hward : ph.ward? = some r) (hrec : r.recordedTarget? = some t) : w.MadeFor r t := by
  obtain ⟨s, hs, hmatches⟩ := hph.ward r hward
  rw [← recordedTarget?_congr hmatches.status] at hrec
  obtain ⟨r₁, hreturned, huid⟩ := hrecords _ _ _ hs hrec
  exact ⟨r₁, hreturned, huid.trans hmatches.uid⟩

lemma World.MadeFor.stride (h : w.MadeFor s t) (hs : Stride c place w ph copy w' ph' copy') :
    w'.MadeFor s t := by
  obtain ⟨r, hreturned, huid⟩ := h
  exact ⟨r, hreturned.mono fun _ => mem_deeds_stride hs, huid⟩

/-- What was last accepted for the target of a resource is changed only by a pass on it. -/
lemma lastAccepted_stride_madeFor (hw : (enumerated c edits).Holds w)
    (hph : (enumerated c edits).At place ph copy w) (hs : Stride c place w ph copy w' ph' copy')
    (hmade : w.MadeFor s t) :
    w'.lastAccepted t = w.lastAccepted t ∨
      ∃ r v, ph = .guarded r v ∧ Applied w' r t ∧ r.metadata.uid = s.metadata.uid := by
  obtain ⟨hcopy, htended, -, -⟩ := enumerated_at hph
  obtain hsame | ⟨r, v, rfl, happlied⟩ := lastAccepted_stride hcopy hs t
  · exact .inl hsame
  · have hw' : (enumerated c edits).Holds w' :=
      (enumerated_inductive.stride trivial trivial hw hph hs).1
    obtain ⟨haccounted, -, -, hcounted⟩ := enumerated_holds hw'
    obtain ⟨-, -, hrecords, -⟩ := enumerated_holds hw
    have howner : w'.MadeFor r t := by
      cases happlied with
      | created _ hreturned => exact ⟨r, hreturned, rfl⟩
      | updated hrec _ => exact (madeFor_of_ward hrecords htended rfl hrec).stride hs
    have huid := madeFor_unique haccounted hcounted howner (hmade.stride hs)
    exact .inr ⟨r, v, rfl, happlied, huid⟩

/-- A pass has nothing accepted for a target whose resource acknowledges its specification. -/
lemma Applied.unacknowledged (h : Applied w' r t) (hr : Acknowledges c w r)
    (hmatches : Matches edits r s) (hrec : s.recordedTarget? = some t) :
    s.observedGeneration ≠ s.metadata.generation := by
  intro hgen
  rw [recordedTarget?_congr hmatches.status] at hrec
  rw [observedGeneration_congr hmatches.status] at hgen
  cases h with
  | created hnone _ => cases hrec.symm.trans hnone
  | updated _ hmoved =>
    obtain ⟨-, hsame⟩ | hlt := hmatches.spec.same_or_later
    · exact hmoved (hsame.symm.trans hgen.symm)
    · -- the status cannot acknowledge a generation that the copy has not reached
      rw [← hgen] at hlt
      exact absurd hr.lag (Int.not_le.mpr hlt)

/-- What a stored resource acknowledges stays the last that was accepted. -/
lemma lastAccepted_stride_stored (hw : (enumerated c edits).Holds w)
    (hph : (enumerated c edits).At place ph copy w) (hannounces : Announces c w ph)
    (hs : Stride c place w ph copy w' ph' copy') {p : Location}
    (hstored : w.store.objects.get? p = some s) (hrec : s.recordedTarget? = some t)
    (hgen : s.observedGeneration = s.metadata.generation) :
    w'.lastAccepted t = w.lastAccepted t := by
  obtain ⟨-, hidentified, hrecords, -⟩ := enumerated_holds hw
  obtain ⟨-, htended, -, -⟩ := enumerated_at hph
  have hmade := hrecords p s t hstored hrec
  obtain hsame | ⟨r, v, rfl, happlied, huid⟩ := lastAccepted_stride_madeFor hw hph hs hmade
  · exact hsame
  · obtain ⟨s₀, hs₀, hmatches⟩ := htended.ward r rfl
    have hp := hidentified.alone hs₀ hstored (hmatches.uid.trans huid)
    rw [hp, hstored] at hs₀
    obtain rfl := Option.some.inj hs₀
    exact absurd hgen (happlied.unacknowledged hannounces hmatches hrec)

/-- What a pass announces stays true as long as nothing else is accepted for its target. -/
lemma Announces.frame (h : Announces c w ph) (hrecords : records.Holds w)
    (hph : Tended edits place ph w) (hpending : records.At place ph copy w)
    (hlast : ∀ r t, ph.ward? = some r → w.MadeFor r t → w'.lastAccepted t = w.lastAccepted t) :
    Announces c w' ph := by
  have hrecorded : ∀ r t, ph.ward? = some r → r.recordedTarget? = some t →
      w'.lastAccepted t = w.lastAccepted t :=
    fun r t hward hrec => hlast r t hward (madeFor_of_ward hrecords hph hward hrec)
  have hreports : ∀ r change, Reports c w r change → ph.pending? = some (r, change) →
      (change.isRemote → ph.ward? = some r) → Reports c w' r change := by
    intro r change hreports hchange hward
    cases change with
    | created generation target =>
      have hmade : w.MadeFor r target.targetId := ⟨r, hpending r generation target hchange, rfl⟩
      exact ⟨hreports.1, hreports.2.congr rfl rfl (hlast r _ (hward rfl) hmade)⟩
    | observed generation state =>
      exact ⟨hreports.1, fun t ht =>
        (hreports.2 t ht).congr rfl rfl (hrecorded r t (hward rfl) ht)⟩
    | condition condition => trivial
  cases ph with
  | guarded r v =>
    exact Acknowledges.congr h (.refl r) rfl rfl fun t ht _ => hrecorded r t rfl ht
  | changing r change => exact hreports r change h rfl fun hremote => if_pos hremote
  | writing r change latest => exact hreports r change h rfl fun hremote => if_pos hremote
  | _ => trivial

/-! ## The invariant -/

/-- What is stored after a stride acknowledges only what has been accepted. -/
lemma acknowledges_stride (hw : (enumerated c edits).Holds w)
    (hph : (enumerated c edits).At place ph copy w) (h : (acknowledgement c).Holds w)
    (hannounces : Announces c w ph) (hs : Stride c place w ph copy w' ph' copy')
    {p : Location} {s' : Resource} (hs' : w'.store.objects.get? p = some s') :
    Acknowledges c w' s' := by
  obtain ⟨hcopy, htended, -, -⟩ := enumerated_at hph
  obtain ⟨s, hstored, hturn, hstatus | ⟨r, change, now, rfl, rfl, hstatus⟩⟩ :=
    stride_turn htended.grounded hs hs'
  · exact (h p s hstored).congr hturn (recordedTarget?_congr hstatus)
      (observedGeneration_congr hstatus) fun t ht hgen =>
        lastAccepted_stride_stored hw hph hannounces hs hstored ht hgen
  · have hack : Acknowledges c w s' :=
      Reports.acknowledges hannounces (h p s hstored)
        (fun hremote => htended.matches (if_pos hremote) hstored) hturn hstatus
    -- a pass that is about to write makes no call
    have hlast : ∀ t, w'.lastAccepted t = w.lastAccepted t := by
      intro t
      obtain hsame | ⟨_, _, hguarded, -⟩ := lastAccepted_stride hcopy hs t
      · exact hsame
      · cases hguarded
    exact hack.congr (.refl s') rfl rfl fun t _ _ => hlast t

/-- After a call that has succeeded, its report is true. -/
lemma announces_succeeded {call : Call} {next : call.Reply → Phase} {reply : call.Reply}
    {time : Nat} (hv : Validity c ph) (h : Announces c w ph) (hcalls : ph.Calls call next)
    (hreply : settle call (w.gateway.serve time call).1 = .ok reply) :
    Announces c (w.afterCall copy time call) (next reply) := by
  cases hcalls with
  | create _ hreq =>
    have hlast := lastAccepted_create copy hreply reply.targetId
    rw [if_pos rfl] at hlast
    exact ⟨rfl, _, _, hv, hlast, hreq.built⟩
  | @update r v t request hrec _ hreq =>
    obtain ⟨config, -, rfl⟩ := updateRequest_eq_ok hreq
    have hlast := lastAccepted_update copy hreply t
    rw [if_pos rfl] at hlast
    refine ⟨rfl, fun t' ht' => ?_⟩
    obtain rfl : t = t' := Option.some.inj (hrec.symm.trans ht')
    exact ⟨_, _, hv, hlast, hreq⟩
  | poll _ hgen _ =>
    refine ⟨rfl, fun t ht => (h.current t ht hgen.symm).congr rfl rfl ?_⟩
    unfold World.afterCall World.lastAccepted
    rw [show (w.gateway.serve time _).1 = .ok reply from hreply]
    rfl
  | delete => trivial

/-- A call that was not seen to succeed may have been accepted, but only if the status did not
acknowledge the copy. -/
lemma announces_tried {call : Call} {next : call.Reply → Phase} {time : Nat}
    (hcopy : ∀ r v, ph = .guarded r v → copy = some r) (h : Announces c w ph)
    (hcalls : ph.Calls call next) : Announces c (w.afterCall copy time call) ph := by
  have hguarded : ∀ r v, ph = .guarded r v → Acknowledges c w r →
      Acknowledges c (w.afterCall copy time call) r := by
    intro r v hr hack
    refine hack.congr (.refl r) rfl rfl fun t ht hgen => ?_
    obtain hsame | ⟨_, _, hph, happlied⟩ := lastAccepted_afterCall hcopy time hcalls t
    · exact hsame
    · cases hr.symm.trans hph
      cases happlied with
      | created hnone _ => cases hnone.symm.trans ht
      | updated _ hmoved => exact absurd hgen.symm hmoved
  cases hcalls with
  | delete => trivial
  | _ => exact hguarded _ _ rfl h

lemma announces_stride (hw : (enumerated c edits).Holds w)
    (hph : (enumerated c edits).At place ph copy w) (h : (acknowledgement c).Holds w)
    (hannounces : Announces c w ph) (hs : Stride c place w ph copy w' ph' copy') :
    Announces c w' ph' := by
  obtain ⟨hcopy, htended, hvalid, hpending⟩ := enumerated_at hph
  obtain ⟨-, -, hrecords, -⟩ := enumerated_holds hw
  cases hs with
  | quiet => exact hannounces
  | read hstored hbegins =>
    cases hbegins with
    | guarded _ _ _ => exact h _ _ hstored
    | _ => trivial
  | @refused _ _ _ s₂ _ hrefused =>
    obtain rfl | ⟨r, change, latest, rfl, rfl⟩ := hrefused
    · trivial
    · have hkept : Announces c { w with store := s₂ } (.writing r change latest) :=
        hannounces.frame hrecords htended hpending fun _ _ _ _ => rfl
      exact hkept
  | attached hwritten =>
    exact (h _ _ hwritten.found).congr (hwritten.result ▸ ⟨rfl, rfl, rfl, rfl⟩)
      (hwritten.result ▸ rfl) (hwritten.result ▸ rfl) fun _ _ _ => rfl
  | tried time hcalls => exact announces_tried hcopy hannounces hcalls
  | succeeded time hcalls hreply => exact announces_succeeded hvalid hannounces hcalls hreply
  | fetched hfetches _ =>
    cases hfetches with
    | changing _ => exact hannounces
    | _ => trivial
  | _ => trivial

/-- Statuses acknowledge only what has been accepted, whatever users do to specifications. -/
lemma acknowledgement_inductive :
    Inductive c (Users StartsCounted edits) (enumerated c edits) (acknowledgement c) where
  empty _ _ h := nomatch h
  opening _ := trivial
  act {w a} _ h ha p s' hs' := by
    have hlast := lastAccepted_act (w := w) a
    obtain ⟨r, rfl, -, rfl⟩ | ⟨s, hs, hturn⟩ := stored_act ha.respectful hs'
    · exact .blank (r := w.store.stamped r) ha.1.blank ha.2
    · exact (h p s hs).turn hturn hlast
  actAt hw hph _ hannounces _ := by
    obtain ⟨-, -, hrecords, -⟩ := enumerated_holds hw
    obtain ⟨-, htended, -, hpending⟩ := enumerated_at hph
    exact hannounces.frame hrecords htended hpending fun _ t _ _ => lastAccepted_act _ t
  stride hw hph h hannounces hs :=
    ⟨fun _ _ => acknowledges_stride hw hph h hannounces hs,
      announces_stride hw hph h hannounces hs⟩
  strideAt hw hph hph₂ _ _ h₂ hne hs := by
    obtain ⟨-, hidentified, hrecords, -⟩ := enumerated_holds hw
    obtain ⟨-, htended, -, -⟩ := enumerated_at hph
    obtain ⟨-, htended₂, -, hpending₂⟩ := enumerated_at hph₂
    refine h₂.frame hrecords htended₂ hpending₂ fun r₂ t hward hmade => ?_
    obtain hsame | ⟨r, v, rfl, -, huid⟩ := lastAccepted_stride_madeFor hw hph hs hmade
    · exact hsame
    · exact absurd (ward_unique hidentified htended htended₂ rfl hward huid) hne

/-! ## Acknowledged specifications -/

/-- When the status of a stored resource names its generation, the last request that the gateway
accepted for the recorded target was built from the specification that is stored, whatever was
edited or failed on the way. -/
theorem acknowledged_spec_accepted {f : State} {s : Resource} {t : String}
    (hf : Reachable c (Users StartsCounted fun _ => True) f)
    (hs : f.world.store.objects.get? place = some s) (ht : s.recordedTarget? = some t)
    (hgen : s.observedGeneration = s.metadata.generation) :
    ∃ v request, validate c.defaultGateway s = .ok v ∧ f.world.lastAccepted t = some request ∧
      request.BuiltFrom v t := by
  obtain ⟨hw, -⟩ := hf.satisfies (enumerated_inductive.and acknowledgement_inductive)
  exact (hw.2 place s hs).current t ht hgen

/-- A target is created, the specification is edited, and the target is updated. -/
def editedOnce : List Event :=
  [.act (.edit (.insert exampleResource)), .pass ("tools", "files"),
    .act (.edit (.updateSpec "tools" "files" fun spec =>
      { spec with description := some "edited" })),
    .pass ("tools", "files")]

/-- The update is acknowledged, and it was built from the edited specification. -/
theorem acknowledged_spec_accepted_after_edit :
    ∃ f s, Reachable exampleConfig (Users StartsCounted fun _ => True) f ∧
      f.world.store.objects.get? ("tools", "files") = some s ∧
      s.recordedTarget? = some "target-1" ∧ s.observedGeneration = s.metadata.generation ∧
      s.metadata.generation = some 2 ∧
      ∃ v request, validate exampleConfig.defaultGateway s = .ok v ∧
        f.world.lastAccepted "target-1" = some request ∧ request.BuiltFrom v "target-1" := by
  obtain ⟨w, hreachable, s, hs, ht, hgen, htwo⟩ : ∃ w : World,
      Reachable exampleConfig (Users StartsCounted fun _ => True) { world := w } ∧
      ∃ s ∈ w.store.objects.get? ("tools", "files"), s.recordedTarget? = some "target-1" ∧
        s.observedGeneration = s.metadata.generation ∧ s.metadata.generation = some 2 :=
    ⟨_, Reachable.start.after editedOnce
      ⟨⟨freshInsert_example, Int.le_of_lt Int.one_pos⟩, trivial, trivial⟩, by decide +kernel⟩
  exact ⟨_, s, hreachable, hs, ht, hgen, htwo,
    acknowledged_spec_accepted hreachable hs ht hgen⟩

end TargetRegistrar.Fleet
