import TargetRegistrar.Proofs.Controller.Token
import TargetRegistrar.Proofs.Fleet.Invariant

/-!
# The targets of a fleet

Every target that the gateway holds goes back to one create, and the gateway remembers it under the
token of that create for as long as it holds it.  Nothing is assumed about what users do.

So there is at most one target for each generation of each resource (`held_target_unique`), however
often the controller asks for it before it has recorded the first answer.  It is not one for each
resource, because the token changes with the generation.
-/

namespace TargetRegistrar.Fleet

open Store Gateway Controller

/-! ## What becomes of the targets -/

/-- No create returns a target. -/
structure NoCreate (w w' : World) : Prop where
  gateway : w.gateway.Narrows w'.gateway
  created : ∀ copy request t, .created copy request t ∈ w'.deeds ↔
    .created copy request t ∈ w.deeds
  recalled : ∀ copy request t, .recalled copy request t ∈ w'.deeds ↔
    .recalled copy request t ∈ w.deeds

/-- A create for a copy of a resource returns a target that is held. -/
structure Recalls (w w' : World) (copy : Option Resource) (request : CreateRequest) (t : String) :
    Prop where
  known : ∃ token held, request.clientToken = some token ∧
    w.gateway.tokens.get? token = some t ∧ w.gateway.targets.get? t = some held
  gateway : w.gateway.SameContent w'.gateway
  deeds : w'.deeds = .recalled copy request t :: w.deeds

/-- A create for a copy of a resource makes a target. -/
structure Creates (w w' : World) (copy : Option Resource) (request : CreateRequest) : Prop where
  unknown : w.gateway.remembered? request.clientToken = none
  targets : w'.gateway.targets =
    w.gateway.targets.insert w.gateway.nextId ⟨request.gatewayId, ⟨creating, []⟩⟩
  tokens : ∀ token, w'.gateway.tokens.get? token =
    if request.clientToken = some token then some w.gateway.nextId
    else w.gateway.tokens.get? token
  lastId : w'.gateway.lastId = w.gateway.lastId + 1
  deeds : w'.deeds = .created copy request w.gateway.nextId :: w.deeds

/-- What a create can come to. -/
def Answered (w w' : World) (copy : Option Resource) (request : CreateRequest) : Prop :=
  (∃ t, Recalls w w' copy request t) ∨ Creates w w' copy request

variable {c : Config} {permits : World → Act → Prop} {w w' : World} {place : Location}
  {ph ph' : Phase} {copy copy' : Option Resource}

lemma NoCreate.of_gateway (hgateway : w'.gateway = w.gateway)
    (hcreated : ∀ copy request t, .created copy request t ∈ w'.deeds ↔
      .created copy request t ∈ w.deeds)
    (hrecalled : ∀ copy request t, .recalled copy request t ∈ w'.deeds ↔
      .recalled copy request t ∈ w.deeds) : NoCreate w w' :=
  ⟨hgateway ▸ InMemory.SameContent.narrows ⟨rfl, rfl, rfl⟩, hcreated, hrecalled⟩

lemma noCreate_act (w : World) (a : Act) : NoCreate w (w.act a) := by
  cases a with
  | edit e =>
    refine .of_gateway rfl (fun copy request t => ?_) fun copy request t => ?_
    · cases e <;> simp [World.act, deedsOfEdit]
    · cases e <;> simp [World.act, deedsOfEdit]
  | failNext operation error =>
    have hsame := w.gateway.failNext_sameContent operation error
    exact ⟨hsame.narrows, fun _ _ _ => .rfl, fun _ _ _ => .rfl⟩
  | setState targetId state =>
    have hnarrows := w.gateway.setState_narrows targetId state
    exact ⟨hnarrows, fun _ _ _ => .rfl, fun _ _ _ => .rfl⟩

/-- Only a create returns a target. -/
lemma afterCall_cases (w : World) (copy : Option Resource) (time : Nat) (call : Call) :
    NoCreate w (w.afterCall copy time call) ∨
      ∃ request, call = .create request ∧ Answered w (w.afterCall copy time call) copy request := by
  have hserved := w.gateway.serve_served time call
  unfold World.afterCall
  generalize (w.gateway.serve time call).1 = outcome at hserved ⊢
  generalize (w.gateway.serve time call).2 = g at hserved ⊢
  cases hserved with
  | failed e h =>
    refine .inl ⟨h.narrows, fun copy' request t => ?_, fun copy' request t => ?_⟩ <;>
    cases call with
    | delete gatewayId targetId =>
      by_cases hdenied : e.isNotFound ∧ (w.gateway.heldBy? gatewayId targetId).isSome
      · simp [deedsOfCall, hdenied]
      · simp [deedsOfCall, hdenied]
    | _ => simp [deedsOfCall]
  | recalled hremembered hreply h =>
    obtain ⟨token, htoken, hknown, hheld⟩ := InMemory.remembered?_eq_some hremembered
    exact .inr ⟨_, rfl, .inl ⟨_, ⟨token, _, htoken, hknown, hheld⟩, h,
      by simp [deedsOfCall, hremembered, hreply]⟩⟩
  | created hnone hreply targets tokens lastId =>
    exact .inr ⟨_, rfl, .inr ⟨hnone, targets, tokens, lastId,
      by simp [deedsOfCall, hnone, hreply]⟩⟩
  | polled h => exact .inl ⟨h.narrows, by simp [deedsOfCall], by simp [deedsOfCall]⟩
  | updated hheld targets tokens lastId =>
    exact .inl ⟨InMemory.narrows_of_insert _ hheld targets tokens lastId,
      by simp [deedsOfCall], by simp [deedsOfCall]⟩
  | deleted targets tokens lastId =>
    exact .inl ⟨InMemory.narrows_of_erase targets tokens lastId,
      by simp [deedsOfCall], by simp [deedsOfCall]⟩

/-- A stride is a create for a copy that has no target recorded, or no create returns a target. -/
lemma stride_cases (hs : Stride c place w ph copy w' ph' copy') :
    NoCreate w w' ∨ ∃ r v request, ph = .guarded r v ∧ r.recordedTarget? = none ∧
      Phase.Requests r v request ∧ Answered w w' copy request := by
  have hcall : ∀ {call : Call} {next : call.Reply → Phase} (time : Nat), ph.Calls call next →
      NoCreate w (w.afterCall copy time call) ∨ ∃ r v request, ph = .guarded r v ∧
        r.recordedTarget? = none ∧ Phase.Requests r v request ∧
        Answered w (w.afterCall copy time call) copy request := by
    intro call next time hcalls
    obtain h | ⟨request, rfl, h⟩ := afterCall_cases w copy time call
    · exact .inl h
    · cases hcalls with
      | create hrec hreq => exact .inr ⟨_, _, _, rfl, hrec, hreq, h⟩
  cases hs with
  | tried time hcalls => exact hcall time hcalls
  | succeeded time hcalls _ => exact hcall time hcalls
  | detached _ => exact .inl (.of_gateway rfl (by simp) (by simp))
  | _ => exact .inl (.of_gateway rfl (fun _ _ _ => .rfl) fun _ _ _ => .rfl)

/-! ## The account -/

/-- What the deeds say about the targets and tokens of the gateway. -/
structure Accounted (w : World) : Prop where
  given : ∀ {copy request t}, .created copy request t ∈ w.deeds → w.gateway.Given t
  unique : ∀ {copy request copy' request' t}, .created copy request t ∈ w.deeds →
    .created copy' request' t ∈ w.deeds → copy = copy' ∧ request = request'
  built : ∀ {copy request t}, .created copy request t ∈ w.deeds →
    ∃ r v, copy = some r ∧ Phase.Requests r v request
  recalled : ∀ {copy request t}, .recalled copy request t ∈ w.deeds →
    (∃ r v, copy = some r ∧ Phase.Requests r v request) ∧ ∃ copy' request',
      .created copy' request' t ∈ w.deeds ∧ request'.clientToken = request.clientToken
  source : ∀ {t held}, w.gateway.targets.get? t = some held →
    ∃ copy request, .created copy request t ∈ w.deeds ∧ held.gatewayId = request.gatewayId
  remembered : ∀ {copy request t held token}, .created copy request t ∈ w.deeds →
    w.gateway.targets.get? t = some held → request.clientToken = some token →
    w.gateway.tokens.get? token = some t
  known : ∀ {token t}, w.gateway.tokens.get? token = some t →
    ∃ copy request, .created copy request t ∈ w.deeds ∧ request.clientToken = some token

namespace Accounted

lemma empty : Accounted {} where
  given h := nomatch h
  unique h := nomatch h
  built h := nomatch h
  recalled h := nomatch h
  source h := nomatch h
  remembered h := nomatch h
  known h := nomatch h

/-- The next identifier has no deeds yet. -/
lemma fresh {request : CreateRequest} {t : String} (h : Accounted w)
    (hd : .created copy request t ∈ w.deeds) : t ≠ w.gateway.nextId := by
  rintro rfl
  exact w.gateway.not_given_nextId (h.given hd)

lemma noCreate (h : Accounted w) (hsame : NoCreate w w') : Accounted w' where
  given hd := (h.given ((hsame.created ..).mp hd)).mono (Nat.le_of_eq hsame.gateway.lastId.symm)
  unique hd hd' := h.unique ((hsame.created ..).mp hd) ((hsame.created ..).mp hd')
  built hd := h.built ((hsame.created ..).mp hd)
  recalled hd := by
    obtain ⟨hbuilt, copy', request', hd', htoken⟩ := h.recalled ((hsame.recalled ..).mp hd)
    exact ⟨hbuilt, copy', request', (hsame.created ..).mpr hd', htoken⟩
  source ht := by
    obtain ⟨held, hheld, hgateway⟩ := hsame.gateway.targets ht
    obtain ⟨copy, request, hd, hrequest⟩ := h.source hheld
    exact ⟨copy, request, (hsame.created ..).mpr hd, hgateway.trans hrequest⟩
  remembered hd ht htoken := by
    obtain ⟨held, hheld, -⟩ := hsame.gateway.targets ht
    rw [hsame.gateway.tokens]
    exact h.remembered ((hsame.created ..).mp hd) hheld htoken
  known ht := by
    rw [hsame.gateway.tokens] at ht
    obtain ⟨copy, request, hd, htoken⟩ := h.known ht
    exact ⟨copy, request, (hsame.created ..).mpr hd, htoken⟩

variable {r : Resource} {v : Registration.Validated} {request : CreateRequest}

/-- A repeated create goes back to the create that made its target. -/
lemma recalls {t : String} (h : Accounted w) (hreq : Phase.Requests r v request)
    (hnew : Recalls w w' (some r) request t) : Accounted w' := by
  obtain ⟨⟨token, _, htoken, hknown, -⟩, hgateway, hdeeds⟩ := hnew
  have hcreated : ∀ {copy request t}, .created copy request t ∈ w'.deeds ↔
      .created copy request t ∈ w.deeds := by simp [hdeeds]
  constructor
  case given => exact fun hd => (h.given (hcreated.mp hd)).mono (Nat.le_of_eq hgateway.lastId.symm)
  case unique => exact fun hd hd' => h.unique (hcreated.mp hd) (hcreated.mp hd')
  case built => exact fun hd => h.built (hcreated.mp hd)
  case recalled =>
    intro copy' request' t' hd
    have hcases : (copy' = some r ∧ request' = request ∧ t' = t) ∨
        .recalled copy' request' t' ∈ w.deeds := by simpa [hdeeds] using hd
    obtain ⟨rfl, rfl, rfl⟩ | hd := hcases
    · obtain ⟨copy, request, hd, hsource⟩ := h.known hknown
      exact ⟨⟨r, v, rfl, hreq⟩, copy, request, hcreated.mpr hd, hsource.trans htoken.symm⟩
    · obtain ⟨hbuilt, copy, request, hd, hsource⟩ := h.recalled hd
      exact ⟨hbuilt, copy, request, hcreated.mpr hd, hsource⟩
  case source =>
    intro t' held ht
    rw [hgateway.targets] at ht
    obtain ⟨copy, request, hd, hsource⟩ := h.source ht
    exact ⟨copy, request, hcreated.mpr hd, hsource⟩
  case remembered =>
    intro copy' request' t' held token' hd ht htoken'
    rw [hgateway.targets] at ht
    rw [hgateway.tokens]
    exact h.remembered (hcreated.mp hd) ht htoken'
  case known =>
    intro token' t' ht
    rw [hgateway.tokens] at ht
    obtain ⟨copy, request, hd, hsource⟩ := h.known ht
    exact ⟨copy, request, hcreated.mpr hd, hsource⟩

/-- A new target is accounted for by its create. -/
lemma creates (h : Accounted w) (hreq : Phase.Requests r v request)
    (hnew : Creates w w' (some r) request) : Accounted w' := by
  obtain ⟨hnone, targets, tokens, lastId, deeds⟩ := hnew
  have hfresh : ∀ {copy request' t}, .created copy request' t ∈ w.deeds → t ≠ w.gateway.nextId :=
    fun hd => h.fresh hd
  have hcases : ∀ {copy request' t}, .created copy request' t ∈ w'.deeds →
      (copy = some r ∧ request' = request ∧ t = w.gateway.nextId) ∨
        .created copy request' t ∈ w.deeds := by
    intro copy request' t hd
    simpa [deeds] using hd
  have hold : ∀ {d}, d ∈ w.deeds → d ∈ w'.deeds := by
    intro d hd
    rw [deeds]
    exact List.mem_cons_of_mem _ hd
  have hself : .created (some r) request w.gateway.nextId ∈ w'.deeds := by simp [deeds]
  constructor
  case given =>
    intro copy request' t hd
    obtain ⟨rfl, rfl, rfl⟩ | hd := hcases hd
    · exact InMemory.given_nextId lastId
    · exact (h.given hd).mono (by omega)
  case unique =>
    intro copy request₁ copy' request₂ t hd hd'
    obtain ⟨rfl, rfl, rfl⟩ | hd := hcases hd
    · obtain ⟨rfl, rfl, -⟩ | hd' := hcases hd'
      · exact ⟨rfl, rfl⟩
      · exact absurd rfl (hfresh hd')
    · obtain ⟨-, -, rfl⟩ | hd' := hcases hd'
      · exact absurd rfl (hfresh hd)
      · exact h.unique hd hd'
  case built =>
    intro copy request' t hd
    obtain ⟨rfl, rfl, -⟩ | hd := hcases hd
    · exact ⟨r, v, rfl, hreq⟩
    · exact h.built hd
  case recalled =>
    intro copy request' t hd
    obtain ⟨hbuilt, copy', request'', hd, hsource⟩ := h.recalled (by simpa [deeds] using hd)
    exact ⟨hbuilt, copy', request'', hold hd, hsource⟩
  case source =>
    intro t held ht
    rw [targets, Table.get?_insert] at ht
    by_cases hnext : t = w.gateway.nextId
    · obtain rfl : ⟨request.gatewayId, ⟨creating, []⟩⟩ = held := by simpa [hnext] using ht
      exact ⟨some r, request, hnext ▸ hself, rfl⟩
    · rw [if_neg hnext] at ht
      obtain ⟨copy, request', hd, hgateway⟩ := h.source ht
      exact ⟨copy, request', hold hd, hgateway⟩
  case remembered =>
    intro copy request' t held token hd ht htoken
    obtain ⟨rfl, rfl, rfl⟩ | hd := hcases hd
    · rw [tokens, if_pos htoken]
    · rw [targets, Table.get?_insert, if_neg (hfresh hd)] at ht
      have hmem := h.remembered hd ht htoken
      -- a token that stands for a target that is held makes no new one
      have hother : request.clientToken ≠ some token := fun heq => by
        rw [heq, InMemory.remembered?_of_held hmem ht] at hnone
        cases hnone
      rw [tokens, if_neg hother, hmem]
  case known =>
    intro token t ht
    rw [tokens] at ht
    by_cases hsame : request.clientToken = some token
    · obtain rfl : w.gateway.nextId = t := by simpa [hsame] using ht
      exact ⟨some r, request, hself, hsame⟩
    · rw [if_neg hsame] at ht
      obtain ⟨copy, request', hd, hknown⟩ := h.known ht
      exact ⟨copy, request', hold hd, hknown⟩

end Accounted

/-- The deeds account for the targets, and the copy of a pass is the one that it works on. -/
def accounts : Assertion where
  Holds := Accounted
  At _ ph copy _ := ∀ r v, ph = .guarded r v → copy = some r

lemma accounted_stride (h : Accounted w) (hcopy : ∀ r v, ph = .guarded r v → copy = some r)
    (hs : Stride c place w ph copy w' ph' copy') : Accounted w' := by
  obtain hsame | ⟨r, v, request, rfl, -, hreq, hnew⟩ := stride_cases hs
  · exact h.noCreate hsame
  · obtain rfl := hcopy r v rfl
    obtain ⟨t, hnew⟩ | hnew := hnew
    · exact h.recalls hreq hnew
    · exact h.creates hreq hnew

/-- A create that made a target was made for the copy of a pass. -/
lemma created_stride {r : Resource} {request : CreateRequest} {t : String}
    (hcopy : ∀ r v, ph = .guarded r v → copy = some r)
    (hs : Stride c place w ph copy w' ph' copy')
    (hd : .created (some r) request t ∈ w'.deeds) :
    .created (some r) request t ∈ w.deeds ∨ ∃ v, ph = .guarded r v ∧ Phase.Requests r v request ∧
      t = w.gateway.nextId := by
  obtain hsame | ⟨r', v, request', rfl, -, hreq, ⟨t', hnew⟩ | hnew⟩ := stride_cases hs
  · exact .inl ((hsame.created ..).mp hd)
  · exact .inl (by simpa [hnew.deeds] using hd)
  · rw [hnew.deeds] at hd
    obtain heq | hd := List.mem_cons.mp hd
    · obtain rfl := hcopy r' v rfl
      cases heq
      exact .inr ⟨v, rfl, hreq, rfl⟩
    · exact .inl hd

lemma Given.stride {t : String} (h : w.gateway.Given t)
    (hs : Stride c place w ph copy w' ph' copy') : w'.gateway.Given t := by
  refine h.mono ?_
  obtain hsame | ⟨_, _, _, -, -, -, ⟨_, hnew⟩ | hnew⟩ := stride_cases hs
  · exact Nat.le_of_eq hsame.gateway.lastId.symm
  · exact Nat.le_of_eq hnew.gateway.lastId.symm
  · rw [hnew.lastId]
    omega

lemma copy_stride (hcopy : ∀ r v, ph = .guarded r v → copy = some r)
    (hs : Stride c place w ph copy w' ph' copy') (r : Resource) (v : Registration.Validated)
    (hph : ph' = .guarded r v) : copy' = some r := by
  obtain ⟨hsame, hkept⟩ | ⟨-, hread⟩ | ⟨_, _, -, hwritten, -⟩ := stride_guarded hs hph
  · rw [hkept, hcopy r v hsame]
  · exact hread
  · exact hwritten

/-- The targets are accounted for, whatever users do. -/
lemma accounts_inductive : Inductive c permits .none accounts where
  empty := .empty
  opening _ _ _ hph := nomatch hph
  act _ h _ := h.noCreate (noCreate_act _ _)
  actAt _ _ _ hAt _ := hAt
  stride _ _ h hAt hs := ⟨accounted_stride h hAt hs, copy_stride hAt hs⟩
  strideAt _ _ _ _ _ hAt₂ _ _ := hAt₂

/-! ## One target for each generation -/

/-- The copies of resources for which a target was created. -/
def World.makers (w : World) (t : String) : List Resource :=
  w.deeds.filterMap fun
    | .created (some r) _ t' => if t' = t then some r else none
    | _ => none

lemma mem_makers {r : Resource} {t : String} :
    r ∈ w.makers t ↔ ∃ request, .created (some r) request t ∈ w.deeds := by
  unfold World.makers
  rw [List.mem_filterMap]
  constructor
  · rintro ⟨d, hd, hr⟩
    split at hr
    · rename_i r' request t'
      by_cases ht : t' = t
      · obtain rfl : r' = r := by simpa [ht] using hr
        exact ⟨request, ht ▸ hd⟩
      · simp [ht] at hr
    · cases hr
  · rintro ⟨request, hd⟩
    exact ⟨_, hd, by simp⟩

/-- The gateway holds a target that was created for a copy of a resource. -/
def World.HoldsFor (w : World) (r : Resource) (t : String) : Prop :=
  (w.gateway.targets.get? t).isSome ∧ r ∈ w.makers t

/-- Two copies that stand for one incarnation of a resource, which has an identity. -/
def SameIdentity (r r' : Resource) : Prop :=
  ∃ uid, uid ≠ "" ∧ r.metadata.uid = some uid ∧ r'.metadata.uid = some uid

/-- The token under which a target is remembered as long as it is held. -/
lemma Accounted.token_of_held {r : Resource} {t : String} {token : CreateToken} (h : Accounted w)
    (hheld : w.HoldsFor r t) (htoken : createToken r = some token) :
    w.gateway.tokens.get? token = some t := by
  obtain ⟨hsome, hmaker⟩ := hheld
  obtain ⟨request, hd⟩ := mem_makers.mp hmaker
  obtain ⟨held, hheld⟩ := Option.isSome_iff_exists.mp hsome
  obtain ⟨_, _, hcopy, hreq⟩ := h.built hd
  cases hcopy
  obtain ⟨known, hknown, hchosen⟩ := hreq.token
  rw [hchosen token htoken] at hknown
  exact h.remembered hd hheld hknown

/-- At any time the gateway holds at most one target that was created for any one incarnation of a
resource at any one generation, whatever users, other passes and failures do. -/
theorem held_target_unique {f : State} {r r' : Resource} {t t' : String}
    (hf : Reachable c permits f) (h : f.world.HoldsFor r t) (h' : f.world.HoldsFor r' t')
    (hsame : SameIdentity r r')
    (hgen : r.metadata.generation.getD 0 = r'.metadata.generation.getD 0) : t = t' := by
  obtain ⟨uid, hne, huid, huid'⟩ := hsame
  have haccounts := (hf.satisfies accounts_inductive).1
  have htoken := createToken_of_uid huid hne
  have htoken' := createToken_of_uid huid' hne
  rw [← hgen] at htoken'
  have ht := haccounts.token_of_held h htoken
  have ht' := haccounts.token_of_held h' htoken'
  exact Option.some.inj (ht.symm.trans ht')

/-- Users insert resources without a status and with an identity, and do else what they like. -/
def InsertsNew : World → Act → Prop
  | _, .edit (.insert r) => r.status = none ∧ ∃ uid, uid ≠ "" ∧ r.metadata.uid = some uid
  | _, _ => True

/-- A target is created, but other writers keep the controller from recording it, and another pass
is made. -/
def repeatedCreate : List Event :=
  [.act (.edit (.insert exampleResource)), .act (.edit (.injectStatusConflicts 3)),
    .pass ("tools", "files"), .pass ("tools", "files")]

/-- The second pass creates no second target. -/
theorem held_target_unique_after_repeated_create :
    ∃ f r r' t t', Reachable exampleConfig InsertsNew f ∧ f.world.HoldsFor r t ∧
      f.world.HoldsFor r' t' ∧ SameIdentity r r' ∧
      r.metadata.generation.getD 0 = r'.metadata.generation.getD 0 ∧ t = t' := by
  obtain ⟨w, hreachable, hheld, r, hr, huid⟩ : ∃ w : World,
      Reachable exampleConfig InsertsNew { world := w } ∧
      (w.gateway.targets.get? "target-1").isSome ∧
      ∃ r ∈ w.makers "target-1", r.metadata.uid = some "u1" :=
    ⟨_, Reachable.start.after repeatedCreate ⟨⟨rfl, "u1", by decide, rfl⟩, trivial, trivial⟩,
      by decide +kernel⟩
  have hsame : SameIdentity r r := ⟨"u1", by decide, huid, huid⟩
  exact ⟨_, r, r, _, _, hreachable, ⟨hheld, hr⟩, ⟨hheld, hr⟩, hsame, rfl,
    held_target_unique hreachable ⟨hheld, hr⟩ ⟨hheld, hr⟩ hsame rfl⟩

/-- A target is created, but other writers keep the controller from recording it; the specification
is edited, and another pass is made. -/
def editedBeforeRecorded : List Event :=
  [.act (.edit (.insert exampleResource)), .act (.edit (.injectStatusConflicts 3)),
    .pass ("tools", "files"),
    .act (.edit (.updateSpec "tools" "files" fun spec =>
      { spec with description := some "edited" })),
    .pass ("tools", "files")]

/-- There can be two targets for one incarnation of a resource. -/
theorem not_held_target_unique_of_identity :
    ¬ ∀ {c f r r' t t'}, Reachable c InsertsNew f → f.world.HoldsFor r t →
      f.world.HoldsFor r' t' → SameIdentity r r' → t = t' := by
  intro h
  obtain ⟨w, hreachable, hheld, hheld', r, hr, r', hr', huid, huid'⟩ : ∃ w : World,
      Reachable exampleConfig InsertsNew { world := w } ∧
      (w.gateway.targets.get? "target-1").isSome ∧ (w.gateway.targets.get? "target-2").isSome ∧
      ∃ r ∈ w.makers "target-1", ∃ r' ∈ w.makers "target-2",
        r.metadata.uid = some "u1" ∧ r'.metadata.uid = some "u1" :=
    ⟨_, Reachable.start.after editedBeforeRecorded
      ⟨⟨rfl, "u1", by decide, rfl⟩, trivial, trivial, trivial⟩, by decide +kernel⟩
  have hsame : SameIdentity r r' := ⟨"u1", by decide, huid, huid'⟩
  exact absurd (h hreachable ⟨hheld, hr⟩ ⟨hheld', hr'⟩ hsame) (by decide)

end TargetRegistrar.Fleet
