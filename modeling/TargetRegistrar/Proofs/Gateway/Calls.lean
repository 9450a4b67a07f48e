import Mathlib.Tactic.Common
import Std.Data.String.ToNat
import TargetRegistrar.Gateway.InMemory

/-!
# What a call does to a gateway in memory

`Served` lists the ways in which a call can end, each with the change that it makes to the targets
and to the tokens.  An identifier is given once: `Given` says that it has been given, and one that
is still to come is not among them.  No target has such an identifier unless somebody has placed it
there by hand (`Unclaimed`).
-/

namespace TargetRegistrar.Gateway

lemma targetName_injective {m n : Nat} (h : targetName m = targetName n) : m = n := by
  have hlist := congrArg String.toList h
  simp only [targetName, String.toList_append] at hlist
  exact Nat.repr_injective (String.toList_inj.mp (List.append_cancel_left hlist))

namespace InMemory

/-- The identifier has been given to a target. -/
def Given (g : InMemory) (targetId : String) : Prop :=
  ∃ n ≤ g.lastId, targetId = targetName n

/-- The identifier that the next new target gets. -/
def nextId (g : InMemory) : String :=
  targetName (g.lastId + 1)

/-- One gateway has the targets and tokens of another. -/
structure SameContent (g g' : InMemory) : Prop where
  targets : g'.targets = g.targets
  tokens : g'.tokens = g.tokens
  lastId : g'.lastId = g.lastId

/-- How a call ends, and what it changes. -/
inductive Served (g : InMemory) : (call : Call) → call.Outcome → InMemory → Prop where
  | failed {call : Call} {g' : InMemory} (e : Error) (h : g.SameContent g') :
      Served g call (.error e) g'
  | recalled {request : CreateRequest} {targetId : String} {held : HeldTarget} {g' : InMemory}
      {reply : CreatedTarget} (hheld : g.remembered? request.clientToken = some (targetId, held))
      (hreply : reply.targetId = targetId) (h : g.SameContent g') :
      Served g (.create request) (.ok reply) g'
  | created {request : CreateRequest} {g' : InMemory} {reply : CreatedTarget}
      (hnone : g.remembered? request.clientToken = none) (hreply : reply.targetId = g.nextId)
      (targets : g'.targets = g.targets.insert g.nextId ⟨request.gatewayId, ⟨creating, []⟩⟩)
      (tokens : ∀ token, g'.tokens.get? token =
        if request.clientToken = some token then some g.nextId else g.tokens.get? token)
      (lastId : g'.lastId = g.lastId + 1) : Served g (.create request) (.ok reply) g'
  | polled {gatewayId targetId : String} {state : TargetState} {g' : InMemory}
      (h : g.SameContent g') : Served g (.get gatewayId targetId) (.ok state) g'
  | updated {request : UpdateRequest} {held : HeldTarget} {state : TargetState} {g' : InMemory}
      (hheld : g.targets.get? request.targetId = some held)
      (targets : g'.targets = g.targets.insert request.targetId { held with state })
      (tokens : g'.tokens = g.tokens) (lastId : g'.lastId = g.lastId) :
      Served g (.update request) (.ok state) g'
  | deleted {gatewayId targetId : String} {g' : InMemory}
      (targets : g'.targets = g.targets.erase targetId) (tokens : g'.tokens = g.tokens)
      (lastId : g'.lastId = g.lastId) : Served g (.delete gatewayId targetId) (.ok ()) g'

lemma heldBy?_eq_some {g : InMemory} {gatewayId targetId : String} {held : HeldTarget}
    (h : g.heldBy? gatewayId targetId = some held) :
    g.targets.get? targetId = some held ∧ held.gatewayId = gatewayId := by
  simpa [heldBy?, Option.filter_eq_some_iff] using h

lemma remembered?_eq_some {g : InMemory} {token : Option CreateToken} {targetId : String}
    {held : HeldTarget} (h : g.remembered? token = some (targetId, held)) :
    ∃ known, token = some known ∧ g.tokens.get? known = some targetId ∧
      g.targets.get? targetId = some held := by
  simp only [remembered?, bind, Option.bind_eq_some_iff, pure, Option.some.injEq,
    Prod.mk.injEq] at h
  obtain ⟨known, hknown, _, ht, _, hheld, rfl, rfl⟩ := h
  exact ⟨known, hknown, ht, hheld⟩

lemma remembered?_of_held {g : InMemory} {token : CreateToken} {targetId : String}
    {held : HeldTarget} (htoken : g.tokens.get? token = some targetId)
    (hheld : g.targets.get? targetId = some held) :
    g.remembered? (some token) = some (targetId, held) := by
  simp [remembered?, htoken, hheld]

lemma served_create (g : InMemory) (request : CreateRequest) :
    g.Served (.create request) (.ok (g.create request).1) (g.create request).2 := by
  unfold create
  split
  · rename_i targetId held hheld
    exact .recalled hheld rfl ⟨rfl, rfl, rfl⟩
  · rename_i hnone
    refine .created hnone rfl ?_ (fun token => ?_) ?_
    · split <;> rfl
    · cases htoken : request.clientToken with
      | none => simp [place]
      | some known => simp [place, nextId, eq_comm]
    · split <;> rfl

lemma served_perform (g : InMemory) (call : Call) :
    g.Served call (g.perform call).1 (g.perform call).2 := by
  cases call with
  | create request => exact g.served_create request
  | get gatewayId targetId =>
    cases hheld : g.heldBy? gatewayId targetId with
    | some held =>
      simp only [perform, hheld]
      exact .polled ⟨rfl, rfl, rfl⟩
    | none =>
      simp only [perform, hheld]
      exact .failed _ ⟨rfl, rfl, rfl⟩
  | update request =>
    cases hheld : g.heldBy? request.gatewayId request.targetId with
    | some held =>
      have hstored := (heldBy?_eq_some hheld).1
      simp only [perform, hheld, setState, hstored]
      exact .updated hstored rfl rfl rfl
    | none =>
      simp only [perform, hheld]
      exact .failed _ ⟨rfl, rfl, rfl⟩
  | delete gatewayId targetId =>
    cases hheld : g.heldBy? gatewayId targetId with
    | some held =>
      simp only [perform, hheld]
      exact .deleted rfl rfl rfl
    | none =>
      simp only [perform, hheld]
      exact .failed _ ⟨rfl, rfl, rfl⟩

lemma Served.of_sameContent {g g₀ g' : InMemory} {call : Call} {outcome : call.Outcome}
    (h : g.SameContent g₀) (hserved : g₀.Served call outcome g') : g.Served call outcome g' := by
  obtain ⟨htargets, htokens, hlast⟩ := h
  obtain ⟨targets, tokens, _, _, lastId⟩ := g
  obtain rfl := htargets
  obtain rfl := htokens
  obtain rfl := hlast
  cases hserved with
  | failed e h => exact .failed e ⟨h.1, h.2, h.3⟩
  | recalled hheld hreply h => exact .recalled hheld hreply ⟨h.1, h.2, h.3⟩
  | created hnone hreply htargets htokens hlast =>
    exact .created hnone hreply htargets htokens hlast
  | polled h => exact .polled ⟨h.1, h.2, h.3⟩
  | updated hheld htargets htokens hlast => exact .updated hheld htargets htokens hlast
  | deleted htargets htokens hlast => exact .deleted htargets htokens hlast

lemma serve_served (g : InMemory) (time : Nat) (call : Call) :
    g.Served call (g.serve time call).1 (g.serve time call).2 := by
  unfold serve
  dsimp only
  split
  · exact .failed _ ⟨rfl, rfl, rfl⟩
  · have hsame : g.SameContent { g with received := (call, time) :: g.received } := ⟨rfl, rfl, rfl⟩
    exact (served_perform _ call).of_sameContent hsame

/-- A call that fails changes neither targets nor tokens. -/
lemma sameContent_of_serve_error {g : InMemory} {time : Nat} {call : Call} {e : Error}
    (h : (g.serve time call).1 = .error e) : g.SameContent (g.serve time call).2 := by
  have hserved := g.serve_served time call
  rw [h] at hserved
  cases hserved with
  | failed _ hsame => exact hsame

lemma SameContent.remembered? {g g' : InMemory} (h : g.SameContent g')
    (token : Option CreateToken) : g'.remembered? token = g.remembered? token := by
  simp only [InMemory.remembered?, h.targets, h.tokens]

lemma SameContent.nextId {g g' : InMemory} (h : g.SameContent g') : g'.nextId = g.nextId := by
  simp only [InMemory.nextId, h.lastId]

/-! ## Identifiers and targets -/

/-- One gateway has no targets beyond those of another, on the same gateways, and the same
tokens. -/
structure Narrows (g g' : InMemory) : Prop where
  targets : ∀ {targetId held'}, g'.targets.get? targetId = some held' →
    ∃ held, g.targets.get? targetId = some held ∧ held'.gatewayId = held.gatewayId
  tokens : g'.tokens = g.tokens
  lastId : g'.lastId = g.lastId

lemma SameContent.narrows {g g' : InMemory} (h : g.SameContent g') : g.Narrows g' :=
  ⟨fun {_ held'} hheld => ⟨held', h.targets ▸ hheld, rfl⟩, h.tokens, h.lastId⟩

/-- Another state of a target leaves it on its gateway. -/
lemma narrows_of_insert {g g' : InMemory} {targetId : String} {held : HeldTarget}
    (state : TargetState) (hheld : g.targets.get? targetId = some held)
    (targets : g'.targets = g.targets.insert targetId { held with state })
    (tokens : g'.tokens = g.tokens) (lastId : g'.lastId = g.lastId) : g.Narrows g' := by
  refine ⟨fun {t held'} h => ?_, tokens, lastId⟩
  rw [targets, Table.get?_insert] at h
  by_cases ht : t = targetId
  · obtain rfl : { held with state } = held' := by simpa [ht] using h
    exact ⟨held, ht ▸ hheld, rfl⟩
  · exact ⟨held', by simpa [ht] using h, rfl⟩

lemma narrows_of_erase {g g' : InMemory} {targetId : String}
    (targets : g'.targets = g.targets.erase targetId) (tokens : g'.tokens = g.tokens)
    (lastId : g'.lastId = g.lastId) : g.Narrows g' := by
  refine ⟨fun {t held'} h => ?_, tokens, lastId⟩
  rw [targets, Table.get?_erase] at h
  by_cases ht : t = targetId
  · simp [ht] at h
  · exact ⟨held', by simpa [ht] using h, rfl⟩

lemma failNext_sameContent (g : InMemory) (operation : Operation) (error : Error) :
    g.SameContent (g.failNext operation error) := ⟨rfl, rfl, rfl⟩

lemma setState_narrows (g : InMemory) (targetId : String) (state : TargetState) :
    g.Narrows (g.setState targetId state) := by
  unfold setState
  cases hheld : g.targets.get? targetId with
  | none => exact SameContent.narrows ⟨rfl, rfl, rfl⟩
  | some held => exact narrows_of_insert state hheld rfl rfl rfl

lemma Given.mono {g g' : InMemory} {targetId : String} (h : g.Given targetId)
    (hle : g.lastId ≤ g'.lastId) : g'.Given targetId := by
  obtain ⟨n, hn, rfl⟩ := h
  exact ⟨n, Nat.le_trans hn hle, rfl⟩

/-- The next identifier has not been given. -/
lemma not_given_nextId (g : InMemory) : ¬ g.Given g.nextId := by
  rintro ⟨n, hn, h⟩
  have := targetName_injective h
  omega

lemma given_nextId {g g' : InMemory} (h : g'.lastId = g.lastId + 1) : g'.Given g.nextId :=
  ⟨g.lastId + 1, Nat.le_of_eq h.symm, rfl⟩

/-- No target is held under an identifier that is still to be given. -/
def Unclaimed (g : InMemory) : Prop :=
  ∀ n, g.lastId < n → g.targets.get? (targetName n) = none

lemma Unclaimed.serve {g : InMemory} (h : g.Unclaimed) (time : Nat) (call : Call) :
    (g.serve time call).2.Unclaimed := by
  have hserved := g.serve_served time call
  generalize (g.serve time call).1 = outcome at hserved
  generalize (g.serve time call).2 = g' at hserved ⊢
  have hsame (hsame : g.SameContent g') : g'.Unclaimed := by
    intro n hn
    rw [hsame.targets]
    exact h n (hsame.lastId ▸ hn)
  intro n hn
  cases hserved with
  | failed _ h => exact hsame h n hn
  | recalled _ _ h => exact hsame h n hn
  | polled h => exact hsame h n hn
  | created _ _ htargets _ hlast =>
    have hne : targetName n ≠ g.nextId := fun h => by
      have := targetName_injective h
      omega
    rw [htargets, Table.get?_insert, if_neg hne]
    exact h n (by omega)
  | @updated request _ _ _ hheld htargets _ hlast =>
    have hnone := h n (hlast ▸ hn)
    have hne : targetName n ≠ request.targetId := fun h => by
      rw [h, hheld] at hnone
      cases hnone
    rw [htargets, Table.get?_insert, if_neg hne, hnone]
  | deleted htargets _ hlast =>
    rw [htargets, Table.get?_erase, h n (hlast ▸ hn), ite_self]

/-- The next identifier is among those that are still to be given. -/
lemma Unclaimed.get?_nextId {g : InMemory} (h : g.Unclaimed) : g.targets.get? g.nextId = none :=
  h (g.lastId + 1) (Nat.lt_succ_self g.lastId)

/-! ## Names of remembered targets -/

/-- Tokens stand for identifiers that the gateway has given.  That is so in an empty gateway, and
every call keeps it (`Named.serve`); whatever else is done to a gateway leaves its tokens alone. -/
def Named (g : InMemory) : Prop :=
  ∀ token targetId, g.tokens.get? token = some targetId → ∃ n, targetId = targetName n

lemma Named.empty : Named {} := fun _ _ h => nomatch h

lemma Named.congr {g g' : InMemory} (h : g.Named) (htokens : g'.tokens = g.tokens) : g'.Named := by
  intro token targetId ht
  rw [htokens] at ht
  exact h token targetId ht

lemma Named.serve {g : InMemory} (h : g.Named) (time : Nat) (call : Call) :
    (g.serve time call).2.Named := by
  have hserved := g.serve_served time call
  generalize (g.serve time call).1 = outcome at hserved
  generalize (g.serve time call).2 = g' at hserved ⊢
  cases hserved with
  | failed _ hsame => exact h.congr hsame.tokens
  | recalled _ _ hsame => exact h.congr hsame.tokens
  | polled hsame => exact h.congr hsame.tokens
  | updated _ _ htokens _ => exact h.congr htokens
  | deleted _ htokens _ => exact h.congr htokens
  | @created request _ _ _ _ _ htokens _ =>
    intro token targetId ht
    rw [htokens] at ht
    by_cases htoken : request.clientToken = some token
    · rw [if_pos htoken] at ht
      exact ⟨g.lastId + 1, (Option.some.inj ht).symm⟩
    · rw [if_neg htoken] at ht
      exact h token targetId ht

lemma targetName_ne_empty (n : Nat) : targetName n ≠ "" := by
  intro h
  have hlength := congrArg (fun text => text.toList.length) h
  simp [targetName] at hlength

/-! ## What a call leaves alone -/

variable {g : InMemory}

lemma setState_leaves (targetId : String) (state : TargetState) :
    (g.setState targetId state).scripted = g.scripted ∧
      (g.setState targetId state).received = g.received := by
  unfold setState
  split <;> exact ⟨rfl, rfl⟩

/-- To perform a call changes neither what is scripted nor what has been received. -/
lemma perform_leaves (call : Call) :
    (g.perform call).2.scripted = g.scripted ∧ (g.perform call).2.received = g.received := by
  cases call with
  | create request =>
    show (g.create request).2.scripted = g.scripted ∧ (g.create request).2.received = g.received
    unfold create
    split
    · exact ⟨rfl, rfl⟩
    · dsimp only
      split <;> exact ⟨rfl, rfl⟩
  | get gatewayId targetId =>
    simp only [perform]
    split <;> exact ⟨rfl, rfl⟩
  | update request =>
    simp only [perform]
    split
    · exact setState_leaves ..
    · exact ⟨rfl, rfl⟩
  | delete gatewayId targetId =>
    simp only [perform]
    split <;> exact ⟨rfl, rfl⟩

/-- A call is received, however it ends. -/
lemma serve_received (g : InMemory) (time : Nat) (call : Call) :
    (g.serve time call).2.received = (call, time) :: g.received := by
  unfold serve
  dsimp only
  split
  · rfl
  · exact (perform_leaves call).2

/-! ## Without scripted errors -/

lemma serve_unscripted (h : g.scripted = []) (time : Nat) (call : Call) :
    g.serve time call =
      InMemory.perform { g with received := (call, time) :: g.received } call := by
  unfold serve
  rw [h]
  rfl

lemma serve_scripted (h : g.scripted = []) (time : Nat) (call : Call) :
    (g.serve time call).2.scripted = [] := by
  rw [serve_unscripted h, (perform_leaves call).1]
  exact h

lemma heldBy?_of_get? {gatewayId targetId : String} {held : HeldTarget}
    (h : g.targets.get? targetId = some held) (hgateway : held.gatewayId = gatewayId) :
    g.heldBy? gatewayId targetId = some held := by
  simp [heldBy?, h, hgateway]

/-- A create for which no error is scripted succeeds. -/
lemma exists_serve_create (h : g.scripted = []) (time : Nat) (request : CreateRequest) :
    ∃ reply, (g.serve time (.create request)).1 = .ok reply := by
  rw [serve_unscripted h]
  exact ⟨_, rfl⟩

/-- A create returns a target with a name that the requested gateway holds from then on, if it holds
what the token stands for. -/
lemma serve_create (h : g.scripted = []) (hnamed : g.Named) (time : Nat) (request : CreateRequest)
    (hremembered : ∀ targetId held, g.remembered? request.clientToken = some (targetId, held) →
      held.gatewayId = request.gatewayId) :
    ∃ reply held, (g.serve time (.create request)).1 = .ok reply ∧ reply.targetId ≠ "" ∧
      (g.serve time (.create request)).2.heldBy? request.gatewayId reply.targetId = some held := by
  obtain ⟨reply, hreply⟩ := exists_serve_create h time request
  have hserved := g.serve_served time (.create request)
  rw [hreply] at hserved
  generalize (g.serve time (.create request)).2 = g' at hserved ⊢
  cases hserved with
  | @recalled _ _ held _ _ hheld hid hsame =>
    obtain ⟨token, -, htoken, hstored⟩ := remembered?_eq_some hheld
    obtain ⟨n, hname⟩ := hnamed token _ htoken
    have hne : reply.targetId ≠ "" := by
      rw [hid, hname]
      exact targetName_ne_empty n
    have hstored' : g'.targets.get? reply.targetId = some held := by
      rw [hsame.targets, hid]
      exact hstored
    exact ⟨reply, _, hreply, hne, heldBy?_of_get? hstored' (hremembered _ _ hheld)⟩
  | created _ hid htargets _ _ =>
    have hne : reply.targetId ≠ "" := by
      rw [hid]
      exact targetName_ne_empty _
    have hstored : g'.targets.get? reply.targetId =
        some ⟨request.gatewayId, ⟨creating, []⟩⟩ := by
      rw [htargets, hid, Table.get?_insert, if_pos rfl]
    exact ⟨reply, _, hreply, hne, heldBy?_of_get? hstored rfl⟩

/-- Another state of a target that a gateway holds. -/
lemma heldBy?_setState {gatewayId targetId : String} {held : HeldTarget}
    (h : g.heldBy? gatewayId targetId = some held) (state : TargetState) :
    (g.setState targetId state).heldBy? gatewayId targetId = some { held with state } := by
  obtain ⟨hstored, hgateway⟩ := heldBy?_eq_some h
  refine heldBy?_of_get? ?_ hgateway
  simp [setState, hstored]

lemma perform_update {request : UpdateRequest} {held : HeldTarget}
    (h : g.heldBy? request.gatewayId request.targetId = some held) :
    g.perform (.update request) =
      (.ok ⟨updating, []⟩, g.setState request.targetId ⟨updating, []⟩) := by
  simp only [perform, h]

lemma perform_get {gatewayId targetId : String} {held : HeldTarget}
    (h : g.heldBy? gatewayId targetId = some held) :
    g.perform (.get gatewayId targetId) = (.ok held.state, g) := by
  simp only [perform, h]

/-- An update of a target that its gateway holds is accepted, and the target stays there. -/
lemma serve_update (h : g.scripted = []) (time : Nat) {request : UpdateRequest} {held : HeldTarget}
    (hheld : g.heldBy? request.gatewayId request.targetId = some held) :
    (g.serve time (.update request)).1 = .ok ⟨updating, []⟩ ∧
      (g.serve time (.update request)).2.heldBy? request.gatewayId request.targetId =
        some { held with state := ⟨updating, []⟩ } := by
  have hreceived : InMemory.heldBy? { g with received := (.update request, time) :: g.received }
      request.gatewayId request.targetId = some held := hheld
  rw [serve_unscripted h, perform_update hreceived]
  exact ⟨rfl, heldBy?_setState hreceived ⟨updating, []⟩⟩

/-- A look at a target that its gateway holds finds its state. -/
lemma serve_get (h : g.scripted = []) (time : Nat) {gatewayId targetId : String}
    {held : HeldTarget} (hheld : g.heldBy? gatewayId targetId = some held) :
    (g.serve time (.get gatewayId targetId)).1 = .ok held.state ∧
      (g.serve time (.get gatewayId targetId)).2.heldBy? gatewayId targetId = some held := by
  have hreceived : InMemory.heldBy?
      { g with received := (.get gatewayId targetId, time) :: g.received } gatewayId targetId =
        some held := hheld
  rw [serve_unscripted h, perform_get hreceived]
  exact ⟨rfl, hheld⟩

end InMemory

end TargetRegistrar.Gateway
