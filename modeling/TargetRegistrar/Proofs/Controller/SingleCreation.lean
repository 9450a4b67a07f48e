import TargetRegistrar.Proofs.Controller.Scripted
import TargetRegistrar.Proofs.Gateway.Calls

/-!
# One create makes at most one target

A create is repeated under one token, which is fixed before its first call.  A call that fails
changes neither the targets nor the tokens of a gateway in memory, and a call that succeeds is the
last one.  So whatever happens to the calls, all of them together do no more than a single one
(`CreatesOnce`): the gateway gains one target or none, and none if the token stands for a target
that exists.  `SingleCreation` says so of a whole run, and that a run without obstacles succeeds.

A call that is cut short does not reach such a gateway, since cancellation is looked at before the
call is made and the call itself takes no time.
-/

namespace TargetRegistrar

open Gateway

/-- A request under a token. -/
def Gateway.CreateRequest.under (request : CreateRequest) (token : CreateToken) : CreateRequest :=
  { request with clientToken := some token }

namespace Controller

/-- A gateway in memory has received a request, perhaps again and again, and no other call. -/
def Receives (request : CreateRequest) (g g' : InMemory) : Prop :=
  ∃ calls, g'.received = calls ++ g.received ∧ ∀ c ∈ calls, c.1 = .create request

/-- What the calls of one create make of a gateway in memory, in view of how the create ends. -/
structure CreatesOnce (request : CreateRequest) (g g' : InMemory)
    (outcome : Except Gateway.Error CreatedTarget) : Prop where
  received : Receives request g g'
  /-- There is at most one more target. -/
  targets : g'.targets = g.targets ∨
    g'.targets.entries = g.targets.entries ++ [(g.nextId, ⟨request.gatewayId, ⟨creating, []⟩⟩)]
  failed : ∀ e, outcome = .error e → g'.targets = g.targets
  /-- A token that stands for an existing target makes no other one. -/
  remembered : ∀ targetId held, g.remembered? request.clientToken = some (targetId, held) →
    g'.targets = g.targets ∧ ∀ reply, outcome = .ok reply → reply.targetId = targetId
  /-- Under any other token what is returned is the new target. -/
  made : g.remembered? request.clientToken = none →
    ∀ reply, outcome = .ok reply → reply.targetId = g.nextId
  held : ∀ reply, outcome = .ok reply → ∃ held, g'.targets.get? reply.targetId = some held

/-! ## One call -/

section Serving

variable {request : CreateRequest} {g g' : InMemory} {time : Nat}
  {outcome : Except Gateway.Error CreatedTarget}

/-- A create that fails leaves the targets alone. -/
lemma CreatesOnce.of_error (hreceived : Receives request g g') (htargets : g'.targets = g.targets)
    (e : Gateway.Error) : CreatesOnce request g g' (.error e) where
  received := hreceived
  targets := .inl htargets
  failed _ _ := htargets
  remembered _ _ _ := ⟨htargets, nofun⟩
  made _ := nofun
  held := nofun

/-- A create that has not reached the gateway has failed. -/
lemma CreatesOnce.unreached (request : CreateRequest) (g : InMemory) (e : Gateway.Error) :
    CreatesOnce request g g (.error e) :=
  .of_error ⟨[], rfl, by simp⟩ rfl e

/-- A single call does what a create may do, if no target has taken the next identifier. -/
lemma createsOnce_serve (h : g.Unclaimed) (time : Nat) :
    CreatesOnce request g (g.serve time (.create request)).2
      (g.serve time (.create request)).1 := by
  have hreceived : Receives request g (g.serve time (.create request)).2 :=
    ⟨[(.create request, time)], InMemory.serve_received .., by simp⟩
  have hserved := g.serve_served time (.create request)
  generalize (g.serve time (.create request)).1 = outcome at hserved ⊢
  generalize (g.serve time (.create request)).2 = g' at hreceived hserved ⊢
  cases hserved with
  | failed e hsame => exact .of_error hreceived hsame.targets e
  | @recalled _ targetId held _ reply hheld hreply hsame =>
    obtain ⟨-, -, -, hstored⟩ := InMemory.remembered?_eq_some hheld
    have hstored' : g'.targets.get? reply.targetId = some held := by
      rw [hsame.targets, hreply, hstored]
    refine ⟨hreceived, .inl hsame.targets, nofun, ?_, ?_, ?_⟩
    · intro targetId' held' hheld'
      obtain ⟨rfl, -⟩ : targetId = targetId' ∧ held = held' := by simpa [hheld] using hheld'
      refine ⟨hsame.targets, ?_⟩
      rintro _ ⟨⟩
      exact hreply
    · intro hnone
      cases hheld.symm.trans hnone
    · rintro _ ⟨⟩
      exact ⟨held, hstored'⟩
  | created hnone hreply htargets _ _ =>
    refine ⟨hreceived, .inr ?_, nofun, ?_, ?_, ?_⟩
    · rw [htargets]
      exact Table.entries_insert_of_get?_eq_none h.get?_nextId _
    · intro targetId held hheld
      cases hheld.symm.trans hnone
    · rintro - _ ⟨⟩
      exact hreply
    · rintro _ ⟨⟩
      exact ⟨_, by rw [htargets, hreply, Table.get?_insert, if_pos rfl]⟩

/-- A call that fails leaves everything to the calls after it. -/
lemma CreatesOnce.after_failed {e : Gateway.Error}
    (hfailed : (g.serve time (.create request)).1 = .error e)
    (h : CreatesOnce request (g.serve time (.create request)).2 g' outcome) :
    CreatesOnce request g g' outcome := by
  have hsame := InMemory.sameContent_of_serve_error hfailed
  obtain ⟨calls, hcalls, hcreate⟩ := h.received
  refine ⟨⟨calls ++ [(.create request, time)], ?_, ?_⟩, ?_, ?_, ?_, ?_, h.held⟩
  · rw [hcalls, InMemory.serve_received, List.append_assoc]
    rfl
  · intro c hc
    obtain hc | hc := List.mem_append.mp hc
    · exact hcreate c hc
    · rw [List.mem_singleton.mp hc]
  · rw [← hsame.targets, ← hsame.nextId]
    exact h.targets
  · intro e' he'
    rw [h.failed e' he', hsame.targets]
  · intro targetId held hheld
    rw [← hsame.remembered?] at hheld
    obtain ⟨hunchanged, hid⟩ := h.remembered targetId held hheld
    exact ⟨hunchanged.trans hsame.targets, hid⟩
  · intro hnone
    rw [← hsame.remembered?] at hnone
    rw [← hsame.nextId]
    exact h.made hnone

/-- The gateway does not see how a failure is reported. -/
lemma CreatesOnce.conclude (h : CreatesOnce request g g' outcome) (operation : String)
    (attempts : Nat) : CreatesOnce request g g' (conclude operation attempts outcome) := by
  cases outcome with
  | ok reply => exact h
  | error e => exact .of_error h.received (h.failed e rfl) _

end Serving

/-! ## All calls of a create -/

section Repeating

variable {x : Script} {g : InMemory} {time : List Turn → Nat} {request : CreateRequest}

/-- How a create is answered: not at all after cancellation, and before it by the gateway in
memory. -/
lemma Script.Hosts.answer (h : x.Hosts g time) (cancel : Instant) (s : Session) :
    s.answer x cancel (.gateway (.create request)) =
      if cancel.any (· ≤ s.clock) then .cancelled
      else .finished
        ((g.afterTurns time s.turns).serve (time s.turns) (.create request)).1 := by
  rw [← h]
  rfl

/-- However often a create is repeated, it does no more than a single call.  The induction is on the
repetitions that are left; all calls before the next one have failed, and no target has taken an
identifier that is still to come. -/
lemma createsOnce_repeatCall (h : x.Hosts g time) (policy : RetryPolicy) (cancel : Instant)
    (s : Session) (left made : Nat) (backoff : Duration)
    (hunclaimed : (g.afterTurns time s.turns).Unclaimed) :
    let played := (repeatCall policy (.create request) left made backoff).play x cancel s
    CreatesOnce request (g.afterTurns time s.turns) (g.afterTurns time played.2.turns)
      played.1 := by
  induction left generalizing s made backoff with
  | zero =>
    rw [repeatCall_zero]
    simp only [Program.play]
    by_cases hcut : cancel.any (· ≤ s.clock)
    · rw [h.answer, if_pos hcut]
      exact .unreached request _ _
    · rw [h.answer, if_neg hcut]
      exact (createsOnce_serve hunclaimed _).conclude _ _
  | succ left ih =>
    rw [repeatCall_succ]
    simp only [Program.play]
    by_cases hcut : cancel.any (· ≤ s.clock)
    · rw [h.answer, if_pos hcut]
      exact .unreached request _ _
    · rw [h.answer, if_neg hcut]
      cases houtcome : ((g.afterTurns time s.turns).serve (time s.turns) (.create request)).1 with
      | ok reply =>
        have hserved : CreatesOnce request (g.afterTurns time s.turns) _ _ :=
          createsOnce_serve hunclaimed (time s.turns)
        rw [houtcome] at hserved
        exact hserved
      | error e =>
        refine CreatesOnce.after_failed houtcome ?_
        by_cases hpass : e.isRetryable = true
        · have hpass' : MayPass (settle (.create request) (.error e)) := hpass
          simp only [if_pos hpass', Program.play]
          generalize hs₁ : s.after cancel (.gateway (.create request)) (.finished (.error e)) = s₁
          have hturned : g.afterTurns time s₁.turns =
              ((g.afterTurns time s.turns).serve (time s.turns) (.create request)).2 := by
            rw [← hs₁]
            rfl
          have hunclaimed₁ := hunclaimed.serve (time s.turns) (.create request)
          rw [← hturned] at hunclaimed₁ ⊢
          cases s₁.answer x cancel (.wait backoff) with
          | cancelled => exact .unreached request _ _
          | finished waited =>
            exact ih (s₁.after cancel (.wait backoff) (.finished waited)) _ _ hunclaimed₁
        · have hpass' : ¬ MayPass (settle (.create request) (.error e)) := hpass
          simp only [if_neg hpass']
          exact .unreached request _ _

/-- A create succeeds if nothing cancels it and the gateway has no errors for it. -/
lemma exists_play_repeatCall (h : x.Hosts g time) (policy : RetryPolicy) (s : Session)
    (left made : Nat) (backoff : Duration)
    (hunscripted : (g.afterTurns time s.turns).scripted = []) :
    ∃ reply, ((repeatCall policy (.create request) left made backoff).play x none s).1 =
      .ok reply := by
  obtain ⟨reply, hreply⟩ :=
    InMemory.exists_serve_create hunscripted (time s.turns) request
  refine ⟨reply, ?_⟩
  have hanswer : s.answer x none (.gateway (.create request)) = .finished (.ok reply) := by
    rw [h.answer, hreply]
    rfl
  cases left with
  | zero =>
    rw [repeatCall_zero]
    simp only [Program.play, hanswer]
    rfl
  | succ left =>
    rw [repeatCall_succ]
    simp only [Program.play, hanswer]
    rfl

/-- What all calls of a create come to, from a request with its token on. -/
structure SingleCreation (request : CreateRequest) (g : InMemory) (time : List Turn → Nat)
    (cancel : Instant) (played : Except Gateway.Error CreatedTarget × Session) : Prop where
  /-- All calls are made with that request. -/
  asked : ∀ call ∈ callsAsked played.2.turns, call = .create request
  creates : CreatesOnce request g (g.afterTurns time played.2.turns) played.1
  succeeds : cancel = none → g.scripted = [] → ∃ reply, played.1 = .ok reply

/-- A create that has its token keeps it in all its calls. -/
lemma singleCreation_callRetrying (h : x.Hosts g time) (hunclaimed : g.Unclaimed)
    (policy : RetryPolicy) (cancel : Instant) {s : Session} (hnone : callsAsked s.turns = [])
    (hstart : g.afterTurns time s.turns = g) :
    SingleCreation request g time cancel
      ((callRetrying policy (.create request)).play x cancel s) := by
  have hleft : (callsAsked s.turns).length + policy.maxRetries = policy.maxRetries := by
    simp [hnone]
  have hengaged :=
    (play_repeatCall x cancel policy (.create request) s policy.firstBackoff hleft).1
  have honce : CreatesOnce request (g.afterTurns time s.turns) _ _ :=
    createsOnce_repeatCall h policy cancel s policy.maxRetries 0 policy.firstBackoff
      (by rwa [hstart])
  rw [hnone] at hengaged
  rw [hstart] at honce
  refine ⟨?_, honce, ?_⟩
  · intro call hcall
    have hmade := hengaged.mem_callsAsked hcall
    rw [hnone] at hmade
    exact hmade.resolve_left List.not_mem_nil
  · rintro rfl hunscripted
    exact exists_play_repeatCall h policy s _ _ _ (by rwa [hstart])

end Repeating

/-- A create is made under one token, in all its calls, and that is the token of the request if it
has one, be it empty.  Wherever it is cancelled and whatever errors meet it, a gateway in memory
gains at most one target: none if the create fails or the token stands for an existing target.  If
it succeeds, the gateway holds what it returns. -/
theorem createTarget_creates_once {x : Script} {g : InMemory} {time : List Turn → Nat}
    (policy : RetryPolicy) (request : CreateRequest) (cancel : Instant) (ledger : Backoff.Ledger)
    (metrics : Metrics) (h : x.Hosts g time) (hunclaimed : g.Unclaimed) :
    ∃ token, (∀ chosen, request.clientToken = some chosen → token = chosen) ∧
      SingleCreation (request.under token) g time cancel
        ((createTarget policy request).play x cancel { ledger, metrics }) := by
  cases hchosen : request.clientToken with
  | some token =>
    have hrequest : request.under token = request := by
      rw [CreateRequest.under, ← hchosen]
    have hcreate : createTarget policy request = callRetrying policy (.create request) := by
      simp only [createTarget, hchosen]
    refine ⟨token, fun chosen hsame => Option.some.inj hsame, ?_⟩
    rw [hrequest, hcreate]
    exact singleCreation_callRetrying h hunclaimed policy cancel rfl rfl
  | none =>
    let start : Session := { ledger, metrics }
    -- the token is drawn in the first turn, before any call
    let drawn : Session := start.after cancel .freshToken (x.freshToken [])
    have hcreate : (createTarget policy request).play x cancel start =
        (callRetrying policy (.create (request.under (x.freshToken [])))).play x cancel drawn := by
      simp only [createTarget, hchosen]
      rfl
    refine ⟨x.freshToken [], nofun, ?_⟩
    rw [hcreate]
    exact singleCreation_callRetrying h hunclaimed policy cancel rfl rfl

/-- A gateway with one target that cannot be reached at first. -/
def sampleUnreachable : InMemory where
  targets := ({} : Table String HeldTarget).insert (targetName 1) ⟨"gw", ⟨creating, []⟩⟩
  tokens := ({} : Table CreateToken String).insert (.chosen "files-1") (targetName 1)
  scripted := [(.create, .transport "connection reset")]
  lastId := 1

lemma sampleUnreachable_unclaimed : sampleUnreachable.Unclaimed := by
  intro n hn
  have hne : targetName n ≠ targetName 1 := fun h => Nat.ne_of_gt hn (targetName_injective h)
  show (Table.insert {} (targetName 1) _).get? (targetName n) = none
  rw [Table.get?_insert, if_neg hne]
  rfl

/-- A request whose token is the empty text. -/
def sampleBlankRequest : CreateRequest where
  gatewayId := "gw"
  config := ⟨"notes", none, "https://notes.example", .gatewayRole, none⟩
  clientToken := some (.chosen "")

/-- The script of a gateway in memory, whose clock counts the turns. -/
def hosting (g : InMemory) : Script :=
  storing {} fun turns call => ((g.afterTurns List.length turns).serve turns.length call).1

/-- The first call fails and the second one creates the second target, both under the empty
token. -/
theorem creates_once_after_connection_reset :
    ∃ played : Except Gateway.Error CreatedTarget × Session,
      played = (createTarget .standard sampleBlankRequest).play (hosting sampleUnreachable) none
        { ledger := {}, metrics := {} } ∧
      callsAsked played.2.turns = [.create sampleBlankRequest, .create sampleBlankRequest] ∧
      played.1 = .ok ⟨"target-2", gatewayArn "gw", creating⟩ ∧
      SingleCreation sampleBlankRequest sampleUnreachable List.length none played := by
  have hhosts : (hosting sampleUnreachable).Hosts sampleUnreachable List.length := fun _ _ => rfl
  obtain ⟨token, hchosen, hsingle⟩ :=
    createTarget_creates_once .standard sampleBlankRequest none {} {} hhosts
      sampleUnreachable_unclaimed
  obtain rfl : token = .chosen "" := hchosen _ rfl
  exact ⟨_, rfl, by decide +kernel, by decide +kernel, hsingle⟩

end Controller

end TargetRegistrar
