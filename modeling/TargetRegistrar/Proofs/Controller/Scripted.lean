import TargetRegistrar.Gateway.InMemory
import TargetRegistrar.Proofs.Controller.Cancellation
import TargetRegistrar.Proofs.Controller.Repetition

/-!
# Parts of a pass on a script

A program that runs on a script runs part by part: what follows a part starts from the session that
the part has left (`play_bind`).  The script of a store in memory answers every request as that
store would after all the requests before it (`Script.Keeps`), and that of a gateway in memory every
call as that gateway would after all the calls that have reached it (`Script.Hosts`).

The one part with a loop is an operation.  Its turns are its call and its waits, and the last of
them says how it ended: it was cut short, or the last call decided (`Concluded`).
-/

namespace TargetRegistrar

open Controller

/-- A store after the requests among some turns, the last one first. -/
def Store.InMemory.afterTurns (store : Store.InMemory) : List Turn → Store.InMemory
  | [] => store
  | ⟨.store request, _⟩ :: earlier => ((store.afterTurns earlier).serve request).2
  | _ :: earlier => store.afterTurns earlier

/-- A gateway after the calls among some turns, the last one first, each at its time.  A call that
has been cut short has not reached it. -/
def Gateway.InMemory.afterTurns (g : Gateway.InMemory) (time : List Turn → Nat) :
    List Turn → Gateway.InMemory
  | [] => g
  | ⟨.gateway call, .finished _⟩ :: earlier =>
    ((g.afterTurns time earlier).serve (time earlier) call).2
  | _ :: earlier => g.afterTurns time earlier

namespace Controller

open Gateway

/-! ## Part by part -/

section Parts

variable {ε α β : Type} {x : Script} {cancel : Instant} {s s' : Session}

/-- What follows a program starts from the session that the program has left. -/
lemma play_bind (p : Program α) (f : α → Program β) (s : Session) :
    (p.bind f).play x cancel s =
      (f (p.play x cancel s).1).play x cancel (p.play x cancel s).2 := by
  induction p generalizing s with
  | done a => rfl
  | ask q next ih => exact ih ..

lemma Pass.play_query (q : Query) (f : q.Answer → Pass ε β) (s : Session) :
    (Pass.query q >>= f).run.play x cancel s =
      (f (s.answer x cancel q)).run.play x cancel (s.after cancel q (s.answer x cancel q)) := rfl

lemma Pass.play_lift (p : Program α) (f : α → Pass ε β) (s : Session) :
    (Pass.lift p >>= f).run.play x cancel s =
      (f (p.play x cancel s).1).run.play x cancel (p.play x cancel s).2 := by
  rw [Pass.run_lift_bind, play_bind]

/-- A part goes on after a request that the store has served. -/
lemma Pass.play_store {request : Store.Request} {reply : request.Reply}
    (h : x.store s.turns request = .ok reply) (f : request.Reply → Pass Error β) :
    (Pass.ofStore (Pass.store request) >>= f).run.play x cancel s =
      (f reply).run.play x cancel (s.after cancel (.store request) (.ok reply)) := by
  show Program.play x cancel (Program.bind (Program.bind (.ask (.store request) .done) _) _) s = _
  simp only [Program.ask_bind, Program.play, Session.answer, h]
  rfl

/-- A part that is not stopped ends as it would without anything in the place of a stop. -/
lemma Pass.play_orElse_ok {p : Pass ε α} {instead : ε → Pass ε α} {a : α}
    (h : p.run.play x cancel s = (.ok a, s')) :
    (p.orElse instead).run.play x cancel s = (.ok a, s') := by
  show Program.play x cancel (Program.bind p.run _) s = _
  rw [play_bind, h]
  rfl

end Parts

/-- The script answers requests as a store in memory does. -/
def Script.Keeps (x : Script) (store : Store.InMemory) : Prop :=
  ∀ turns request, x.store turns request = ((store.afterTurns turns).serve request).1

/-- The script answers calls as a gateway in memory does. -/
def Script.Hosts (x : Script) (g : Gateway.InMemory) (time : List Turn → Nat) : Prop :=
  ∀ turns call, x.gateway turns call = ((g.afterTurns time turns).serve (time turns) call).1

/-- The script of a store in memory and of a gateway. -/
def storing (store : Store.InMemory) (gateway : List Turn → (call : Call) → call.Outcome) :
    Script where
  store turns request := ((store.afterTurns turns).serve request).1
  gateway := gateway
  now _ := Store.deletionInstant
  freshToken _ := .drawn 0

/-! ## Operations -/

/-- The call that a turn asks for. -/
def Turn.call? : Turn → Option Call
  | ⟨.gateway call, _⟩ => some call
  | _ => none

/-- The calls that are asked for, the last one first. -/
def callsAsked (turns : List Turn) : List Call :=
  turns.filterMap Turn.call?

/-- A question of an operation: its call or a wait. -/
inductive Engages (call : Call) : Query → Prop where
  | call : Engages call (.gateway call)
  | wait (delay : Duration) : Engages call (.wait delay)

/-- An operation has been under way between two sessions, and nothing has been booked. -/
structure Engaged (call : Call) (s s' : Session) : Prop where
  turns : ∃ later, s'.turns = later ++ s.turns ∧ ∀ t ∈ later, Engages call t.query
  ledger : s'.ledger = s.ledger
  metrics : s'.metrics = s.metrics

/-- How an operation ends, in view of its turns: it has been cut short, or its last call decides,
and that is the last one that the policy allows if it might still have been repeated. -/
inductive Concluded (policy : RetryPolicy) (call : Call) (turns : List Turn) :
    call.Outcome → Prop where
  | cutCall {earlier : List Turn} (h : turns = ⟨.gateway call, .cancelled⟩ :: earlier) :
      Concluded policy call turns (.error .cancelled)
  | cutWait {delay : Duration} {earlier : List Turn}
      (h : turns = ⟨.wait delay, .cancelled⟩ :: earlier) :
      Concluded policy call turns (.error .cancelled)
  | finished {outcome : call.Outcome} {earlier : List Turn}
      (h : turns = ⟨.gateway call, .finished outcome⟩ :: earlier)
      (hover : MayPass (settle call outcome) → (callsAsked turns).length = policy.maxRetries + 1) :
      Concluded policy call turns
        (conclude call.operation.name (callsAsked turns).length (settle call outcome))

section Operations

variable {cancel : Instant} {s s' s'' : Session} {call : Call} {q : Query}

lemma Engaged.trans (h : Engaged call s s') (h' : Engaged call s' s'') :
    Engaged call s s'' := by
  obtain ⟨⟨later, hturns, hlater⟩, hledger, hmetrics⟩ := h
  obtain ⟨⟨later', hturns', hlater'⟩, hledger', hmetrics'⟩ := h'
  refine ⟨⟨later' ++ later, ?_, ?_⟩, hledger'.trans hledger, hmetrics'.trans hmetrics⟩
  · rw [hturns', hturns, List.append_assoc]
  · exact fun t ht => (List.mem_append.mp ht).elim (hlater' t) (hlater t)

lemma Engaged.asked (hq : Engages call q) (answer : q.Answer) :
    Engaged call s (s.after cancel q answer) := by
  refine ⟨⟨[⟨q, answer⟩], rfl, by simp [hq]⟩, ?_, ?_⟩
  · cases hq <;> rfl
  · cases hq <;> rfl

/-- An operation makes no other call than its own. -/
lemma Engaged.mem_callsAsked (h : Engaged call s s') {call' : Call}
    (hcall : call' ∈ callsAsked s'.turns) : call' ∈ callsAsked s.turns ∨ call' = call := by
  obtain ⟨later, hturns, hlater⟩ := h.turns
  rw [hturns, callsAsked, List.filterMap_append] at hcall
  obtain hcall | hcall := List.mem_append.mp hcall
  · obtain ⟨⟨q, answer⟩, ht, hq⟩ := List.mem_filterMap.mp hcall
    cases hlater _ ht with
    | call => exact .inr (Option.some.inj hq).symm
    | wait delay => cases hq
  · exact .inl hcall

/-- An operation asks its call and its waits, and its last turn says how it ends. -/
lemma play_repeatCall (x : Script) (cancel : Instant) (policy : RetryPolicy) (call : Call)
    (s : Session) {left : Nat} (backoff : Duration)
    (hleft : (callsAsked s.turns).length + left = policy.maxRetries) :
    let played := (repeatCall policy call left (callsAsked s.turns).length backoff).play x cancel s
    Engaged call s played.2 ∧ Concluded policy call played.2.turns played.1 := by
  induction left generalizing s backoff with
  | zero =>
    rw [repeatCall_zero]
    simp only [Program.play]
    cases s.answer x cancel (.gateway call) with
    | cancelled => exact ⟨.asked .call _, .cutCall rfl⟩
    | finished outcome =>
      exact ⟨.asked .call _, .finished rfl fun _ => congrArg Nat.succ hleft⟩
  | succ left ih =>
    rw [repeatCall_succ]
    simp only [Program.play]
    cases s.answer x cancel (.gateway call) with
    | cancelled => exact ⟨.asked .call _, .cutCall rfl⟩
    | finished outcome =>
      have hcalled : Engaged call s (s.after cancel (.gateway call) (.finished outcome)) :=
        .asked .call _
      by_cases hpass : MayPass (settle call outcome)
      · simp only [if_pos hpass, Program.play]
        generalize hs₁ : s.after cancel (.gateway call) (.finished outcome) = s₁ at hcalled
        have hcount : (callsAsked s₁.turns).length = (callsAsked s.turns).length + 1 := by
          rw [← hs₁]
          rfl
        cases s₁.answer x cancel (.wait backoff) with
        | cancelled => exact ⟨hcalled.trans (.asked (.wait _) _), .cutWait rfl⟩
        | finished waited =>
          generalize hs₂ : s₁.after cancel (.wait backoff) (.finished waited) = s₂
          have hwaited : Engaged call s s₂ := hcalled.trans (hs₂ ▸ .asked (.wait backoff) _)
          have hcount₂ : (callsAsked s₂.turns).length = (callsAsked s.turns).length + 1 := by
            rw [← hs₂, ← hcount]
            rfl
          rw [← hcount₂]
          exact (ih _ _ (by omega)).imp_left hwaited.trans
      · simp only [if_neg hpass, Program.play]
        have hconcluded : Concluded policy call (⟨.gateway call, .finished outcome⟩ :: s.turns) _ :=
          .finished rfl fun hpass' => absurd hpass' hpass
        rw [conclude_of_not_mayPass hpass] at hconcluded
        exact ⟨hcalled, hconcluded⟩

end Operations

end Controller

end TargetRegistrar
