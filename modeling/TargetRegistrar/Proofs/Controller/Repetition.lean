import Mathlib.Data.Nat.Find
import TargetRegistrar.Controller.Retrying

/-!
# How an operation is repeated

A remote operation runs against a clock: each of its calls and waits begins at some instant and
takes a while.  Cancellation strikes at an instant, and whatever else falls on that instant comes
after it.  What would begin after cancellation does not begin, and what is under way is cut short.

Without cancellation an operation makes its call until the call succeeds or fails for good, or until
the policy allows no further repetition.  Cancellation ends such an operation wherever it meets it
(`Program.Yields`), so that a cancelled run is the beginning of the uncancelled one, up to the
instant.  `Lawful` puts the two together.
-/

namespace TargetRegistrar.Controller

open Gateway

/-! ## Running against a clock -/

/-- Something that takes time. -/
inductive Activity where
  | call (call : Call)
  | wait (delay : Duration)
  deriving DecidableEq, Repr

/-- The call that is made, if it is one. -/
def Activity.call? : Activity → Option Call
  | call c => some c
  | wait _ => none

/-- Something that has begun, and when. -/
structure Start where
  time : Nat
  activity : Activity
  deriving DecidableEq, Repr

/-- What a program meets when it runs. -/
structure Setting where
  /-- How the `n`-th call ends, if it is not cut short. -/
  outcome : Nat → (call : Call) → call.Outcome
  /-- How long the `n`-th call takes. -/
  callTime : Nat → Nat
  /-- How long a wait takes after `n` calls; a timer may be late. -/
  waitTime : Nat → Duration → Nat
  /-- The answer to a question that takes no time. -/
  answer : (q : Query) → q.Answer

/-- How a program has run. -/
structure Timeline (α : Type) where
  /-- What has begun, in order. -/
  starts : List Start
  result : α
  returned : Nat

namespace Timeline

variable {α : Type}

/-- Before all that has begun, something else did. -/
def preceded (x : Start) (t : Timeline α) : Timeline α :=
  { t with starts := x :: t.starts }

/-- The calls that have begun, in order. -/
def calls (t : Timeline α) : List Call :=
  t.starts.filterMap (·.activity.call?)

end Timeline

/-- Goes through an activity that would take a `length` of time from `start` on; the program goes on
in one way if it is cut short or missed, and in another if it comes to its end. -/
def undergo {α : Type} (cancel : Option Nat) (start length : Nat) (activity : Activity)
    (cut finished : Nat → Timeline α) : Timeline α :=
  if cancel.all (start < ·) then
    if cancel.all (start + length < ·) then
      (finished (start + length)).preceded ⟨start, activity⟩
    else (cut (cancel.getD start)).preceded ⟨start, activity⟩
  else cut start

/-- Runs a program from an instant on, after a number of calls. -/
def Program.runTimed {α : Type} (x : Setting) (cancel : Option Nat) :
    Program α → (clock made : Nat) → Timeline α
  | .done a, clock, _ => ⟨[], a, clock⟩
  | .ask (.gateway call) next, clock, made =>
    undergo cancel clock (x.callTime made) (.call call)
      (fun t => (next .cancelled).runTimed x cancel t (made + 1))
      (fun t => (next (.finished (x.outcome made call))).runTimed x cancel t (made + 1))
  | .ask (.wait delay) next, clock, made =>
    undergo cancel clock (x.waitTime made delay) (.wait delay)
      (fun t => (next .cancelled).runTimed x cancel t made)
      (fun t => (next (.finished ())).runTimed x cancel t made)
  | .ask .isCancelled next, clock, made =>
    (next (cancel.any (· ≤ clock))).runTimed x cancel clock made
  | .ask q next, clock, made => (next (x.answer q)).runTimed x cancel clock made

section Undergoing

variable {α : Type} {start length : Nat} {activity : Activity} {cut finished : Nat → Timeline α}

@[simp] lemma undergo_none :
    undergo none start length activity cut finished =
      (finished (start + length)).preceded ⟨start, activity⟩ := rfl

lemma undergo_missed {c : Nat} (h : c ≤ start) :
    undergo (some c) start length activity cut finished = cut start := by
  simp [undergo, Nat.not_lt.mpr h]

lemma undergo_cut {c : Nat} (hstart : start < c) (h : c ≤ start + length) :
    undergo (some c) start length activity cut finished = (cut c).preceded ⟨start, activity⟩ := by
  simp [undergo, hstart, Nat.not_lt.mpr h]

lemma undergo_finished {c : Nat} (h : start + length < c) :
    undergo (some c) start length activity cut finished =
      (finished (start + length)).preceded ⟨start, activity⟩ := by
  have hstart : start < c := by omega
  simp [undergo, hstart, h]

end Undergoing

variable {α : Type} {x : Setting}

/-- Nothing begins before the instant from which a program runs. -/
lemma le_runTimed (p : Program α) (clock made : Nat) :
    (∀ s ∈ (p.runTimed x none clock made).starts, clock ≤ s.time) ∧
      clock ≤ (p.runTimed x none clock made).returned := by
  induction p generalizing clock made with
  | done a => exact ⟨by simp [Program.runTimed], Nat.le_refl clock⟩
  | ask q next ih =>
    have hlater {activity : Activity} (length : Nat) (answer : q.Answer) (made : Nat) :
        (∀ s ∈ (((next answer).runTimed x none (clock + length) made).preceded
          ⟨clock, activity⟩).starts, clock ≤ s.time) ∧
          clock ≤ ((next answer).runTimed x none (clock + length) made).returned := by
      obtain ⟨hstarts, hreturned⟩ := ih answer (clock + length) made
      refine ⟨?_, by omega⟩
      intro s hs
      obtain rfl | hs := List.mem_cons.mp hs
      · exact Nat.le_refl clock
      · have := hstarts s hs
        omega
    cases q with
    | gateway call => exact hlater (x.callTime made) _ (made + 1)
    | wait delay => exact hlater (x.waitTime made delay) _ made
    | _ => exact ih _ clock made

/-! ## Programs that yield to cancellation -/

/-- Cancellation ends the program, wherever it meets a call or a wait. -/
def Program.Yields : Program (Except Gateway.Error α) → Prop
  | .done _ => True
  | .ask (.gateway _) next =>
    next .cancelled = .done (.error .cancelled) ∧ ∀ outcome, (next (.finished outcome)).Yields
  | .ask (.wait _) next =>
    next .cancelled = .done (.error .cancelled) ∧ (next (.finished ())).Yields
  | .ask _ _ => False

/-- A cancelled run is the beginning of the uncancelled one. -/
def CutAt (c : Nat) (whole run : Timeline (Except Gateway.Error α)) : Prop :=
  run.starts = whole.starts.filter (·.time < c) ∧
    run.result = if whole.returned < c then whole.result else .error .cancelled

section Cutting

variable {c clock length : Nat} {activity : Activity}

/-- An activity that yields to cancellation is missed, cut short or finished, and in each case what
has begun is what would have begun before the instant. -/
lemma CutAt.undergo {whole : Timeline (Except Gateway.Error α)}
    {finished : Nat → Timeline (Except Gateway.Error α)}
    (hstarts : ∀ s ∈ whole.starts, clock + length ≤ s.time)
    (hreturned : clock + length ≤ whole.returned)
    (h : clock + length < c → CutAt c whole (finished (clock + length))) :
    CutAt c (whole.preceded ⟨clock, activity⟩)
      (undergo (some c) clock length activity (fun t => ⟨[], .error .cancelled, t⟩) finished) := by
  by_cases hfinished : clock + length < c
  · obtain ⟨hbegun, hresult⟩ := h hfinished
    have hclock : clock < c := by omega
    rw [undergo_finished hfinished]
    exact ⟨by simp [Timeline.preceded, hclock, hbegun], hresult⟩
  · have hnone : whole.starts.filter (·.time < c) = [] := by
      refine List.filter_eq_nil_iff.mpr fun s hs => ?_
      have := hstarts s hs
      simp only [decide_eq_true_eq]
      omega
    have hnot : ¬ whole.returned < c := by omega
    by_cases hclock : clock < c
    · rw [undergo_cut hclock (by omega)]
      exact ⟨by simp [Timeline.preceded, hclock, hnone], by simp [Timeline.preceded, hnot]⟩
    · rw [undergo_missed (by omega)]
      exact ⟨by simp [Timeline.preceded, hclock, hnone], by simp [Timeline.preceded, hnot]⟩

/-- A program that yields is cut at the instant, if it has not come to its end before. -/
lemma Program.Yields.cutAt {p : Program (Except Gateway.Error α)} {made : Nat} (h : p.Yields)
    (hc : clock < c ∨ ∃ call next, p = .ask (.gateway call) next) :
    CutAt c (p.runTimed x none clock made) (p.runTimed x (some c) clock made) := by
  induction p generalizing clock made with
  | done a =>
    obtain hclock | ⟨call, next, heq⟩ := hc
    · exact ⟨rfl, by simp [Program.runTimed, hclock]⟩
    · cases heq
  | ask q next ih =>
    cases q with
    | gateway call =>
      obtain ⟨hcut, hnext⟩ := h
      obtain ⟨hstarts, hreturned⟩ := le_runTimed (x := x)
        (next (.finished (x.outcome made call))) (clock + x.callTime made) (made + 1)
      simp only [Program.runTimed, undergo_none, hcut]
      exact CutAt.undergo hstarts hreturned fun hlt => ih _ (hnext _) (.inl hlt)
    | wait delay =>
      obtain ⟨hcut, hnext⟩ := h
      obtain ⟨hstarts, hreturned⟩ := le_runTimed (x := x) (next (.finished ()))
        (clock + x.waitTime made delay) made
      simp only [Program.runTimed, undergo_none, hcut]
      exact CutAt.undergo hstarts hreturned fun hlt => ih _ hnext (.inl hlt)
    | _ => exact absurd h id

end Cutting

/-! ## Repeated calls -/

/-- A failure that may pass. -/
def MayPass : Except Gateway.Error α → Prop
  | .ok _ => False
  | .error e => e.isRetryable = true

instance : DecidablePred (MayPass (α := α))
  | .ok _ => inferInstanceAs (Decidable False)
  | .error e => inferInstanceAs (Decidable (e.isRetryable = true))

/-- What an operation returns whose last call, the `attempts`-th, ended with an outcome. -/
def conclude (operation : String) (attempts : Nat) :
    Except Gateway.Error α → Except Gateway.Error α
  | .ok reply => .ok reply
  | .error e => .error (if e.isRetryable then .retriesExhausted operation attempts e else e)

/-- How the `n`-th call ends in the eyes of the operation. -/
def Setting.settled (x : Setting) (call : Call) (n : Nat) : call.Outcome :=
  settle call (x.outcome n call)

/-- A call, and again after each of the waits. -/
def repetitions (call : Call) (waits : List Duration) : List Activity :=
  .call call :: waits.flatMap fun delay => [.wait delay, .call call]

lemma length_waitsFrom (policy : RetryPolicy) (n : Nat) (backoff : Duration) :
    (policy.waitsFrom n backoff).length = n := by
  induction n generalizing backoff with
  | zero => rfl
  | succ n ih => simp [RetryPolicy.waitsFrom, ih]

lemma take_waitsFrom (policy : RetryPolicy) {m n : Nat} (h : m ≤ n) (backoff : Duration) :
    (policy.waitsFrom n backoff).take m = policy.waitsFrom m backoff := by
  induction m generalizing n backoff with
  | zero => rfl
  | succ m ih =>
    obtain ⟨n, rfl⟩ : ∃ n', n = n' + 1 := ⟨n - 1, by omega⟩
    simp [RetryPolicy.waitsFrom, ih (Nat.le_of_succ_le_succ h)]

lemma calls_repetitions (call : Call) (waits : List Duration) :
    (repetitions call waits).filterMap Activity.call? =
      List.replicate (waits.length + 1) call := by
  have hrepeated : (waits.flatMap fun delay => [.wait delay, .call call]).filterMap
      Activity.call? = List.replicate waits.length call := by
    induction waits with
    | nil => rfl
    | cons delay waits ih =>
      simp [List.filterMap_cons, Activity.call?, ih, List.replicate_succ]
  simp [repetitions, Activity.call?, hrepeated, List.replicate_succ]

/-- The last call that the policy allows. -/
lemma repeatCall_zero (policy : RetryPolicy) (call : Call) (made : Nat) (backoff : Duration) :
    repeatCall policy call 0 made backoff = .ask (.gateway call) fun
      | .cancelled => .done (.error .cancelled)
      | .finished outcome =>
        .done (conclude call.operation.name (made + 1) (settle call outcome)) := by
  refine congrArg (Program.ask (.gateway call)) (funext fun raced => ?_)
  cases raced with
  | cancelled => rfl
  | finished outcome =>
    show Program.bind (.done (settle call outcome)) _ = .done (conclude _ _ (settle call outcome))
    cases settle call outcome with
    | ok reply => rfl
    | error e => rfl

/-- A call that is repeated if it fails for a reason that may pass. -/
lemma repeatCall_succ (policy : RetryPolicy) (call : Call) (left made : Nat)
    (backoff : Duration) :
    repeatCall policy call (left + 1) made backoff = .ask (.gateway call) fun
      | .cancelled => .done (.error .cancelled)
      | .finished outcome =>
        if MayPass (settle call outcome) then
          .ask (.wait backoff) fun
            | .cancelled => .done (.error .cancelled)
            | .finished _ =>
              repeatCall policy call left (made + 1) (policy.nextBackoff backoff)
        else .done (settle call outcome) := by
  refine congrArg (Program.ask (.gateway call)) (funext fun raced => ?_)
  cases raced with
  | cancelled => rfl
  | finished outcome =>
    show Program.bind (.done (settle call outcome)) _ =
      if MayPass (settle call outcome) then _ else .done (settle call outcome)
    cases settle call outcome with
    | ok reply => rfl
    | error e =>
      by_cases hretry : e.isRetryable = true
      · simp only [Program.done_bind, MayPass, hretry, if_true]
        refine congrArg (Program.ask (.wait backoff)) (funext fun raced => ?_)
        cases raced with
        | cancelled => rfl
        | finished _ => rfl
      · simp only [Program.done_bind, MayPass, hretry]
        rfl

lemma yields_repeatCall (policy : RetryPolicy) (call : Call) (left made : Nat)
    (backoff : Duration) : (repeatCall policy call left made backoff).Yields := by
  induction left generalizing made backoff with
  | zero =>
    rw [repeatCall_zero]
    exact ⟨rfl, fun outcome => trivial⟩
  | succ left ih =>
    rw [repeatCall_succ]
    refine ⟨rfl, fun outcome => ?_⟩
    dsimp only
    by_cases hpass : MayPass (settle call outcome)
    · rw [if_pos hpass]
      exact ⟨rfl, ih ..⟩
    · rw [if_neg hpass]
      trivial

lemma conclude_of_not_mayPass {outcome : Except Gateway.Error α} (h : ¬ MayPass outcome)
    (operation : String) (attempts : Nat) : conclude operation attempts outcome = outcome := by
  cases outcome with
  | ok reply => rfl
  | error e => exact congrArg Except.error (if_neg h)

/-- Without cancellation a call is repeated while it fails for a reason that may pass and the policy
allows it, and the last outcome is the result. -/
lemma runTimed_repeatCall (policy : RetryPolicy) (call : Call) (left made n : Nat)
    (backoff : Duration) (clock : Nat) (hpass : ∀ i < n, MayPass (x.settled call (made + i)))
    (hn : n ≤ left) (hlast : MayPass (x.settled call (made + n)) → n = left) :
    ((repeatCall policy call left made backoff).runTimed x none clock made).starts.map
        (·.activity) = repetitions call (policy.waitsFrom n backoff) ∧
      ((repeatCall policy call left made backoff).runTimed x none clock made).result =
        conclude call.operation.name (made + n + 1) (x.settled call (made + n)) := by
  induction n generalizing left made backoff clock with
  | zero =>
    cases left with
    | zero =>
      rw [repeatCall_zero]
      exact ⟨rfl, rfl⟩
    | succ left =>
      have hfinal : ¬ MayPass (settle call (x.outcome made call)) := fun h => by
        have := hlast h
        omega
      rw [repeatCall_succ]
      simp only [Program.runTimed, undergo_none, if_neg hfinal, Timeline.preceded]
      exact ⟨rfl, (conclude_of_not_mayPass hfinal ..).symm⟩
  | succ n ih =>
    obtain ⟨left, rfl⟩ : ∃ left', left = left' + 1 := ⟨left - 1, by omega⟩
    have hfirst : MayPass (settle call (x.outcome made call)) := hpass 0 (Nat.zero_lt_succ n)
    have hshift (i : Nat) : made + 1 + i = made + (i + 1) := by omega
    have hlast' : MayPass (x.settled call (made + 1 + n)) → n = left := fun h => by
      have := hlast (hshift n ▸ h)
      omega
    obtain ⟨hstarts, hresult⟩ := ih left (made + 1) (policy.nextBackoff backoff)
      (clock + x.callTime made + x.waitTime (made + 1) backoff)
      (fun i hi => hshift i ▸ hpass (i + 1) (Nat.succ_lt_succ hi)) (Nat.le_of_succ_le_succ hn)
      hlast'
    rw [repeatCall_succ]
    simp only [Program.runTimed, undergo_none, if_pos hfirst, Timeline.preceded]
    refine ⟨?_, ?_⟩
    · simp [hstarts, repetitions, RetryPolicy.waitsFrom]
    · rw [hresult, hshift]

/-! ## The law of an operation -/

/-- How many calls an operation makes: the number of the first one that succeeds or fails for good,
or one more than the policy allows repetitions, if there is none before. -/
def Setting.attempts (x : Setting) (policy : RetryPolicy) (call : Call) : Nat :=
  Nat.find (⟨policy.maxRetries, .inr rfl⟩ :
    ∃ n, ¬ MayPass (x.settled call n) ∨ n = policy.maxRetries) + 1

/-- The program repeats a call as the policy says, and a cancelled run of it is the beginning of the
uncancelled one. -/
structure Lawful (x : Setting) (policy : RetryPolicy) (call : Call) (start : Nat)
    (p : Program call.Outcome) : Prop where
  calls : (p.runTimed x none start 0).calls = List.replicate (x.attempts policy call) call
  activities : (p.runTimed x none start 0).starts.map (·.activity) =
    repetitions call (policy.schedule.take (x.attempts policy call - 1))
  result : (p.runTimed x none start 0).result =
    conclude call.operation.name (x.attempts policy call)
      (x.settled call (x.attempts policy call - 1))
  cancelled : ∀ c, CutAt c (p.runTimed x none start 0) (p.runTimed x (some c) start 0)

lemma lawful_callRetrying (x : Setting) (policy : RetryPolicy) (call : Call) (start : Nat) :
    Lawful x policy call start (callRetrying policy call) := by
  have hex : ∃ n, ¬ MayPass (x.settled call n) ∨ n = policy.maxRetries :=
    ⟨policy.maxRetries, .inr rfl⟩
  obtain ⟨n, hattempts, hpass, hn, hlast⟩ : ∃ n, x.attempts policy call = n + 1 ∧
      (∀ i < n, MayPass (x.settled call i)) ∧ n ≤ policy.maxRetries ∧
      (MayPass (x.settled call n) → n = policy.maxRetries) := by
    refine ⟨Nat.find hex, rfl, fun i hi => ?_, Nat.find_min' hex (.inr rfl), fun h => ?_⟩
    · have hbefore := Nat.find_min hex hi
      exact Classical.byContradiction fun hnot => hbefore (.inl hnot)
    · exact (Nat.find_spec hex).resolve_left (not_not_intro h)
  have hschedule : policy.schedule.take n = policy.waitsFrom n policy.firstBackoff :=
    take_waitsFrom policy hn policy.firstBackoff
  obtain ⟨hstarts, hresult⟩ := runTimed_repeatCall policy call policy.maxRetries 0 n
    policy.firstBackoff start (fun i hi => (Nat.zero_add i).symm ▸ hpass i hi) hn
    (fun h => hlast (Nat.zero_add n ▸ h))
  refine ⟨?_, ?_, ?_, fun c => ?_⟩
  · have hcalls := calls_repetitions call (policy.waitsFrom n policy.firstBackoff)
    rw [← hstarts, List.filterMap_map, length_waitsFrom, ← hattempts] at hcalls
    exact hcalls
  · rw [hattempts, Nat.add_sub_cancel, hschedule]
    exact hstarts
  · rw [hattempts, Nat.add_sub_cancel]
    rwa [Nat.zero_add] at hresult
  · refine (yields_repeatCall policy call policy.maxRetries 0 policy.firstBackoff).cutAt (.inr ?_)
    cases hmax : policy.maxRetries with
    | zero => exact ⟨call, _, repeatCall_zero ..⟩
    | succ left => exact ⟨call, _, repeatCall_succ ..⟩

/-- A create under its own token, or under a fresh one if it has none, an update and a deletion are
repeated as the policy says, and cancelled at any instant. -/
theorem operations_lawful (x : Setting) (policy : RetryPolicy) (start : Nat) :
    (∀ request : CreateRequest, Lawful x policy
        (.create { request with
          clientToken := some (request.clientToken.getD (x.answer .freshToken)) })
        start (createTarget policy request)) ∧
      (∀ request, Lawful x policy (.update request) start (updateTarget policy request)) ∧
      (∀ gatewayId targetId, Lawful x policy (.delete gatewayId targetId) start
        (deleteTarget policy gatewayId targetId)) := by
  refine ⟨fun request => ?_, fun request => lawful_callRetrying .., fun gatewayId targetId =>
    lawful_callRetrying ..⟩
  obtain ⟨gatewayId, config, _ | token⟩ := request
  · -- drawing a token takes no time, so that the law is that of the call with the token
    have hlaw := lawful_callRetrying x policy
      (.create ⟨gatewayId, config, some (x.answer .freshToken)⟩) start
    exact ⟨hlaw.calls, hlaw.activities, hlaw.result, hlaw.cancelled⟩
  · exact lawful_callRetrying ..

/-- A deletion that keeps failing is cancelled in its first wait. -/
example (answer : (q : Query) → q.Answer) :
    (deleteTarget .standard "gateway" "target").runTimed
        ⟨fun _ _ => .error (.transport "timeout"), fun _ => 2, fun _ _ => 10, answer⟩ (some 4) 0 0 =
      ⟨[⟨0, .call (.delete "gateway" "target")⟩, ⟨2, .wait (.ofSeconds 1)⟩], .error .cancelled,
        4⟩ := by
  rfl

end TargetRegistrar.Controller
