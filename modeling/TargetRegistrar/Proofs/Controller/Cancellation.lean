import TargetRegistrar.Backoff.Fibonacci
import TargetRegistrar.Metrics
import TargetRegistrar.Proofs.Controller.Legs

/-!
# Cancellation

Cancellation strikes at some instant: before the pass, or while one of its questions is being
answered.  A request to the store is served all the same.  A call of the gateway and a wait are cut
short, and what would begin after the instant does not begin.

The surroundings of a pass follow a `Script`, so that two runs of it can be compared: one that is
never cancelled, and one that is cancelled at an instant.  `Leg.Operates` marks the remote operation
of the pass.  Up to it the pass only asks the store, and until it returns the pass keeps no books;
after it nothing is left that could be cut short.  So either cancellation comes before the operation
has returned, and nothing of it is left but the request for another look, or it comes too late to
make a difference.
-/

namespace TargetRegistrar.Controller

open Gateway

/-! ## Runs -/

/-- How the surroundings of a pass behave, given what has been asked before, the last turn first. -/
structure Script where
  store : List Turn → (request : Store.Request) → request.Outcome
  gateway : List Turn → (call : Call) → call.Outcome
  now : List Turn → Timestamp
  freshToken : List Turn → CreateToken

/-- A pass under way: what has been asked, which calls have begun at which question, both with the
last one first, and the books. -/
structure Session where
  turns : List Turn := []
  begun : List (Nat × Call) := []
  ledger : Backoff.Ledger
  metrics : Metrics

/-- When cancellation strikes, if it does: at the question with that number, while it is being
answered, where the pass itself begins with question `0`. -/
abbrev Instant : Type := Option Nat

namespace Session

/-- The number of the next question. -/
def clock (s : Session) : Nat :=
  s.turns.length

/-- The calls that have begun by the end of a question: a call does not begin after
cancellation. -/
def begunBy (s : Session) (cancel : Instant) : Query → List (Nat × Call)
  | .gateway call => if cancel.any (· < s.clock) then s.begun else (s.clock, call) :: s.begun
  | _ => s.begun

/-- The ledger after a question. -/
def ledgerAfter (s : Session) : Query → Backoff.Ledger
  | .fail key => (s.ledger.fail key).2
  | .succeed key => s.ledger.succeed key
  | .forget key => s.ledger.forget key
  | _ => s.ledger

/-- The counters after a question. -/
def metricsAfter (s : Session) : Query → Metrics
  | .countCall operation success => s.metrics.countCall operation.label success
  | .countPass => s.metrics.countPass 0
  | .countError label => s.metrics.countError label
  | .countRequeue reason => s.metrics.countRequeue reason
  | _ => s.metrics

/-- The session after a question has been answered. -/
def after (s : Session) (cancel : Instant) (q : Query) (answer : q.Answer) : Session where
  turns := ⟨q, answer⟩ :: s.turns
  begun := s.begunBy cancel q
  ledger := s.ledgerAfter q
  metrics := s.metricsAfter q

/-- The answer to the next question. -/
def answer (s : Session) (x : Script) (cancel : Instant) : (q : Query) → q.Answer
  | .store request => x.store s.turns request
  | .gateway call =>
    if cancel.any (· ≤ s.clock) then .cancelled else .finished (x.gateway s.turns call)
  | .wait _ => if cancel.any (· ≤ s.clock) then .cancelled else .finished ()
  | .isCancelled => cancel.any (· ≤ s.clock)
  | .now => x.now s.turns
  | .freshToken => x.freshToken s.turns
  | .fail key => (s.ledger.fail key).1
  | .succeed _ => ()
  | .forget _ => ()
  | .countCall _ _ => ()
  | .countPass => ()
  | .countError _ => ()
  | .countRequeue _ => ()

end Session

/-- Runs a program in a session. -/
def Program.play {α : Type} (x : Script) (cancel : Instant) : Program α → Session → α × Session
  | .done a, s => (a, s)
  | .ask q next, s =>
    (next (s.answer x cancel q)).play x cancel (s.after cancel q (s.answer x cancel q))

/-- Whether a question can be cut short. -/
def Query.isRaced : Query → Bool
  | gateway _ => true
  | wait _ => true
  | _ => false

/-- A question that can be cut short has been. -/
def Query.Cut : (q : Query) → q.Answer → Prop
  | gateway _, raced => raced = .cancelled
  | wait _, raced => raced = .cancelled
  | _, _ => False

/-- Whether a question is a request to the store. -/
def Query.isRequest : Query → Bool
  | store _ => true
  | _ => false

/-- Whether a question concerns cancellation, by being cut short or by asking for it. -/
def Query.isCancellable : Query → Bool
  | gateway _ => true
  | wait _ => true
  | isCancelled => true
  | _ => false

/-- A call or a wait was still to come, or under way, when cancellation strikes: the operation has
not returned yet. -/
def Overtakes (instant : Nat) : List Turn → Prop
  | [] => False
  | t :: earlier => (t.query.isRaced ∧ instant ≤ earlier.length) ∨ Overtakes instant earlier

instance Overtakes.decidable (instant : Nat) :
    (turns : List Turn) → Decidable (Overtakes instant turns)
  | [] => .isFalse id
  | t :: earlier =>
    have := decidable instant earlier
    inferInstanceAs (Decidable ((t.query.isRaced ∧ instant ≤ earlier.length) ∨ _))

/-- Nothing is asked of the store after the first call. -/
def RequestsFirst (turns : List Turn) : Prop :=
  turns.Pairwise fun later earlier => earlier.query.isRaced → later.query.isRequest = false

/-- The result of a pass, and the session that it leaves. -/
abbrev Played : Type := Except Error Directive × Session

/-- What the cancellation of a pass at an instant makes of the run without it. -/
structure Cancels (c : Config) (start : Session) (instant : Nat) (free cut : Played) : Prop where
  /-- A pass that is cancelled beforehand asks neither the store nor the gateway. -/
  beforehand : instant = 0 → cut.1 = .ok (.requeueAfter c.pollInterval) ∧
    ∀ t ∈ cut.2.turns, t.query.isRequest = false ∧ t.query.isRaced = false
  /-- The calls that begin are those that would have begun up to the instant. -/
  begun : cut.2.begun = free.2.begun.filter (·.1 ≤ instant)
  /-- If the operation would not have returned, another look is asked for, and the store, the ledger
  and the counters are left alone. -/
  overtaken : Overtakes instant free.2.turns →
    cut.1 = .ok (.requeueAfter c.pollInterval) ∧ RequestsFirst cut.2.turns ∧
      cut.2.ledger = start.ledger ∧ cut.2.metrics = start.metrics
  /-- Otherwise nothing is different. -/
  undisturbed : 0 < instant → ¬ Overtakes instant free.2.turns → cut = free

/-! ## Legs around the operation -/

namespace Leg

/-- Before its operation a pass reads a copy and attaches the finalizer. -/
inductive Prepares : Leg → Prop where
  | opening : Prepares .opening
  | unguarded (r : Resource) : Prepares (.unguarded r)

/-- Whether the operation, if there is one, has returned. -/
def isPast : Leg → Bool
  | waking => false
  | opening => false
  | unguarded _ => false
  | guarded _ => false
  | deleting _ _ _ => false
  | _ => true

end Leg

section Legs

variable {c : Config} {ns name : String} {leg leg' : Leg} {q : Query} {answer : q.Answer}
  {r : Resource}

lemma isCancellable_of_isBookkeeping (hq : q.isBookkeeping) : q.isCancellable = false := by
  cases q with
  | gateway call => cases hq
  | wait delay => cases hq
  | isCancelled => cases hq
  | _ => rfl

/-- What can be cut short is no request to the store, and not for the books. -/
lemma kind_of_isRaced (hraced : q.isRaced) :
    q.isCancellable ∧ q.isRequest = false ∧ q.isBookkeeping = false := by
  cases q with
  | gateway call => exact ⟨rfl, rfl, rfl⟩
  | wait delay => exact ⟨rfl, rfl, rfl⟩
  | _ => cases hraced

lemma isRaced_of_isCancellable (hq : q.isCancellable = false) : q.isRaced = false := by
  refine Bool.eq_false_iff.mpr fun hraced => ?_
  cases hq.symm.trans (kind_of_isRaced hraced).1

lemma Writes.isCancellable {u : StatusUpdate} {ph ph' : WritePhase}
    (h : Writes u r ph q answer ph') : q.isCancellable = false := by
  cases h <;> rfl

/-- After the operation nothing can be cut short. -/
lemma Proceeds.past (h : Proceeds ns name leg q answer leg') (hleg : leg.isPast) :
    q.isCancellable = false ∧ leg'.isPast := by
  cases h with
  | work hworks =>
    obtain ⟨r, hoperates⟩ := hworks.operates
    cases hoperates <;> cases hleg
  | announce _ _ => exact ⟨rfl, rfl⟩
  | update hwrites => exact ⟨hwrites.isCancellable, rfl⟩
  | detach => exact ⟨rfl, rfl⟩
  | undetached => exact ⟨rfl, rfl⟩
  | book _ _ hq => exact ⟨isCancellable_of_isBookkeeping hq, hleg⟩
  | _ => cases hleg

lemma Leg.Calls.isPast {call : Call} {next : call.Reply → Leg} (h : leg.Calls call next)
    (reply : call.Reply) : (next reply).isPast := by
  cases h <;> rfl

/-- During the operation the store is not asked, and the books are left alone until it has
returned. -/
lemma Proceeds.operating (h : Proceeds ns name leg q answer leg') (hleg : leg.Operates r) :
    q.isRequest = false ∧ q ≠ .isCancelled ∧
      (leg'.isPast ∨ leg' = leg ∧ q.isBookkeeping = false) := by
  cases h with
  | work hworks =>
    cases hworks with
    | call hcalls _ => exact ⟨rfl, by simp, .inl (hcalls.isPast _)⟩
    | draw _ => exact ⟨rfl, by simp, .inr ⟨rfl, rfl⟩⟩
    | fail _ _ => exact ⟨rfl, by simp, .inr ⟨rfl, rfl⟩⟩
    | wait _ => exact ⟨rfl, by simp, .inr ⟨rfl, rfl⟩⟩
    | _ => exact ⟨rfl, by simp, .inl rfl⟩
  | announce _ _ => exact ⟨rfl, by simp, .inl rfl⟩
  | book _ hbooks _ => cases hleg <;> cases hbooks
  | _ => cases hleg

lemma Proceeds.waking {cancelled : Bool}
    (h : Proceeds ns name .waking .isCancelled cancelled leg') :
    leg' = if cancelled then .cancelled else .opening := by
  cases h with
  | wake => rfl
  | oversleep => rfl
  | work hworks =>
    obtain ⟨r, hoperates⟩ := hworks.operates
    cases hoperates
  | book _ hbooks _ => cases hbooks

/-- Before the operation nothing can be cut short, and the books are left alone. -/
lemma Proceeds.preparing (h : Proceeds ns name leg q answer leg') (hleg : leg.Prepares) :
    q.isCancellable = false ∧ q.isBookkeeping = false ∧
      (leg'.isPast ∨ leg'.Prepares ∨ ∃ r, leg'.Operates r) := by
  cases h with
  | read hopens =>
    refine ⟨rfl, rfl, ?_⟩
    cases hopens with
    | unguarded _ => exact .inr (.inl (.unguarded _))
    | guarded _ _ => exact .inr (.inr ⟨_, .guarded _⟩)
    | deleting _ => exact .inr (.inr ⟨_, .deleting ..⟩)
    | _ => exact .inl rfl
  | miss => exact ⟨rfl, rfl, .inl rfl⟩
  | unread => exact ⟨rfl, rfl, .inl rfl⟩
  | attach => exact ⟨rfl, rfl, .inr (.inr ⟨_, .guarded _⟩)⟩
  | unattached => exact ⟨rfl, rfl, .inl rfl⟩
  | work hworks =>
    obtain ⟨r, hoperates⟩ := hworks.operates
    cases hleg <;> cases hoperates
  | announce hannounces _ => cases hleg <;> cases hannounces
  | book _ hbooks _ => cases hleg <;> cases hbooks
  | _ => cases hleg

lemma isCancellable_of_cut (hcut : q.Cut answer) : q.isCancellable := by
  cases q with
  | gateway call => rfl
  | wait delay => rfl
  | _ => cases hcut

/-- A call or a wait that is cut short cancels the pass. -/
lemma Proceeds.cut (h : Proceeds ns name leg q answer leg') (hcut : q.Cut answer) :
    leg' = .cancelled := by
  cases h with
  | work hworks =>
    cases hworks with
    | cutCall _ => rfl
    | cutWait _ => rfl
    | _ => cases hcut
  | update hwrites => cases hwrites <;> cases hcut
  | book _ _ hq =>
    cases (isCancellable_of_isBookkeeping hq).symm.trans (isCancellable_of_cut hcut)
  | _ => cases hcut

/-- A cancelled pass asks nothing more. -/
lemma follows_cancelled {p : Program (Except Error Directive)}
    (h : p.Follows (Proceeds ns name) (Leg.Results c) .cancelled)
    (answer : (q : Query) → q.Answer) : p = .done (.ok (.requeueAfter c.pollInterval)) := by
  cases p with
  | done outcome =>
    obtain ⟨ending, hends, rfl⟩ := h
    cases hends with
    | cancelled => rfl
    | abandoned hoperates => cases hoperates
  | ask q next =>
    obtain ⟨leg', hproceeds, -⟩ := h (answer q)
    cases hproceeds with
    | work hworks =>
      obtain ⟨r, hoperates⟩ := hworks.operates
      cases hoperates
    | announce hannounces _ => cases hannounces
    | book _ hbooks _ => cases hbooks

end Legs

/-! ## Two runs -/

section Runs

variable {α : Type} {x : Script} {k : Nat} {s : Session} {q : Query}

namespace Session

/-- A question that is not cut short is answered the same. -/
lemma answer_eq (h : q.isCancellable → s.clock < k) :
    s.answer x (some k) q = s.answer x none q := by
  cases q with
  | gateway call => simp [answer, h rfl]
  | wait delay => simp [answer, h rfl]
  | isCancelled => simp [answer, h rfl]
  | _ => rfl

/-- A question that comes before cancellation leaves the same session. -/
lemma after_eq (h : q.isRaced → s.clock ≤ k) (answer : q.Answer) :
    s.after (some k) q answer = s.after none q answer := by
  cases q with
  | gateway call => simp [after, begunBy, ledgerAfter, metricsAfter, h rfl]
  | _ => rfl

lemma ledgerAfter_eq (h : q.isBookkeeping = false) : s.ledgerAfter q = s.ledger := by
  cases q with
  | fail key => cases h
  | succeed key => cases h
  | forget key => cases h
  | _ => rfl

lemma metricsAfter_eq (h : q.isBookkeeping = false) : s.metricsAfter q = s.metrics := by
  cases q with
  | countCall operation success => cases h
  | countPass => cases h
  | countError label => cases h
  | countRequeue reason => cases h
  | _ => rfl

end Session

/-- A question is one call at most. -/
lemma Session.exists_begunBy (s : Session) (cancel : Instant) (q : Query) :
    ∃ calls, s.begunBy cancel q = calls ++ s.begun ∧ ∀ b ∈ calls, b.1 = s.clock := by
  cases q with
  | gateway call =>
    by_cases hcut : cancel.any (· < s.clock) = true
    · exact ⟨[], by simp [begunBy, hcut], by simp⟩
    · exact ⟨[(s.clock, call)], by simp [begunBy, hcut], by simp⟩
  | _ => exact ⟨[], rfl, by simp⟩

/-- What has been asked stays, and the calls that begin later begin at later questions. -/
lemma exists_play_later (p : Program α) (cancel : Instant) (s : Session) :
    ∃ turns calls, (p.play x cancel s).2.turns = turns ++ s.turns ∧
      (p.play x cancel s).2.begun = calls ++ s.begun ∧ ∀ b ∈ calls, s.clock ≤ b.1 := by
  induction p generalizing s with
  | done a => exact ⟨[], [], rfl, rfl, by simp⟩
  | ask q next ih =>
    obtain ⟨turns, calls, hturns, hcalls, hlater⟩ :=
      ih (s.answer x cancel q) (s.after cancel q (s.answer x cancel q))
    obtain ⟨now, hnow, hclock⟩ := s.exists_begunBy cancel q
    refine ⟨turns ++ [⟨q, s.answer x cancel q⟩], calls ++ now, ?_, ?_, ?_⟩
    · rw [List.append_assoc]
      exact hturns
    · rw [List.append_assoc, ← hnow]
      exact hcalls
    · intro b hb
      obtain hb | hb := List.mem_append.mp hb
      · exact Nat.le_of_succ_le (hlater b hb)
      · exact Nat.le_of_eq (hclock b hb).symm

lemma overtakes_cons {t : Turn} {turns : List Turn} : Overtakes k (t :: turns) ↔
    (t.query.isRaced ∧ k ≤ turns.length) ∨ Overtakes k turns := Iff.rfl

lemma Overtakes.append {turns : List Turn} (h : Overtakes k turns) (later : List Turn) :
    Overtakes k (later ++ turns) := by
  induction later with
  | nil => exact h
  | cons t later ih => exact .inr ih

/-- Calls that begin after an instant do not count. -/
lemma filter_append_later {calls begun : List (Nat × Call)} {n : Nat} (hn : k < n)
    (hlater : ∀ b ∈ calls, n ≤ b.1) (hbegun : ∀ b ∈ begun, b.1 ≤ k) :
    (calls ++ begun).filter (·.1 ≤ k) = begun := by
  have hcalls : calls.filter (·.1 ≤ k) = [] :=
    List.filter_eq_nil_iff.mpr fun b hb => by
      have := hlater b hb
      simp only [decide_eq_true_eq]
      omega
  rw [List.filter_append, hcalls, List.nil_append]
  exact List.filter_eq_self.mpr fun b hb => by simpa using hbegun b hb

/-- The calls that begin in a run which is cut short at a question are those of the run without
cancellation that begin up to the instant: the call that is cut short may be one of them. -/
lemma filter_begun {calls : List (Nat × Call)} (hk : k ≤ s.clock)
    (hlater : ∀ b ∈ calls, s.clock + 1 ≤ b.1) (hbegun : ∀ b ∈ s.begun, b.1 ≤ k) :
    (calls ++ s.begunBy none q).filter (·.1 ≤ k) = s.begunBy (some k) q := by
  cases q with
  | gateway call =>
    obtain hlt | rfl := Nat.lt_or_eq_of_le hk
    · have hcalls : ∀ b ∈ calls ++ [(s.clock, call)], s.clock ≤ b.1 := by
        intro b hb
        obtain hb | hb := List.mem_append.mp hb
        · exact Nat.le_of_succ_le (hlater b hb)
        · exact Nat.le_of_eq (by rw [List.mem_singleton.mp hb])
      have hfilter := filter_append_later hlt hcalls hbegun
      rw [List.append_assoc] at hfilter
      simpa [Session.begunBy, hlt] using hfilter
    · have hnow : ∀ b ∈ (s.clock, call) :: s.begun, b.1 ≤ s.clock :=
        List.forall_mem_cons.mpr ⟨Nat.le_refl _, hbegun⟩
      have hfilter := filter_append_later (Nat.lt_succ_self s.clock) hlater hnow
      simpa [Session.begunBy] using hfilter
  | _ => exact filter_append_later (Nat.lt_succ_of_le hk) hlater hbegun

lemma requestsFirst_of_unraced {turns : List Turn}
    (h : ∀ t ∈ turns, t.query.isRaced = false) : RequestsFirst turns :=
  List.pairwise_of_forall_mem_list fun _ _ t ht hraced => by simp [h t ht] at hraced

/-- Cancellation has not overtaken anything yet. -/
structure Session.Ahead (k : Nat) (s : Session) : Prop where
  turns : ¬ Overtakes k s.turns
  begun : ∀ b ∈ s.begun, b.1 ≤ k

/-- What the cancellation of a program at an instant makes of its run from a session without it. -/
inductive Compares (c : Config) (s : Session) (k : Nat) (free cut : Played) : Prop where
  | same (h : cut = free) (hahead : free.2.Ahead k) : Compares c s k free cut
  | overtaken (hovertakes : Overtakes k free.2.turns)
      (hresult : cut.1 = .ok (.requeueAfter c.pollInterval)) (hrequests : RequestsFirst cut.2.turns)
      (hbegun : cut.2.begun = free.2.begun.filter (·.1 ≤ k)) (hledger : cut.2.ledger = s.ledger)
      (hmetrics : cut.2.metrics = s.metrics) : Compares c s k free cut

section Compares

variable {c : Config} {ns name : String} {leg : Leg} {r : Resource}
  {p : Program (Except Error Directive)}
  {next : q.Answer → Program (Except Error Directive)}
  {post : Except Error Directive → Leg → Prop}

/-- Questions that leave the books alone may come before. -/
lemma Compares.of_after {free cut : Played} {answer : q.Answer} (hq : q.isBookkeeping = false)
    (h : Compares c (s.after none q answer) k free cut) : Compares c s k free cut := by
  cases h with
  | same h hahead => exact .same h hahead
  | overtaken hovertakes hresult hrequests hbegun hledger hmetrics =>
    refine .overtaken hovertakes hresult hrequests hbegun ?_ ?_
    · exact hledger.trans (s.ledgerAfter_eq hq)
    · exact hmetrics.trans (s.metricsAfter_eq hq)

/-- A question that is not cut short leads two runs to the same session. -/
lemma play_ask_eq (hq : q.isCancellable → s.clock < k) :
    (Program.ask q next).play x (some k) s =
      (next (s.answer x none q)).play x (some k) (s.after none q (s.answer x none q)) := by
  have hraced : q.isRaced → s.clock ≤ k :=
    fun hraced => Nat.le_of_lt (hq (kind_of_isRaced hraced).1)
  show (next (s.answer x (some k) q)).play x (some k) (s.after (some k) q _) = _
  rw [Session.answer_eq hq, Session.after_eq hraced]

lemma Session.Ahead.after (hs : s.Ahead k) (hq : q.isCancellable → s.clock < k)
    (answer : q.Answer) : (s.after none q answer).Ahead k where
  turns := by
    rintro (⟨hraced, hlate⟩ | hturns)
    · exact absurd (hq (kind_of_isRaced hraced).1) (Nat.not_lt.mpr hlate)
    · exact hs.turns hturns
  begun := by
    cases q with
    | gateway call =>
      intro b hb
      obtain rfl | hb := List.mem_cons.mp hb
      · exact Nat.le_of_lt (hq rfl)
      · exact hs.begun b hb
    | _ => exact hs.begun

/-- After the operation cancellation makes no difference. -/
lemma play_past (hp : p.Follows (Proceeds ns name) post leg) (hleg : leg.isPast)
    (hs : s.Ahead k) :
    p.play x (some k) s = p.play x none s ∧ (p.play x none s).2.Ahead k := by
  induction p generalizing s leg with
  | done a => exact ⟨rfl, hs⟩
  | ask q next ih =>
    obtain ⟨leg', hproceeds, hnext⟩ := hp (s.answer x none q)
    obtain ⟨hcancellable, hleg'⟩ := hproceeds.past hleg
    have hq : q.isCancellable → s.clock < k := by simp [hcancellable]
    rw [play_ask_eq hq]
    exact ih _ hnext hleg' (hs.after hq _)

/-- What is cut short leaves the request for another look. -/
lemma compares_cut (hp : (Program.ask q next).Follows (Proceeds ns name) (Leg.Results c) leg)
    (hraced : q.isRaced) (hk : k ≤ s.clock) (hs : s.Ahead k) (hrequests : RequestsFirst s.turns) :
    Compares c s k ((Program.ask q next).play x none s)
      ((Program.ask q next).play x (some k) s) := by
  obtain ⟨-, hrequest, hbooks⟩ := kind_of_isRaced hraced
  have hcut : q.Cut (s.answer x (some k) q) := by
    cases q with
    | gateway call => simp [Query.Cut, Session.answer, hk]
    | wait delay => simp [Query.Cut, Session.answer, hk]
    | _ => cases hraced
  obtain ⟨leg', hproceeds, hnext⟩ := hp (s.answer x (some k) q)
  obtain rfl := hproceeds.cut hcut
  have hplay : (Program.ask q next).play x (some k) s =
      (.ok (.requeueAfter c.pollInterval), s.after (some k) q (s.answer x (some k) q)) := by
    show (next (s.answer x (some k) q)).play x (some k) _ = _
    rw [follows_cancelled hnext (s.answer x none)]
    rfl
  obtain ⟨turns, calls, hturns, hcalls, hlater⟩ := exists_play_later (x := x)
    (next (s.answer x none q)) none (s.after none q (s.answer x none q))
  rw [hplay]
  refine .overtaken ?_ rfl ?_ ?_ (s.ledgerAfter_eq hbooks) (s.metricsAfter_eq hbooks)
  -- the run without cancellation has asked the same question, whatever it has asked since
  · show Overtakes k ((next _).play x none _).2.turns
    rw [hturns]
    exact (overtakes_cons.mpr (.inl ⟨hraced, hk⟩)).append turns
  · exact List.pairwise_cons.mpr ⟨fun _ _ _ => hrequest, hrequests⟩
  · show s.begunBy (some k) q = ((next _).play x none _).2.begun.filter (·.1 ≤ k)
    rw [hcalls]
    exact (filter_begun hk hlater hs.begun).symm

/-- While the operation is under way, cancellation cuts it short or has not come yet. -/
lemma compares_operating (hp : p.Follows (Proceeds ns name) (Leg.Results c) leg)
    (hleg : leg.Operates r) (hs : s.Ahead k) (hrequests : RequestsFirst s.turns) :
    Compares c s k (p.play x none s) (p.play x (some k) s) := by
  -- on the questions of the operation, which stays in its leg until it returns or is cut short
  induction p generalizing s with
  | done a => exact .same rfl hs
  | ask q next ih =>
    by_cases hlost : q.isRaced ∧ k ≤ s.clock
    · exact compares_cut hp hlost.1 hlost.2 hs hrequests
    · obtain ⟨leg', hproceeds, hnext⟩ := hp (s.answer x none q)
      obtain ⟨hrequest, hopened, hleg'⟩ := hproceeds.operating hleg
      have hq : q.isCancellable → s.clock < k := by
        intro hcancellable
        refine Nat.lt_of_not_le fun hk => hlost ⟨?_, hk⟩
        cases q with
        | isCancelled => exact absurd rfl hopened
        | gateway call => rfl
        | wait delay => rfl
        | _ => cases hcancellable
      rw [play_ask_eq hq]
      have hahead := hs.after hq (s.answer x none q)
      obtain hpast | ⟨rfl, hbooks⟩ := hleg'
      · obtain ⟨hsame, hahead'⟩ := play_past hnext hpast hahead
        exact .same hsame hahead'
      · have hfirst : RequestsFirst (s.after none q (s.answer x none q)).turns :=
          List.pairwise_cons.mpr ⟨fun _ _ _ => hrequest, hrequests⟩
        exact (ih _ hnext hahead hfirst).of_after hbooks

/-- Before the operation cancellation makes no difference yet. -/
lemma compares_preparing (hp : p.Follows (Proceeds ns name) (Leg.Results c) leg)
    (hleg : leg.Prepares) (hs : s.Ahead k) (hunraced : ∀ t ∈ s.turns, t.query.isRaced = false) :
    Compares c s k (p.play x none s) (p.play x (some k) s) := by
  induction p generalizing s leg with
  | done a => exact .same rfl hs
  | ask q next ih =>
    obtain ⟨leg', hproceeds, hnext⟩ := hp (s.answer x none q)
    obtain ⟨hcancellable, hbooks, hleg'⟩ := hproceeds.preparing hleg
    have hq : q.isCancellable → s.clock < k := by simp [hcancellable]
    have hahead := hs.after hq (s.answer x none q)
    have hunraced' : ∀ t ∈ (s.after none q (s.answer x none q)).turns,
        t.query.isRaced = false :=
      List.forall_mem_cons.mpr ⟨isRaced_of_isCancellable hcancellable, hunraced⟩
    rw [play_ask_eq hq]
    obtain hpast | hprepares | ⟨r, hoperates⟩ := hleg'
    · obtain ⟨hsame, hahead'⟩ := play_past hnext hpast hahead
      exact .same hsame hahead'
    · exact (ih _ hnext hprepares hahead hunraced').of_after hbooks
    · exact (compares_operating hnext hoperates hahead
        (requestsFirst_of_unraced hunraced')).of_after hbooks

/-- Two runs that compare are as they should be. -/
lemma Compares.cancels {free cut : Played} (h : Compares c s k free cut) (hk : 0 < k) :
    Cancels c s k free cut := by
  cases h with
  | same hsame hahead =>
    refine ⟨fun hzero => absurd hzero (Nat.ne_of_gt hk), ?_,
      fun hovertakes => absurd hovertakes hahead.turns, fun _ _ => hsame⟩
    rw [hsame]
    exact (List.filter_eq_self.mpr fun b hb => by simpa using hahead.begun b hb).symm
  | overtaken hovertakes hresult hrequests hbegun hledger hmetrics =>
    exact ⟨fun hzero => absurd hzero (Nat.ne_of_gt hk), hbegun,
      fun _ => ⟨hresult, hrequests, hledger, hmetrics⟩, fun _ hlate => absurd hovertakes hlate⟩

end Compares

end Runs

/-- A pass that is cancelled beforehand asks nothing but whether it is. -/
lemma cancels_beforehand {c : Config} {ns name : String} {x : Script} {s : Session}
    {next : Bool → Program (Except Error Directive)} (hturns : s.turns = [])
    (hbegun : s.begun = [])
    (hp : (Program.ask .isCancelled next).Follows (Proceeds ns name) (Leg.Results c) .waking) :
    Cancels c s 0 ((Program.ask .isCancelled next).play x none s)
      ((Program.ask .isCancelled next).play x (some 0) s) := by
  obtain ⟨leg, hproceeds, hcancelled⟩ := hp true
  obtain rfl := hproceeds.waking
  have hcut : (Program.ask .isCancelled next).play x (some 0) s =
      (.ok (.requeueAfter c.pollInterval), s.after (some 0) .isCancelled true) := by
    show (next (decide (0 ≤ s.clock))).play x (some 0) _ = _
    simp only [Nat.zero_le, decide_true]
    rw [follows_cancelled hcancelled (s.answer x none)]
    rfl
  obtain ⟨_, calls, -, hcalls, hlater⟩ :=
    exists_play_later (x := x) (next false) none (s.after none .isCancelled false)
  have hclock : 0 < (s.after none .isCancelled false).clock := Nat.succ_pos _
  rw [hcut]
  refine ⟨fun _ => ⟨rfl, ?_⟩, ?_, fun _ => ⟨rfl, ?_, rfl, rfl⟩, fun hzero => absurd hzero (by simp)⟩
  · simp [Session.after, hturns, Query.isRequest, Query.isRaced]
  · show s.begun =
      ((next false).play x none (s.after none .isCancelled false)).2.begun.filter (·.1 ≤ 0)
    have hnone : ∀ b ∈ s.begun, b.1 ≤ 0 := by simp [hbegun]
    rw [hcalls]
    exact (filter_append_later hclock hlater hnone).symm
  · simp [RequestsFirst, Session.after, hturns]

/-- Cancellation at any instant, whatever the store and the gateway answer.  Before the pass, it
keeps the pass from asking them anything.  No call begins after it.  If the operation of the pass
has not returned by then, the pass asks for another look after the poll interval, having asked the
store nothing since the operation began, and leaves the ledger and the counters as they were.  In
all other cases it makes no difference. -/
theorem cancellation_cancels (c : Config) (ns name : String) (x : Script) (ledger : Backoff.Ledger)
    (metrics : Metrics) (instant : Nat) :
    Cancels c { ledger, metrics } instant
      ((reconcile c ns name).run.play x none { ledger, metrics })
      ((reconcile c ns name).run.play x (some instant) { ledger, metrics }) := by
  obtain ⟨next, hnext⟩ : ∃ next, (reconcile c ns name).run = .ask .isCancelled next := ⟨_, rfl⟩
  have hfollows := reconcile_proceeds c ns name
  rw [hnext] at hfollows ⊢
  cases instant with
  | zero => exact cancels_beforehand rfl rfl hfollows
  | succ k =>
    -- the first question is whether the pass is cancelled, and it is not yet
    have hq : Query.isCancelled.isCancellable → Session.clock { ledger, metrics } < k + 1 :=
      fun _ => Nat.succ_pos k
    have hahead : Session.Ahead (k + 1) { ledger, metrics } := ⟨id, by simp⟩
    obtain ⟨leg, hproceeds, hopened⟩ := hfollows false
    obtain rfl := hproceeds.waking
    rw [play_ask_eq hq]
    have hcompares := compares_preparing (x := x) hopened .opening (hahead.after hq false)
      (by simp [Session.after, Query.isRaced])
    exact (hcompares.of_after rfl).cancels (Nat.succ_pos k)

/-- A store that holds a registered resource whose specification has been edited, and a gateway that
cannot be reached. -/
def sampleOutage : Script where
  store _
    | .get _ _ => .ok (some (Store.InMemory.withSpec sampleRegistered id))
    | .replaceFinalizers copy _ => .ok copy
    | .replaceStatus copy _ => .ok copy
  gateway _ _ := .error (.transport "connection reset")
  now _ := Store.deletionInstant
  freshToken _ := .drawn 0

/-- The update of a target fails, and the pass is cancelled while it waits to repeat it: the one
call that it has made is neither counted nor announced. -/
theorem cancellation_cancels_during_backoff :
    ∃ free cut : Played,
      free = (reconcile sampleRepeating "tools" "files").run.play sampleOutage none
        { ledger := {}, metrics := {} } ∧
      cut = (reconcile sampleRepeating "tools" "files").run.play sampleOutage (some 3)
        { ledger := {}, metrics := {} } ∧
      free.1 = .ok (.requeueAfter (.ofSeconds 5)) ∧ free.2.begun.map (·.1) = [8, 6, 4, 2] ∧
      Overtakes 3 free.2.turns ∧ cut.1 = .ok (.requeueAfter (.ofSeconds 30)) ∧
      cut.2.begun.map (·.1) = [2] ∧ RequestsFirst cut.2.turns ∧ cut.2.ledger = {} := by
  have hcancels := cancellation_cancels sampleRepeating "tools" "files" sampleOutage {} {} 3
  generalize hfree : (reconcile sampleRepeating "tools" "files").run.play sampleOutage none
    { ledger := {}, metrics := {} } = free at hcancels
  generalize hcut : (reconcile sampleRepeating "tools" "files").run.play sampleOutage (some 3)
    { ledger := {}, metrics := {} } = cut at hcancels
  have hbegun : free.2.begun.map (·.1) = [8, 6, 4, 2] := hfree ▸ by decide +kernel
  have hfirst : (free.2.begun.filter (·.1 ≤ 3)).map (·.1) = [2] := by
    have hfilter := congrArg (List.filter (· ≤ 3)) hbegun
    rwa [List.filter_map] at hfilter
  have hresult : free.1 = .ok (.requeueAfter (.ofSeconds 5)) := hfree ▸ by decide +kernel
  have hovertakes : Overtakes 3 free.2.turns := hfree ▸ by decide +kernel
  obtain ⟨hlook, hrequests, hledger, -⟩ := hcancels.overtaken hovertakes
  exact ⟨free, cut, rfl, rfl, hresult, hbegun, hovertakes, hlook, hcancels.begun ▸ hfirst,
    hrequests, hledger⟩

end TargetRegistrar.Controller
