import TargetRegistrar.Proofs.Controller.Bookkeeping
import TargetRegistrar.Proofs.Controller.Conflicts

/-!
# Escalating delays

A resource that keeps failing waits longer and longer, whatever fails and wherever it does: the
delay is that of the number of its rounds in a row that have ended with an error.  A round may start
the count again and fail all the same, though: when the target has been seen operational, and that
is recorded but cannot be announced.  `Round.Restarts` marks these rounds, `inRow` counts from the
last of them, and `error_requeues_escalate` is the law.

The other end of a row is a pass that is done, which leaves no failure counted
(`done_clears_backoff`), unless it has found a copy that is marked for deletion and carries no
finalizer: that pass leaves the books as they are.
-/

namespace TargetRegistrar.Controller

open Backoff Gateway

/-! ## Rounds -/

/-- How a changed resource was handled: what was decided, and what was asked, the last turn
first. -/
structure Round where
  decided : Decider × Action
  turns : List Turn

namespace Round

/-- The round has ended with an error: the pass has failed, or has counted a failure. -/
def IsErrorRequeue (round : Round) (key : String) : Prop :=
  round.decided.1 = .failureRule ∨ .failure key ∈ booked round.turns

/-- The count was started again within the round. -/
def Restarts (round : Round) (key : String) : Prop :=
  .success key ∈ booked round.turns

instance (round : Round) (key : String) : Decidable (round.Restarts key) :=
  inferInstanceAs (Decidable (Entry.success key ∈ booked round.turns))

/-- The pass has seen an operational target and has put that on record, and has failed all the
same. -/
def FailsWhenReady (round : Round) : Prop :=
  round.decided.1 = .failureRule ∧ RecordedReady round.turns

end Round

/-- The number of rounds since the count was last started again, the last round first. -/
def inRow (key : String) : List Round → Nat
  | [] => 0
  | round :: earlier => if round.Restarts key then 1 else inRow key earlier + 1

lemma inRow_eq_length {key : String} {rounds : List Round}
    (h : ∀ round ∈ rounds, ¬ round.Restarts key) : inRow key rounds = rounds.length := by
  induction rounds with
  | nil => rfl
  | cons round earlier ih =>
    have hearlier := ih fun x hx => h x (List.mem_cons_of_mem round hx)
    rw [inRow, if_neg (h round List.mem_cons_self), hearlier, List.length_cons]

/-- The rounds of the resources with a key, begun when some entries were booked, the last round
first.  Rounds of other resources may go on before, between and within them. -/
inductive Watched (c : Config) (key : String) (past : List Entry) :
    List Round → List Entry → Prop where
  | start : Watched c key past [] past
  | elsewhere {rounds : List Round} {entries : List Entry} {e : Entry}
      (h : Watched c key past rounds entries) (he : e.key ≠ key) :
      Watched c key past rounds (e :: entries)
  | handled {rounds : List Round} {entries entries' : List Entry} {r : Resource} {round : Round}
      (h : Watched c key past rounds entries) (hkey : r.key = key)
      (hround : Tally (handle c r) key entries (.done round.decided) entries' round.turns) :
      Watched c key past (round :: rounds) entries'

/-- What a round that has ended with an error makes of the count. -/
structure Escalated (key : String) (past present : List Entry) (round : Round) : Prop where
  delay : round.decided.2 = .requeue (delayAfter (failuresInRow key present))
  count : failuresInRow key present =
    if round.Restarts key then 1 else failuresInRow key past + 1
  restarts : round.Restarts key → round.FailsWhenReady

section Rounds

variable {c : Config} {key : String} {past entries entries' : List Entry} {rounds : List Round}
  {r : Resource} {round : Round}

/-- Nothing but a failure in the books, or the failure rule, ends a round with an error. -/
lemma exists_waiting {page : Page} {decided : Decider × Action} (hdecides : page.Decides decided)
    (herror : decided.1 = .failureRule ∨ .failure key ∈ page.entries key) :
    ∃ again delay, page = .waiting again delay := by
  cases page with
  | waiting again delay => exact ⟨again, delay, rfl⟩
  | _ =>
    have hpass : decided.1 = .pass := hdecides
    simp [hpass, Page.entries] at herror

/-- Exactly one failure is counted in a round that ends with an error, and its delay is waited
out. -/
lemma escalated_of_tally (hkey : r.key = key)
    (h : Tally (handle c r) key entries (.done round.decided) entries' round.turns)
    (herror : round.IsErrorRequeue key) : Escalated key entries entries' round := by
  subst hkey
  obtain ⟨page, hfollows, hkept⟩ := h.exists_kept (handle_books c r)
  have hdecides : page.Decides round.decided := hfollows
  have hbooked : round.decided.1 = .failureRule ∨ .failure r.key ∈ page.entries r.key :=
    hkept.booked ▸ herror
  obtain ⟨again, delay, rfl⟩ := exists_waiting hdecides hbooked
  obtain ⟨haction, hrule⟩ := hdecides
  have hdelay : delay = delayAfter (failuresInRow r.key entries') := hkept.delay again delay rfl
  have hrestarts : round.Restarts r.key ↔ again = true := by
    have hmem : round.Restarts r.key ↔
        Entry.success r.key ∈ Page.entries r.key (.waiting again delay) := by
      rw [← hkept.booked]
      rfl
    rw [hmem]
    cases again <;> simp [Page.entries]
  refine ⟨by rw [haction, hdelay], ?_, fun hrestarted => ?_⟩
  · rw [hkept.count]
    cases again with
    | true => simp [hrestarts, Page.entries, failuresInRow]
    | false => simp [hrestarts, Page.entries, failuresInRow]
  · have hagain : again = true := hrestarts.mp hrestarted
    exact ⟨hrule hagain, hkept.shows hagain⟩

namespace Watched

/-- The count of failures is that of the rounds since the last start. -/
lemma count (h : Watched c key past rounds entries) (hpast : failuresInRow key past = 0)
    (herror : ∀ round ∈ rounds, round.IsErrorRequeue key) :
    failuresInRow key entries = inRow key rounds := by
  induction h with
  | start => exact hpast
  | elsewhere _ he ih => rw [failuresInRow_cons_of_ne he, ih herror]
  | handled _ hkey hround ih =>
    have hearlier := ih fun x hx => herror x (List.mem_cons_of_mem _ hx)
    have hescalated := escalated_of_tally hkey hround (herror _ List.mem_cons_self)
    rw [hescalated.count, hearlier]
    rfl

/-- Each round was the last one at its end. -/
lemma exists_handled {earlier : List Round} (h : Watched c key past rounds entries)
    (hsuffix : round :: earlier <:+ rounds) :
    ∃ (r : Resource) (before after : List Entry), r.key = key ∧
      Watched c key past earlier before ∧
      Tally (handle c r) key before (.done round.decided) after round.turns := by
  induction h with
  | start => simp at hsuffix
  | elsewhere _ _ ih => exact ih hsuffix
  | handled h hkey hround ih =>
    obtain hlast | hsuffix := List.suffix_cons_iff.mp hsuffix
    · obtain ⟨rfl, rfl⟩ := List.cons.inj hlast
      exact ⟨_, _, _, hkey, h, hround⟩
    · exact ih hsuffix

end Watched

end Rounds

/-! ## The law -/

/-- What holds of a round that has ended with an error like all rounds before it. -/
structure Escalates (key : String) (round : Round) (earlier : List Round) : Prop where
  /-- The delay is that of the rounds since the count was last started again. -/
  delay : round.decided.2 = .requeue (delayAfter (inRow key (round :: earlier)))
  /-- The count is started again only where the target has been seen operational, that is on record,
  and the pass fails all the same. -/
  restarts : round.Restarts key → round.FailsWhenReady
  /-- Without such rounds, the delay is that of all rounds. -/
  undisturbed : (∀ x ∈ round :: earlier, ¬ x.FailsWhenReady) →
    round.decided.2 = .requeue (delayAfter (earlier.length + 1))

/-- The rounds of a key of which no failure is counted escalate as long as they end with errors,
whatever the errors are, wherever in the pass they occur, and whatever goes on under other keys. -/
theorem error_requeues_escalate {c : Config} {key : String} {past present : List Entry}
    {rounds earlier : List Round} {round : Round} (h : Watched c key past rounds present)
    (hpast : (Ledger.of past).failures key = 0)
    (herror : ∀ round ∈ rounds, round.IsErrorRequeue key)
    (hsuffix : round :: earlier <:+ rounds) : Escalates key round earlier := by
  rw [Ledger.failures_of] at hpast
  have hearly : ∀ x ∈ round :: earlier, x.IsErrorRequeue key :=
    fun x hx => herror x (hsuffix.subset hx)
  -- each round but the last is treated like the last, when it was the last
  have hrestarts : ∀ x ∈ round :: earlier, x.Restarts key → x.FailsWhenReady := by
    intro x hx
    obtain ⟨later, before, hsplit⟩ := List.append_of_mem hx
    have hx : x :: before <:+ rounds := (hsplit ▸ List.suffix_append later _).trans hsuffix
    obtain ⟨r, entries, entries', hkey, -, hround⟩ := h.exists_handled hx
    have hx : x.IsErrorRequeue key := herror x (hx.subset List.mem_cons_self)
    exact (escalated_of_tally hkey hround hx).restarts
  obtain ⟨r, before, after, hkey, hbefore, hround⟩ := h.exists_handled hsuffix
  have hescalated := escalated_of_tally hkey hround (hearly round List.mem_cons_self)
  have hcount : failuresInRow key after = inRow key (round :: earlier) :=
    (hbefore.handled hkey hround).count hpast hearly
  have hdelay := hescalated.delay
  rw [hcount] at hdelay
  refine ⟨hdelay, hescalated.restarts, fun hready => ?_⟩
  have hunrestarted : ∀ x ∈ round :: earlier, ¬ x.Restarts key :=
    fun x hx hrestarted => hready x hx (hrestarts x hx hrestarted)
  rw [hdelay, inRow_eq_length hunrestarted, List.length_cons]

/-- The round of a resource that cannot be read, and is looked at again after a delay. -/
def sampleUnread (delay : Duration) : Round where
  decided := (.failureRule, .requeue delay)
  turns := [⟨.countRequeue "error", ()⟩, ⟨.fail "tools/files", delay⟩, ⟨.countError "store", ()⟩,
    ⟨.countPass, ()⟩, ⟨.store (.get "tools" "files"), .error (.apiServer (some 500))⟩,
    ⟨.isCancelled, false⟩]

lemma watched_unread {past entries : List Entry} {rounds : List Round} (delay : Duration)
    (h : Watched sampleConfig "tools/files" past rounds entries)
    (hdelay : delay = ((Ledger.of entries).fail "tools/files").1) :
    Watched sampleConfig "tools/files" past (sampleUnread delay :: rounds)
      (.failure "tools/files" :: entries) := by
  have hstart : Tally (handle sampleConfig sampleContended) "tools/files" entries _ _ _ := .start
  have hopened := hstart.asked (q := .isCancelled) false trivial
  have hunread := hopened.asked (q := .store (.get "tools" "files"))
    (.error (.apiServer (some 500))) trivial
  have hpassed := hunread.asked (q := .countPass) () trivial
  have hcounted := hpassed.asked (q := .countError "store") () trivial
  have hfailed := hcounted.asked (q := .fail "tools/files") delay hdelay
  exact h.handled rfl (hfailed.asked (q := .countRequeue "error") () trivial)

lemma watched_unread_twice :
    Watched sampleConfig "tools/files" []
      [sampleUnread (.ofSeconds 5), sampleUnread (.ofSeconds 5)]
      [.failure "tools/files", .failure "tools/files"] := by
  have hfirst := watched_unread (.ofSeconds 5) (.start : Watched _ _ [] [] []) (by decide +kernel)
  exact watched_unread (.ofSeconds 5) hfirst (by decide +kernel)

/-- The third time in a row that a resource cannot be read, it waits ten seconds. -/
theorem unread_requeues_escalate :
    ∃ (first second third : Round) (present : List Entry),
      Watched sampleConfig "tools/files" [] [third, second, first] present ∧
      (Ledger.of []).failures "tools/files" = 0 ∧
      (∀ round ∈ [third, second, first], round.IsErrorRequeue "tools/files") ∧
      third.decided.2 = .requeue (.ofSeconds 10) ∧
      Escalates "tools/files" third [second, first] := by
  have hthird := watched_unread (.ofSeconds 10) watched_unread_twice (by decide +kernel)
  have herror : ∀ round ∈ [sampleUnread (.ofSeconds 10), sampleUnread (.ofSeconds 5),
      sampleUnread (.ofSeconds 5)], round.IsErrorRequeue "tools/files" := by
    simp [Round.IsErrorRequeue, sampleUnread]
  exact ⟨_, _, _, _, hthird, rfl, herror, rfl,
    error_requeues_escalate hthird rfl herror List.suffix_rfl⟩

/-- The round of a resource of which the target is seen operational: that is recorded, and cannot be
announced. -/
def sampleUnannounced (delay : Duration) : Round where
  decided := (.failureRule, .requeue delay)
  turns := [⟨.countRequeue "error", ()⟩, ⟨.fail "tools/files", delay⟩, ⟨.countError "store", ()⟩,
    ⟨.countPass, ()⟩,
    ⟨.store (.replaceStatus sampleRecorded sampleAnnounced), .error (.apiServer (some 500))⟩,
    ⟨.now, Store.deletionInstant⟩, ⟨.store (.get "tools" "files"), .ok (some sampleRecorded)⟩,
    ⟨.now, Store.deletionInstant⟩, ⟨.succeed "tools/files", ()⟩,
    ⟨.store (.replaceStatus sampleContended sampleSeen), .ok sampleRecorded⟩,
    ⟨.now, Store.deletionInstant⟩, ⟨.store (.get "tools" "files"), .ok (some sampleContended)⟩,
    ⟨.countCall .get true, ()⟩,
    ⟨.gateway (.get "gw" "target-1"), .finished (.ok ⟨"READY", []⟩)⟩,
    ⟨.store (.get "tools" "files"), .ok (some sampleContended)⟩, ⟨.isCancelled, false⟩]

lemma watched_unannounced {past entries : List Entry} {rounds : List Round}
    (h : Watched sampleConfig "tools/files" past rounds entries) :
    Watched sampleConfig "tools/files" past (sampleUnannounced (.ofSeconds 5) :: rounds)
      (.failure "tools/files" :: .success "tools/files" :: entries) := by
  have hstart : Tally (handle sampleConfig sampleContended) "tools/files" entries _ _ _ := .start
  have hopened := hstart.asked (q := .isCancelled) false trivial
  have hread := hopened.asked (q := .store (.get "tools" "files"))
    (.ok (some sampleContended)) trivial
  have hseen := hread.asked (q := .gateway (.get "gw" "target-1"))
    (.finished (.ok ⟨"READY", []⟩)) trivial
  have hcounted := hseen.asked (q := .countCall .get true) () trivial
  have hfetched := hcounted.asked (q := .store (.get "tools" "files"))
    (.ok (some sampleContended)) trivial
  have htimed := hfetched.asked (q := .now) Store.deletionInstant trivial
  have hrecorded := htimed.asked (q := .store (.replaceStatus sampleContended sampleSeen))
    (.ok sampleRecorded) trivial
  have hsucceeded := hrecorded.asked (q := .succeed "tools/files") () trivial
  have hbegun := hsucceeded.asked (q := .now) Store.deletionInstant trivial
  have hfetched₁ := hbegun.asked (q := .store (.get "tools" "files"))
    (.ok (some sampleRecorded)) trivial
  have htimed₁ := hfetched₁.asked (q := .now) Store.deletionInstant trivial
  have hrefused := htimed₁.asked (q := .store (.replaceStatus sampleRecorded sampleAnnounced))
    (.error (.apiServer (some 500))) trivial
  have hpassed := hrefused.asked (q := .countPass) () trivial
  have hblamed := hpassed.asked (q := .countError "store") () trivial
  have hdelay : Duration.ofSeconds 5 =
      ((Ledger.of (.success "tools/files" :: entries)).fail "tools/files").1 := by
    rw [Ledger.fail_of]
    rfl
  have hfailed := hblamed.asked (q := .fail "tools/files") (.ofSeconds 5) hdelay
  exact h.handled rfl (hfailed.asked (q := .countRequeue "error") () trivial)

/-- The delays of rounds that end with errors do not escalate without an exception. -/
theorem not_error_requeues_escalate_throughout :
    ¬ ∀ (c : Config) (key : String) (past present : List Entry) (rounds earlier : List Round)
      (round : Round), Watched c key past rounds present → (Ledger.of past).failures key = 0 →
      (∀ round ∈ rounds, round.IsErrorRequeue key) → round :: earlier <:+ rounds →
      round.decided.2 = .requeue (delayAfter (earlier.length + 1)) := by
  intro hlaw
  have hthird := watched_unannounced watched_unread_twice
  have herror : ∀ round ∈ [sampleUnannounced (.ofSeconds 5), sampleUnread (.ofSeconds 5),
      sampleUnread (.ofSeconds 5)], round.IsErrorRequeue "tools/files" := by
    simp [Round.IsErrorRequeue, sampleUnread, sampleUnannounced]
  have hdelay := hlaw _ _ _ _ _ _ _ hthird rfl herror List.suffix_rfl
  exact absurd hdelay (by decide +kernel)

/-! ## Passes that are done -/

/-- A pass that is done clears the account of its resource, or else it has found a copy that is
marked for deletion and carries no finalizer, and leaves the account as it is. -/
theorem done_clears_backoff {c : Config} {ns name : String} {past present : List Entry}
    {turns : List Turn}
    (h : Tally (reconcile c ns name).run (ns ++ "/" ++ name) past (.done (.ok .done)) present
      turns) :
    StartsOver (ns ++ "/" ++ name) present ∨
      ∃ r, ReadFirst ns name r turns ∧ r.isBeingDeleted ∧ r.hasFinalizer finalizer = false ∧
        (Ledger.of present).account (ns ++ "/" ++ name) =
          (Ledger.of past).account (ns ++ "/" ++ name) := by
  obtain ⟨page, hfollows, hkept⟩ := h.exists_kept (reconcile_books c ns name)
  have hends : page.Ends (.ok .done) := hfollows
  have hcount := hkept.count
  cases page with
  | untouched => exact hends.elim
  | opened => exact hends.elim
  | blank => exact absurd rfl hends
  | recording r state ph => exact absurd rfl hends
  | lapsed r =>
    obtain ⟨hread, hdel, hfin⟩ := hkept.shows
    have hsame : failuresInRow (ns ++ "/" ++ name) present =
        failuresInRow (ns ++ "/" ++ name) past := hcount
    exact .inr ⟨r, hread, hdel, hfin, by rw [Ledger.account_of, Ledger.account_of, hsame]⟩
  | restarted ready =>
    have hzero : failuresInRow (ns ++ "/" ++ name) present = 0 := hcount.trans (if_pos rfl)
    exact .inl (startsOver_of_count hzero)
  | forgotten =>
    have hzero : failuresInRow (ns ++ "/" ++ name) present = 0 := hcount.trans (if_pos rfl)
    exact .inl (startsOver_of_count hzero)
  | waiting again delay => simp [Page.Ends] at hends

/-- A resource that has failed twice and is gone when it is looked at again is without failures. -/
theorem done_clears_backoff_when_gone :
    ∃ (present : List Entry) (turns : List Turn),
      Tally (reconcile sampleConfig "tools" "files").run ("tools" ++ "/" ++ "files")
        [.failure "tools/files", .failure "tools/files"] (.done (.ok .done)) present turns ∧
      StartsOver ("tools" ++ "/" ++ "files") present := by
  have hstart : Tally (reconcile sampleConfig "tools" "files").run ("tools" ++ "/" ++ "files")
      [.failure "tools/files", .failure "tools/files"] _ _ _ := .start
  have hopened := hstart.asked (q := .isCancelled) false trivial
  have hmissed := hopened.asked (q := .store (.get "tools" "files")) (.ok none) trivial
  have hforgotten := hmissed.asked (q := .forget "tools/files") () trivial
  refine ⟨_, _, hforgotten, ?_⟩
  obtain hcleared | ⟨r, ⟨later, hread⟩, -⟩ := done_clears_backoff hforgotten
  · exact hcleared
  · -- the first thing that was read is that there is nothing
    have hfirst := congrArg List.reverse hread
    simp at hfirst

/-- A resource that others keep while it is being deleted. -/
def sampleLapsed : Resource :=
  { sampleRegistered with
    metadata := { sampleRegistered.metadata with
      finalizers := some ["foregroundDeletion"], deletionTimestamp := some Store.deletionInstant } }

/-- A pass that is done does not clear the account of its resource without an exception. -/
theorem not_done_clears_backoff_throughout :
    ¬ ∀ (c : Config) (ns name : String) (past present : List Entry) (turns : List Turn),
      Tally (reconcile c ns name).run (ns ++ "/" ++ name) past (.done (.ok .done)) present turns →
      (Ledger.of present).failures (ns ++ "/" ++ name) = 0 := by
  intro hlaw
  have hstart : Tally (reconcile sampleConfig "tools" "files").run ("tools" ++ "/" ++ "files")
      [.failure "tools/files", .failure "tools/files"] _ _ _ := .start
  have hopened := hstart.asked (q := .isCancelled) false trivial
  have hread := hopened.asked (q := .store (.get "tools" "files")) (.ok (some sampleLapsed)) trivial
  exact absurd (hlaw _ _ _ _ _ _ hread) (by decide +kernel)

end TargetRegistrar.Controller
