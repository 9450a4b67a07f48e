import TargetRegistrar.Backoff.Fibonacci
import TargetRegistrar.Proofs.Backoff.Sequence

/-!
# Failures in a row

The delay after a failure depends on nothing but the number of failures of the same key since its
last success, or since its resource was last gone: it is the Fibonacci number of that count, in
units of the first delay, up to the longest one.

Two steps lead there.  Every place in a sequence of delays is told by its number
(`Fibonacci.after_current`).  And the account of a key is the one of its failures in a row, whatever
has been booked under other keys (`Ledger.account_of`).
-/

namespace TargetRegistrar.Backoff

/-! ## The delay after failures in a row -/

/-- The delay after some failures in a row. -/
def delayAfter (n : Nat) : Duration :=
  .ofSeconds (min 300 (5 * Nat.fib n))

/-- The account of a resource with some failures in a row. -/
def Account.after (n : Nat) : Account :=
  ⟨n, .after firstDelay longestDelay n⟩

lemma Account.after_delay (n : Nat) : (Account.after n).delays.next.1 = delayAfter (n + 1) := by
  have hfirst : firstDelay.nanos = 5000000000 := by decide
  have hlongest : longestDelay.nanos = 300000000000 := by decide
  have hmax : 300000000000 ≤ maxDurationNanos := by decide
  have hdelay : (Account.after n).delays.next.1.nanos =
      min longestDelay.nanos (Nat.fib (n + 1) * firstDelay.nanos) :=
    Fibonacci.after_current firstDelay longestDelay n
  ext
  rw [hdelay, hfirst, hlongest]
  simp only [delayAfter, Duration.ofSeconds, Duration.nanos_ofNanos, nanosPerSecond]
  omega

/-! ## Entries -/

/-- What is booked in a ledger. -/
inductive Entry where
  | failure (key : String)
  | success (key : String)
  /-- The resource is gone. -/
  | departure (key : String)
  deriving DecidableEq, Repr

/-- The key under which an entry is made. -/
def Entry.key : Entry → String
  | failure key => key
  | success key => key
  | departure key => key

/-- How many failures of a key have been booked in a row, the last entry first. -/
def failuresInRow (key : String) : List Entry → Nat
  | [] => 0
  | .failure k :: earlier =>
    if k = key then failuresInRow key earlier + 1 else failuresInRow key earlier
  | .success k :: earlier => if k = key then 0 else failuresInRow key earlier
  | .departure k :: earlier => if k = key then 0 else failuresInRow key earlier

lemma failuresInRow_cons_of_ne {key : String} {e : Entry} (h : e.key ≠ key)
    (entries : List Entry) : failuresInRow key (e :: entries) = failuresInRow key entries := by
  cases e with
  | failure k => exact if_neg h
  | success k => exact if_neg h
  | departure k => exact if_neg h

/-- What comes before an entry matters to it only by its count. -/
lemma failuresInRow_cons_congr {key : String} {entries entries' : List Entry} (e : Entry)
    (h : failuresInRow key entries = failuresInRow key entries') :
    failuresInRow key (e :: entries) = failuresInRow key (e :: entries') := by
  cases e with
  | failure k => simp only [failuresInRow, h]
  | success k => simp only [failuresInRow, h]
  | departure k => simp only [failuresInRow, h]

/-- Among entries that are no success and no departure of a key, its failures add up. -/
lemma failuresInRow_append {key : String} {later entries : List Entry}
    (h : ∀ e ∈ later, e.key = key → e = .failure key) :
    failuresInRow key (later ++ entries) =
      later.count (.failure key) + failuresInRow key entries := by
  induction later with
  | nil => simp
  | cons e later ih =>
    have hlater := ih fun e' he' => h e' (List.mem_cons_of_mem e he')
    by_cases hkey : e.key = key
    · obtain rfl : e = .failure key := h e List.mem_cons_self hkey
      have hcount : failuresInRow key (.failure key :: (later ++ entries)) =
          failuresInRow key (later ++ entries) + 1 := if_pos rfl
      rw [List.cons_append, hcount, hlater, List.count_cons_self]
      omega
    · have hne : e ≠ .failure key := fun he => hkey (he ▸ rfl)
      rw [List.cons_append, failuresInRow_cons_of_ne hkey, hlater, List.count_cons_of_ne hne]

/-- In a row are the entries of a key up to the first of them, from the last one back, that is no
failure. -/
lemma failuresInRow_eq_length (key : String) (entries : List Entry) :
    failuresInRow key entries =
      ((entries.filter (·.key = key)).takeWhile (· = .failure key)).length := by
  induction entries with
  | nil => rfl
  | cons e earlier ih =>
    by_cases hkey : e.key = key
    · rw [List.filter_cons_of_pos (by simpa using hkey)]
      cases e with
      | failure k =>
        obtain rfl : k = key := hkey
        rw [List.takeWhile_cons_of_pos (by simp), List.length_cons, ← ih]
        exact if_pos rfl
      | success k =>
        obtain rfl : k = key := hkey
        simp [failuresInRow]
      | departure k =>
        obtain rfl : k = key := hkey
        simp [failuresInRow]
    · rw [failuresInRow_cons_of_ne hkey, ih, List.filter_cons_of_neg (by simpa using hkey)]

namespace Ledger

/-- The ledger with another entry. -/
def book (l : Ledger) : Entry → Ledger
  | .failure key => (l.fail key).2
  | .success key => l.succeed key
  | .departure key => l.forget key

/-- The ledger after some entries, the last one first. -/
def of : List Entry → Ledger
  | [] => {}
  | e :: earlier => (of earlier).book e

variable {l : Ledger} {key k : String}

lemma fail_other (h : k ≠ key) : (l.fail key).2.accounts.get? k = l.accounts.get? k := by
  simp [fail, h]

lemma succeed_other (h : k ≠ key) : (l.succeed key).accounts.get? k = l.accounts.get? k := by
  unfold succeed
  split
  · split
    · simp [h]
    · rfl
  · rfl

lemma forget_other (h : k ≠ key) : (l.forget key).accounts.get? k = l.accounts.get? k := by
  simp [forget, h]

/-- An entry leaves the accounts of other keys as they are. -/
lemma account_book_of_ne {e : Entry} (h : e.key ≠ key) :
    (l.book e).account key = l.account key := by
  unfold account
  cases e with
  | failure k =>
    have hne : key ≠ k := Ne.symm h
    rw [book, fail_other hne]
  | success k =>
    have hne : key ≠ k := Ne.symm h
    rw [book, succeed_other hne]
  | departure k =>
    have hne : key ≠ k := Ne.symm h
    rw [book, forget_other hne]

lemma account_fail {n : Nat} (h : l.account key = .after n) :
    (l.fail key).2.account key = .after (n + 1) := by
  have hfail : (l.fail key).2.account key =
      ⟨(l.account key).failures + 1, (l.account key).delays.next.2⟩ := by
    simp [fail, account]
  rw [hfail, h]
  rfl

/-- A success starts the sequence again, also where it finds nothing to do. -/
lemma account_succeed {n : Nat} (h : l.account key = .after n) :
    (l.succeed key).account key = .after 0 := by
  unfold account at h ⊢
  unfold succeed
  cases ha : l.accounts.get? key with
  | none => simp [ha, Account.after, Account.new, Fibonacci.after]
  | some a =>
    obtain rfl : a = .after n := by simpa [ha] using h
    by_cases hn : 0 < n
    · simp [Account.after, hn]
    · obtain rfl : n = 0 := by omega
      simp [Account.after, ha]

lemma account_forget : (l.forget key).account key = .after 0 := by
  simp [forget, account, Account.after, Account.new, Fibonacci.after]

/-- The account of a key is the one of its failures in a row. -/
theorem account_of (key : String) (entries : List Entry) :
    (of entries).account key = .after (failuresInRow key entries) := by
  induction entries with
  | nil => rfl
  | cons e earlier ih =>
    by_cases hkey : e.key = key
    · cases e with
      | failure k =>
        obtain rfl : k = key := hkey
        have hcount : failuresInRow k (.failure k :: earlier) = failuresInRow k earlier + 1 :=
          if_pos rfl
        rw [hcount]
        exact account_fail ih
      | success k =>
        obtain rfl : k = key := hkey
        have hcount : failuresInRow k (.success k :: earlier) = 0 := if_pos rfl
        rw [hcount]
        exact account_succeed ih
      | departure k =>
        obtain rfl : k = key := hkey
        have hcount : failuresInRow k (.departure k :: earlier) = 0 := if_pos rfl
        rw [hcount]
        exact account_forget
    · rw [failuresInRow_cons_of_ne hkey, ← ih]
      exact account_book_of_ne hkey

@[simp] lemma failures_of (key : String) (entries : List Entry) :
    (of entries).failures key = failuresInRow key entries := by
  rw [failures, account_of]
  rfl

/-- The delay after the next failure of a key. -/
@[simp] lemma fail_of (key : String) (entries : List Entry) :
    ((of entries).fail key).1 = delayAfter (failuresInRow key entries + 1) := by
  have hdelay : ((of entries).fail key).1 = ((of entries).account key).delays.next.1 := rfl
  rw [hdelay, account_of, Account.after_delay]

/-- Whatever has been booked, the next failure of a key is followed by a delay of five seconds times
the Fibonacci number of its failures in a row, this one included, but of three hundred seconds at
most.  The account counts just these failures, and the entries of other keys make no difference. -/
theorem fibonacci_delay_per_key (key : String) (entries : List Entry) :
    let own := entries.filter (·.key = key)
    let n := (own.takeWhile (· = .failure key)).length + 1
    ((of entries).fail key).1 = .ofSeconds (min 300 (5 * Nat.fib n)) ∧
      ((of entries).fail key).2.failures key = n ∧
      ((of own).fail key).1 = ((of entries).fail key).1 := by
  intro own n
  have hcount : failuresInRow key entries + 1 = n := by rw [failuresInRow_eq_length]
  have hown : failuresInRow key own = failuresInRow key entries := by
    rw [failuresInRow_eq_length, failuresInRow_eq_length, List.filter_filter]
    simp only [Bool.and_self]
  refine ⟨?_, ?_, ?_⟩
  · rw [fail_of, hcount]
    rfl
  · have hbooked : ((of entries).fail key).2 = of (.failure key :: entries) := rfl
    rw [hbooked, failures_of, ← hcount]
    exact if_pos rfl
  · rw [fail_of, fail_of, hown]

/-- A success of one key leaves the failures of another one in a row. -/
example : (Ledger.of [.success "b", .failure "a", .failure "a"]).fail "a" =
    (.ofSeconds 10, Ledger.of [.failure "a", .success "b", .failure "a", .failure "a"]) := by
  decide +kernel

end Ledger

/-- A key is without failures: the next of them are the first ones in a row. -/
structure StartsOver (key : String) (entries : List Entry) : Prop where
  failures : (Ledger.of entries).failures key = 0
  next : ∀ later : List Entry, (∀ e ∈ later, e.key = key → e = .failure key) →
    ((Ledger.of (later ++ entries)).fail key).1 = delayAfter (later.count (.failure key) + 1)

lemma startsOver_of_count {key : String} {entries : List Entry}
    (h : failuresInRow key entries = 0) : StartsOver key entries where
  failures := by rw [Ledger.failures_of, h]
  next later hlater := by rw [Ledger.fail_of, failuresInRow_append hlater, h, Nat.add_zero]

end TargetRegistrar.Backoff
