import Mathlib.Algebra.Group.Nat.Defs
import TargetRegistrar.Proofs.Registration.Acceptance
import TargetRegistrar.Proofs.Text.Reading
import TargetRegistrar.Settings

/-!
# Settings that are accepted

Every setting is looked up as a text, and all that matters is what that text holds, if it is not
blank (`Given`).  A number may be given as any numeral within its bound, with a plus sign and with
zeros in front; `Denotes` says which number is meant, also where none is given.  `WellFormed` are
the surroundings in which all three numbers can be read and the two that count something are not
zero.

`read_exact` is the law: exactly these are accepted, the settings are those that are given, and a
default gateway among them is fit for use as it is, for it has been trimmed here, just as a gateway
that a resource names is trimmed where it is resolved.
-/

namespace TargetRegistrar.Settings

/-! ## What is given -/

/-- A setting is given as a text, perhaps among blanks. -/
def Given (value : Option String) (t : String) : Prop :=
  ∃ s, value = some s ∧ Text.Holds s t

/-- A setting is not given, or given as blanks. -/
def Unset (value : Option String) : Prop :=
  ∀ s, value = some s → ∀ c ∈ s.toList, Text.isBlank c = true

/-- The number that a setting comes to: the one whose numeral is given, within the bound, or the
fallback. -/
inductive Denotes (bound fallback : Nat) (value : Option String) : Nat → Prop where
  | unset (h : Unset value) : Denotes bound fallback value fallback
  | numeral {t : String} {n : Nat} (h : Given value t) (hn : Text.IsNumeral t n)
      (hbound : n ≤ bound) : Denotes bound fallback value n

/-- The settings that are looked up. -/
def names : List String :=
  ["AWS_REGION", "DEFAULT_GATEWAY_ID", "WATCH_NAMESPACE", "REQUEUE_INTERVAL_SECS", "METRICS_PORT",
    "BEDROCK_AGENTCORE_ENDPOINT", "RECONCILE_CONCURRENCY"]

/-- All numbers can be read, and neither the interval nor the concurrency is zero. -/
structure WellFormed (lookup : String → Option String) : Prop where
  interval : ∃ n, Denotes (2 ^ 64 - 1) 10 (lookup "REQUEUE_INTERVAL_SECS") n ∧ n ≠ 0
  concurrency : ∃ n, Denotes (2 ^ 16 - 1) 3 (lookup "RECONCILE_CONCURRENCY") n ∧ n ≠ 0
  port : ∃ n, Denotes (2 ^ 16 - 1) 8080 (lookup "METRICS_PORT") n

/-- The settings are those that are given. -/
structure Reflects (lookup : String → Option String) (s : Settings) : Prop where
  interval : ∃ n, Denotes (2 ^ 64 - 1) 10 (lookup "REQUEUE_INTERVAL_SECS") n ∧
    s.requeueInterval.nanos = n * 1000000000
  concurrency : Denotes (2 ^ 16 - 1) 3 (lookup "RECONCILE_CONCURRENCY") s.reconcileConcurrency
  port : Denotes (2 ^ 16 - 1) 8080 (lookup "METRICS_PORT") s.metricsPort
  region : ∀ t, s.awsRegion = some t ↔ Given (lookup "AWS_REGION") t
  gateway : ∀ t, s.defaultGatewayId = some t ↔ Given (lookup "DEFAULT_GATEWAY_ID") t
  watched : ∀ t, s.watchNamespace = some t ↔ Given (lookup "WATCH_NAMESPACE") t
  endpoint : ∀ t, s.agentcoreEndpoint = some t ↔ Given (lookup "BEDROCK_AGENTCORE_ENDPOINT") t

/-! ## What is read -/

section Reading

variable {lookup lookup' : String → Option String} {name : String} {bound fallback n : Nat}

lemma nonBlank?_eq_some_iff_given (value : Option String) (t : String) :
    value.bind Text.nonBlank? = some t ↔ Given value t := by
  simp only [Option.bind_eq_some_iff, Text.nonBlank?_eq_some_iff, Given]

lemma nonBlank?_eq_none_iff_unset (value : Option String) :
    value.bind Text.nonBlank? = none ↔ Unset value := by
  simp only [Option.bind_eq_none_iff, Text.nonBlank?_eq_none_iff, Unset]

lemma number_eq_ok_iff :
    number lookup name bound fallback = .ok n ↔ Denotes bound fallback (lookup name) n := by
  unfold number
  cases hvalue : (lookup name).bind Text.nonBlank? with
  | none =>
    have hunset : Unset (lookup name) := (nonBlank?_eq_none_iff_unset _).mp hvalue
    constructor
    · rintro ⟨⟩
      exact .unset hunset
    · rintro (_ | ⟨hgiven, -, -⟩)
      · rfl
      · rw [← nonBlank?_eq_some_iff_given, hvalue] at hgiven
        cases hgiven
  | some t =>
    have hgiven : Given (lookup name) t := (nonBlank?_eq_some_iff_given _ t).mp hvalue
    have hdenotes : Denotes bound fallback (lookup name) n ↔ Text.readNat bound t = .ok n := by
      rw [Text.readNat_eq_ok_iff]
      constructor
      · rintro (hunset | ⟨hgiven', hn, hbound⟩)
        · rw [← nonBlank?_eq_none_iff_unset, hvalue] at hunset
          cases hunset
        · rw [← nonBlank?_eq_some_iff_given, hvalue] at hgiven'
          exact Option.some.inj hgiven' ▸ ⟨hn, hbound⟩
      · exact fun h => .numeral hgiven h.1 h.2
    rw [hdenotes]
    dsimp only
    cases Text.readNat bound t with
    | ok n' => simp
    | error e => simp

lemma positive_eq_ok_iff : positive lookup name bound fallback = .ok n ↔
    Denotes bound fallback (lookup name) n ∧ n ≠ 0 := by
  rw [← number_eq_ok_iff]
  cases hnumber : number lookup name bound fallback with
  | error e =>
    have hpositive : positive lookup name bound fallback = .error e := by
      simp only [positive, hnumber]
      rfl
    simp [hpositive]
  | ok m =>
    have hpositive : positive lookup name bound fallback =
        if m = 0 then .error (.zero name) else .ok m := by
      simp only [positive, hnumber]
      rfl
    rw [hpositive]
    by_cases hzero : m = 0
    · simp [hzero, eq_comm]
    · simp only [hzero, if_false, Except.ok.injEq, iff_self_and]
      rintro rfl
      exact hzero

/-- The settings, when their numbers have been read. -/
def withNumbers (lookup : String → Option String) (interval concurrency port : Nat) : Settings where
  awsRegion := (lookup "AWS_REGION").bind Text.nonBlank?
  defaultGatewayId := (lookup "DEFAULT_GATEWAY_ID").bind Text.nonBlank?
  watchNamespace := (lookup "WATCH_NAMESPACE").bind Text.nonBlank?
  requeueInterval := .ofSeconds interval
  metricsPort := port
  agentcoreEndpoint := (lookup "BEDROCK_AGENTCORE_ENDPOINT").bind Text.nonBlank?
  reconcileConcurrency := concurrency

lemma read_eq_ok_iff {s : Settings} : read lookup = .ok s ↔ ∃ interval concurrency port,
    positive lookup "REQUEUE_INTERVAL_SECS" largest64 10 = .ok interval ∧
      positive lookup "RECONCILE_CONCURRENCY" largest16 3 = .ok concurrency ∧
      number lookup "METRICS_PORT" largest16 8080 = .ok port ∧
      withNumbers lookup interval concurrency port = s := by
  unfold read
  cases positive lookup "REQUEUE_INTERVAL_SECS" largest64 10 with
  | error e => simp [bind, Except.bind]
  | ok interval =>
    cases positive lookup "RECONCILE_CONCURRENCY" largest16 3 with
    | error e => simp [bind, Except.bind]
    | ok concurrency =>
      cases number lookup "METRICS_PORT" largest16 8080 with
      | error e => simp [bind, Except.bind]
      | ok port => simp [bind, Except.bind, pure, Except.pure, withNumbers]

/-- The numbers that are accepted do not exceed the longest duration. -/
lemma ofSeconds_nanos (h : n ≤ 2 ^ 64 - 1) : (Duration.ofSeconds n).nanos = n * 1000000000 := by
  have hlongest : maxDurationNanos = 2 ^ 64 * 1000000000 - 1 := by decide
  simp only [Duration.ofSeconds, Duration.nanos_ofNanos, nanosPerSecond, hlongest]
  omega

lemma Denotes.le {value : Option String} (h : Denotes bound fallback value n)
    (hfallback : fallback ≤ bound) : n ≤ bound := by
  cases h with
  | unset _ => exact hfallback
  | numeral _ _ hbound => exact hbound

lemma reflects_of_read {s : Settings} (h : read lookup = .ok s) : Reflects lookup s := by
  obtain ⟨interval, concurrency, port, hinterval, hconcurrency, hport, rfl⟩ := read_eq_ok_iff.mp h
  obtain ⟨hinterval, -⟩ := positive_eq_ok_iff.mp hinterval
  obtain ⟨hconcurrency, -⟩ := positive_eq_ok_iff.mp hconcurrency
  exact {
    interval := ⟨interval, hinterval, ofSeconds_nanos (hinterval.le (by decide))⟩
    concurrency := hconcurrency
    port := number_eq_ok_iff.mp hport
    region := nonBlank?_eq_some_iff_given _
    gateway := nonBlank?_eq_some_iff_given _
    watched := nonBlank?_eq_some_iff_given _
    endpoint := nonBlank?_eq_some_iff_given _ }

/-- The settings are accepted in well-formed surroundings and in no others. -/
lemma exists_read_iff : (∃ s, read lookup = .ok s) ↔ WellFormed lookup := by
  constructor
  · rintro ⟨s, h⟩
    obtain ⟨interval, concurrency, port, hinterval, hconcurrency, hport, -⟩ := read_eq_ok_iff.mp h
    exact {
      interval := ⟨interval, positive_eq_ok_iff.mp hinterval⟩
      concurrency := ⟨concurrency, positive_eq_ok_iff.mp hconcurrency⟩
      port := ⟨port, number_eq_ok_iff.mp hport⟩ }
  · rintro ⟨⟨interval, hinterval⟩, ⟨concurrency, hconcurrency⟩, port, hport⟩
    exact ⟨_, read_eq_ok_iff.mpr ⟨interval, concurrency, port, positive_eq_ok_iff.mpr hinterval,
      positive_eq_ok_iff.mpr hconcurrency, number_eq_ok_iff.mpr hport, rfl⟩⟩

/-- Whatever a text holds is trimmed, so a default gateway that is given is fit for use, and so is
one that a resource names. -/
lemma trimmed_of_resolveGateway {s : Settings} (h : Reflects lookup s) {spec : Spec}
    {gatewayId : String}
    (hresolve : Registration.resolveGateway s.defaultGatewayId spec = .ok gatewayId) :
    gatewayId ≠ "" ∧ Text.Trimmed gatewayId.toList := by
  rcases Registration.resolves_of_resolveGateway hresolve with
    ⟨given, -, hblank, rfl⟩ | ⟨-, hdefault, -⟩
  · have htext : (Text.trim given).toList = Text.trimChars given.toList := String.toList_ofList
    exact ⟨hblank, htext ▸ Text.trimmed_trim given.toList⟩
  · obtain ⟨text, -, hholds⟩ := (h.gateway gatewayId).mp hdefault
    exact ⟨hholds.nonempty, hholds.trimmed⟩

/-! ## What matters -/

lemma nonBlank?_congr {value value' : Option String}
    (h : ∀ t, Given value t ↔ Given value' t) :
    value.bind Text.nonBlank? = value'.bind Text.nonBlank? := by
  ext t
  rw [nonBlank?_eq_some_iff_given, nonBlank?_eq_some_iff_given]
  exact h t

lemma read_congr (h : ∀ name ∈ names, ∀ t, Given (lookup name) t ↔ Given (lookup' name) t) :
    read lookup = read lookup' := by
  have hsame : ∀ name ∈ names,
      (lookup name).bind Text.nonBlank? = (lookup' name).bind Text.nonBlank? :=
    fun name hname => nonBlank?_congr (h name hname)
  simp only [names, List.forall_mem_cons] at hsame
  simp only [read, positive, number, hsame]

end Reading

/-- The settings are accepted in well-formed surroundings and in no others, and then they are those
that are given: the numbers are those of their numerals, or the fallbacks, the texts are without the
blanks around them, and every gateway that a specification comes to with the default one among them
is neither empty nor begins or ends with a blank.  It makes no difference which blanks surround a
text, or whether a blank one is given at all: the settings, or the fault, are the same. -/
theorem read_exact (lookup : String → Option String) :
    ((∃ s, read lookup = .ok s) ↔ WellFormed lookup) ∧
      (∀ s, read lookup = .ok s → Reflects lookup s ∧ ∀ spec gatewayId,
        Registration.resolveGateway s.defaultGatewayId spec = .ok gatewayId →
          gatewayId ≠ "" ∧ Text.Trimmed gatewayId.toList) ∧
      ∀ lookup' : String → Option String,
        (∀ name ∈ names, ∀ t, Given (lookup name) t ↔ Given (lookup' name) t) →
          read lookup' = read lookup := by
  refine ⟨exists_read_iff, fun s hread => ?_, fun lookup' hsame => (read_congr hsame).symm⟩
  have hreflects := reflects_of_read hread
  exact ⟨hreflects, fun spec gatewayId => trimmed_of_resolveGateway hreflects⟩

/-- A number may carry a sign and zeros, and have a wide blank before it; a fault is reported with
the text that has been trimmed. -/
example : [(some "\u2003+0080 "), (some " 65536"), none].map (fun value =>
      (read fun name => if name = "METRICS_PORT" then value else none).map (·.metricsPort)) =
    [.ok 80, .error (.unreadable "METRICS_PORT" "65536" .tooLarge), .ok 8080] := by
  decide +kernel

end TargetRegistrar.Settings
