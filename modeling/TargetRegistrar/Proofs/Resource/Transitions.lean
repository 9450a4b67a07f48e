import Mathlib.Data.List.Induction
import Mathlib.Data.List.Nodup
import Mathlib.Tactic.Common
import TargetRegistrar.Store.InMemory

/-!
# Conditions over time

A list of conditions holds what was last observed of each aspect, and since when the verdict on it
is what it is.  Both are read off the history of the list: the conditions that it started with and
those that were set, in their order.

A condition that is set replaces the one of its type, so the types stand in the order in which they
first appeared.  The time of a transition goes back to the first condition of the last run of one
verdict: a condition with the verdict of the one before it makes that run longer, and takes over its
time (`SumsUp.succeeding`).  What was set of other types in between makes no difference.
-/

namespace TargetRegistrar.Condition

/-- The list after some conditions have been set, one after the other. -/
def setAll (conditions later : List Condition) : List Condition :=
  later.foldl (fun cs new => set new cs) conditions

/-- The part of a history that is about one type. -/
def ofType (type : String) (history : List Condition) : List Condition :=
  history.filter (·.type = type)

/-- The longest run of conditions with one verdict at the end of a history. -/
structure IsTrailingRun (history run : List Condition) (verdict : Verdict) : Prop where
  suffix : run <:+ history
  alike : ∀ c ∈ run, c.verdict = verdict
  longest : ∀ other, other <:+ history → (∀ c ∈ other, c.verdict = verdict) → other <:+ run

/-- What a history of one type comes to: its last condition, but with the time of the first one in
the longest run of the same verdict at its end. -/
structure SumsUp (history : List Condition) (c : Condition) : Prop where
  last : ∃ last, history.getLast? = some last ∧ c = { last with lastTransition := c.lastTransition }
  since : ∃ run first, IsTrailingRun history run c.verdict ∧ run.head? = some first ∧
    c.lastTransition = first.lastTransition

section Histories

variable {history run : List Condition} {c new : Condition} {verdict : Verdict} {type : String}

/-! ## One more condition -/

lemma IsTrailingRun.extended (h : IsTrailingRun history run verdict)
    (hnew : new.verdict = verdict) : IsTrailingRun (history ++ [new]) (run ++ [new]) verdict where
  suffix := List.suffix_concat_iff.mpr (.inr ⟨run, rfl, h.suffix⟩)
  alike := by
    intro c hc
    rcases List.mem_append.mp hc with hold | hlast
    · exact h.alike c hold
    · obtain rfl := List.mem_singleton.mp hlast
      exact hnew
  longest := by
    intro other hother halike
    rcases List.suffix_concat_iff.mp hother with rfl | ⟨shorter, rfl, hshorter⟩
    · exact List.nil_suffix
    · have hrun := h.longest shorter hshorter fun c hc => halike c (List.mem_append_left _ hc)
      exact List.suffix_concat_iff.mpr (.inr ⟨shorter, rfl, hrun⟩)

/-- A verdict that differs from the last one starts a run of its own. -/
lemma isTrailingRun_of_changed
    (h : ∀ last, history.getLast? = some last → last.verdict ≠ new.verdict) :
    IsTrailingRun (history ++ [new]) [new] new.verdict where
  suffix := List.suffix_append history [new]
  alike := by
    intro c hc
    obtain rfl := List.mem_singleton.mp hc
    rfl
  longest := by
    intro other hother halike
    rcases List.suffix_concat_iff.mp hother with rfl | ⟨shorter, rfl, hshorter⟩
    · exact List.nil_suffix
    · -- a longer suffix would take in the last condition of the history, whose verdict differs
      obtain rfl | ⟨front, last, rfl⟩ := List.eq_nil_or_concat' shorter
      · exact List.suffix_refl _
      · obtain ⟨before, rfl⟩ := hshorter
        refine absurd (halike last (by simp)) (h last ?_)
        rw [← List.append_assoc, List.getLast?_concat]

lemma sumsUp_singleton (c : Condition) : SumsUp [c] c where
  last := ⟨c, rfl, rfl⟩
  since := by
    have hrun : IsTrailingRun ([] ++ [c]) [c] c.verdict :=
      isTrailingRun_of_changed fun last hlast => by cases hlast
    exact ⟨[c], c, hrun, rfl, rfl⟩

/-- Replacing the condition that sums up a history sums up the history that is one longer. -/
lemma SumsUp.succeeding (h : SumsUp history c) (new : Condition) :
    SumsUp (history ++ [new]) (succeeding c new) := by
  obtain ⟨last, hlast, hc⟩ := h.last
  have hverdict : c.verdict = last.verdict := by rw [hc]
  have hend : (history ++ [new]).getLast? = some new := List.getLast?_concat
  unfold Condition.succeeding
  split
  · -- the run goes on, and its first condition stays the same
    rename_i hsame
    obtain ⟨run, first, hrun, hfirst, htime⟩ := h.since
    have hextended : IsTrailingRun (history ++ [new]) (run ++ [new]) new.verdict :=
      hsame ▸ hrun.extended hsame.symm
    have hhead : (run ++ [new]).head? = some first := by
      rw [List.head?_append, hfirst, Option.some_or]
    exact ⟨⟨new, hend, rfl⟩, ⟨_, first, hextended, hhead, htime⟩⟩
  · -- the new condition is the first one of a run, and keeps its own time
    rename_i hdiffers
    have hchanged : IsTrailingRun (history ++ [new]) [new] new.verdict := by
      refine isTrailingRun_of_changed fun last' hlast' => ?_
      obtain rfl : last' = last := Option.some.inj (hlast'.symm.trans hlast)
      exact hverdict ▸ hdiffers
    exact ⟨⟨new, hend, rfl⟩, ⟨_, new, hchanged, rfl, rfl⟩⟩

/-! ## The types of a list -/

lemma set_of_new {cs : List Condition} (h : new.type ∉ cs.map Condition.type) :
    set new cs = cs ++ [new] := by
  induction cs with
  | nil => rfl
  | cons c cs ih =>
    rw [List.map_cons, List.mem_cons, not_or] at h
    rw [set, if_neg (Ne.symm h.1), ih h.2, List.cons_append]

/-- A type that is there keeps its place. -/
lemma types_set_of_mem {cs : List Condition} (h : new.type ∈ cs.map Condition.type) :
    (set new cs).map Condition.type = cs.map Condition.type := by
  induction cs with
  | nil => cases h
  | cons c cs ih =>
    by_cases hc : c.type = new.type
    · simp [set, hc]
    · have hlater : new.type ∈ cs.map Condition.type := by
        rw [List.map_cons, List.mem_cons] at h
        exact h.resolve_left (Ne.symm hc)
      rw [set, if_neg hc, List.map_cons, List.map_cons, ih hlater]

lemma nodup_types_concat {cs : List Condition} :
    ((cs ++ [new]).map Condition.type).Nodup ↔
      new.type ∉ cs.map Condition.type ∧ (cs.map Condition.type).Nodup := by
  rw [List.map_append, List.map_singleton, ← List.concat_eq_append, List.nodup_concat]

lemma eraseDups_concat (types : List String) (type : String) :
    (types ++ [type]).eraseDups =
      if type ∈ types then types.eraseDups else types.eraseDups ++ [type] := by
  rw [List.eraseDups_append]
  split
  · rename_i hmem
    simp [List.removeAll, hmem]
  · rename_i hnew
    simp [List.removeAll, hnew, List.eraseDups_cons]

/-! ## Whole histories -/

/-- The list is what has come of a history. -/
structure Reflects (history conditions : List Condition) : Prop where
  distinct : (conditions.map Condition.type).Nodup
  /-- The types are in the order in which they first appeared. -/
  types : conditions.map Condition.type = (history.map Condition.type).eraseDups
  found : ∀ type, type ∈ history.map Condition.type →
    ∃ c, find? type conditions = some c ∧ SumsUp (ofType type history) c
  missed : ∀ type, type ∉ history.map Condition.type → find? type conditions = none

lemma reflects_nil : Reflects [] [] where
  distinct := List.nodup_nil
  types := rfl
  found type htype := by cases htype
  missed type _ := rfl

lemma ofType_eq_nil (h : type ∉ history.map Condition.type) : ofType type history = [] := by
  refine List.filter_eq_nil_iff.mpr fun c hc hctype => h ?_
  exact of_decide_eq_true hctype ▸ List.mem_map_of_mem hc

lemma ofType_concat_self :
    ofType new.type (history ++ [new]) = ofType new.type history ++ [new] := by
  simp [ofType]

lemma ofType_concat_of_ne (h : new.type ≠ type) :
    ofType type (history ++ [new]) = ofType type history := by
  simp [ofType, h]

namespace Reflects

variable {conditions : List Condition}

lemma mem_types_iff (h : Reflects history conditions) (type : String) :
    type ∈ conditions.map Condition.type ↔ type ∈ history.map Condition.type := by
  rw [h.types, List.mem_eraseDups]

/-- What is set is found in the place of what it replaces. -/
lemma found_self (h : Reflects history conditions) (new : Condition) :
    ∃ c, find? new.type (set new conditions) = some c ∧
      SumsUp (ofType new.type (history ++ [new])) c := by
  rw [find?_set_self, ofType_concat_self]
  by_cases hold : new.type ∈ history.map Condition.type
  · obtain ⟨c, hc, hsums⟩ := h.found new.type hold
    refine ⟨Condition.succeeding c new, ?_, hsums.succeeding new⟩
    rw [hc]
    rfl
  · refine ⟨new, ?_, ?_⟩
    · rw [h.missed _ hold]
      rfl
    · rw [ofType_eq_nil hold]
      exact sumsUp_singleton new

lemma found_set (h : Reflects history conditions) (new : Condition) (type : String)
    (htype : type ∈ (history ++ [new]).map Condition.type) :
    ∃ c, find? type (set new conditions) = some c ∧
      SumsUp (ofType type (history ++ [new])) c := by
  by_cases hown : new.type = type
  · exact hown ▸ h.found_self new
  · have hold : type ∈ history.map Condition.type := by
      simpa [Ne.symm hown] using htype
    rw [find?_set_of_ne hown, ofType_concat_of_ne hown]
    exact h.found type hold

lemma missed_set (h : Reflects history conditions) (new : Condition) (type : String)
    (htype : type ∉ (history ++ [new]).map Condition.type) :
    find? type (set new conditions) = none := by
  rw [List.map_append, List.map_singleton, List.mem_append, List.mem_singleton, not_or] at htype
  rw [find?_set_of_ne (Ne.symm htype.2)]
  exact h.missed type htype.1

/-- What is set last is the last of its type, and nothing to the other types. -/
lemma set (h : Reflects history conditions) (new : Condition) :
    Reflects (history ++ [new]) (set new conditions) := by
  by_cases hold : new.type ∈ history.map Condition.type
  · have htypes := types_set_of_mem ((h.mem_types_iff new.type).mpr hold)
    refine ⟨htypes ▸ h.distinct, ?_, h.found_set new, h.missed_set new⟩
    rw [htypes, List.map_append, List.map_singleton, eraseDups_concat, if_pos hold, h.types]
  · have hnew := mt (h.mem_types_iff new.type).mp hold
    have hset := set_of_new hnew
    refine ⟨?_, ?_, h.found_set new, h.missed_set new⟩
    · rw [hset]
      exact nodup_types_concat.mpr ⟨hnew, h.distinct⟩
    · rw [hset, List.map_append, List.map_append, List.map_singleton, eraseDups_concat,
        if_neg hold, h.types]

end Reflects

lemma setAll_concat (conditions later : List Condition) (new : Condition) :
    setAll conditions (later ++ [new]) = Condition.set new (setAll conditions later) := by
  rw [setAll, List.foldl_append]
  rfl

lemma reflects_setAll (history : List Condition) : Reflects history (setAll [] history) := by
  induction history using List.reverseRecOn with
  | nil => exact reflects_nil
  | append_singleton earlier new ih =>
    rw [setAll_concat]
    exact ih.set new

/-- A list without a type twice is what comes of setting its own conditions. -/
lemma setAll_nil {conditions : List Condition} (h : (conditions.map Condition.type).Nodup) :
    setAll [] conditions = conditions := by
  induction conditions using List.reverseRecOn with
  | nil => rfl
  | append_singleton earlier new ih =>
    obtain ⟨hnew, hearlier⟩ := nodup_types_concat.mp h
    rw [setAll_concat, ih hearlier, set_of_new hnew]

/-- However often conditions are set on a list that has no type twice: it keeps one entry for each
type that was ever there, in the order in which they first appeared, and what is found of a type is
the last condition of it, as of the first one in the last run of its verdict. -/
theorem setAll_reflects_history (conditions later : List Condition)
    (h : (conditions.map Condition.type).Nodup) :
    Reflects (conditions ++ later) (setAll conditions later) := by
  have hall : setAll conditions later = setAll [] (conditions ++ later) := by
    calc setAll conditions later
        = setAll (setAll [] conditions) later := by rw [setAll_nil h]
      _ = setAll [] (conditions ++ later) := by rw [setAll, setAll, setAll, List.foldl_append]
  rw [hall]
  exact reflects_setAll _

end Histories

/-- An hour of a day. -/
def onTheHour (hour : Fin 24) : Timestamp :=
  { Store.deletionInstant with hour := hour, valid := ⟨hour.isLt, Store.deletionInstant.valid.2⟩ }

/-- What was observed of a type in an hour. -/
def observed (type : String) (verdict : Verdict) (reason : String) (hour : Fin 24) : Condition :=
  ⟨type, verdict, reason, "", onTheHour hour, none⟩

/-- Readiness is lost in the third hour, and stays lost when it is looked at again in the fifth;
that another type was set in between makes no difference. -/
theorem setAll_reflects_flips :
    (([observed "Ready" .holds "Made" 1] : List Condition).map Condition.type).Nodup ∧
    Reflects
      [observed "Ready" .holds "Made" 1, observed "Ready" .fails "Lost" 3,
        observed "Known" .fails "New" 4, observed "Ready" .fails "Down" 5]
      [observed "Ready" .fails "Down" 3, observed "Known" .fails "New" 4] := by
  have hnodup :
      (([observed "Ready" .holds "Made" 1] : List Condition).map Condition.type).Nodup := by
    decide
  have hreflects := setAll_reflects_history [observed "Ready" .holds "Made" 1]
    [observed "Ready" .fails "Lost" 3, observed "Known" .fails "New" 4,
      observed "Ready" .fails "Down" 5] hnodup
  have hresult : setAll [observed "Ready" .holds "Made" 1]
      [observed "Ready" .fails "Lost" 3, observed "Known" .fails "New" 4,
        observed "Ready" .fails "Down" 5] =
      [observed "Ready" .fails "Down" 3, observed "Known" .fails "New" 4] := by
    decide +kernel
  exact ⟨hnodup, hresult ▸ hreflects⟩

end TargetRegistrar.Condition
