import Mathlib.Data.List.Nodup
import Mathlib.Tactic.Common
import TargetRegistrar.Json

/-!
# Written records

A writer of records lists the fields in their order, each with its value or with nothing, and the
object holds those that are present (`ofMembers`).  A reader that knows the same fields gets that
very list back (`fields?_ofMembers`).  So whether a record is read as it was written is a question
about its single fields: `optional?_map`, `list?_map` and their like are about those.
-/

namespace TargetRegistrar.Json

variable {name : String}

/-! ## Members -/

section Members

variable {ms : List (String × Json)}

lemma findMember_eq_none (h : name ∉ ms.map Prod.fst) : findMember name ms = none := by
  induction ms with
  | nil => rfl
  | cons m ms ih =>
    rw [List.map_cons, List.mem_cons, not_or] at h
    simp [findMember, Ne.symm h.1, ih h.2]

lemma occurrences_eq_zero (h : name ∉ ms.map Prod.fst) : occurrences name ms = 0 := by
  refine List.countP_eq_zero.mpr fun m hm => ?_
  have hne : m.1 ≠ name := fun heq => h (heq ▸ List.mem_map_of_mem hm)
  simpa using hne

lemma occurrences_le_one (h : (ms.map Prod.fst).Nodup) : occurrences name ms ≤ 1 := by
  induction ms with
  | nil => exact Nat.zero_le 1
  | cons m ms ih =>
    obtain ⟨hnew, hrest⟩ := List.nodup_cons.mp h
    have hcons : occurrences name (m :: ms) =
        occurrences name ms + if m.1 = name then 1 else 0 := by
      simp [occurrences, List.countP_cons]
    by_cases hm : m.1 = name
    · have hnone : occurrences name ms = 0 := occurrences_eq_zero (hm ▸ hnew)
      simp [hcons, hnone, hm]
    · rw [hcons, if_neg hm]
      exact ih hrest

end Members

/-! ## Listed fields -/

section Present

variable {ms : List (String × Option Json)}

/-- The members of a record whose values are present. -/
def present (ms : List (String × Option Json)) : List (String × Json) :=
  ms.filterMap fun m => m.2.map fun value => (m.1, value)

@[simp] lemma present_cons_some {value : Json} :
    present ((name, some value) :: ms) = (name, value) :: present ms :=
  rfl

lemma ofMembers_eq : ofMembers ms = obj (present ms) :=
  rfl

lemma present_names_sublist : ((present ms).map Prod.fst).Sublist (ms.map Prod.fst) := by
  induction ms with
  | nil => exact List.Sublist.refl []
  | cons m ms ih =>
    obtain ⟨named, _ | value⟩ := m
    · exact ih.cons named
    · exact ih.cons_cons named

lemma present_nodup (h : (ms.map Prod.fst).Nodup) : ((present ms).map Prod.fst).Nodup :=
  h.sublist present_names_sublist

/-- What was listed under a name is found under it. -/
lemma findMember_present (h : (ms.map Prod.fst).Nodup) {m : String × Option Json} (hm : m ∈ ms) :
    findMember m.1 (present ms) = m.2 := by
  induction ms with
  | nil => cases hm
  | cons m' ms ih =>
    obtain ⟨hnew, hrest⟩ := List.nodup_cons.mp h
    obtain ⟨named, value⟩ := m'
    rcases List.mem_cons.mp hm with rfl | hlater
    · cases value with
      | none => exact findMember_eq_none fun hmem => hnew (present_names_sublist.subset hmem)
      | some value => simp [findMember]
    · have hne : named ≠ m.1 := fun heq => hnew (List.mem_map.mpr ⟨m, hlater, heq.symm⟩)
      cases value with
      | none => exact ih hrest hlater
      | some value => simpa [findMember, hne] using ih hrest hlater

lemma mem_of_findMember_present {value : Json} (h : findMember name (present ms) = some value) :
    (name, some value) ∈ ms := by
  induction ms with
  | nil => cases h
  | cons m ms ih =>
    obtain ⟨named, _ | value'⟩ := m
    · exact List.mem_cons_of_mem _ (ih h)
    · by_cases hnamed : named = name
      · obtain rfl : value' = value := by simpa [findMember, hnamed] using h
        exact hnamed ▸ List.mem_cons_self
      · exact List.mem_cons_of_mem _ (ih (by simpa [findMember, hnamed] using h))

/-- Nothing is found that was not listed. -/
lemma findMember_present_iff (h : (ms.map Prod.fst).Nodup) {value : Json} :
    findMember name (present ms) = some value ↔ (name, some value) ∈ ms :=
  ⟨mem_of_findMember_present, fun hm => findMember_present h hm⟩

end Present

/-! ## Records -/

section Records

variable {fields : List Field}

/-- In an object that has no field twice, the fields are found by their names. -/
lemma fields?_obj {ms : List (String × Json)} (h : ∀ f ∈ fields, occurrences f.name ms ≤ 1) :
    fields? fields (obj ms) = some ((fields.map (·.name)).map (findMember · ms)) := by
  have hall : (fields.all fun f => occurrences f.name ms ≤ 1) = true := by simpa using h
  rw [fields?, if_pos hall, List.map_map]
  rfl

/-- A record is read as the values that were listed, if it was written by the same names. -/
theorem fields?_ofMembers {ms : List (String × Option Json)} (h : (fields.map (·.name)).Nodup)
    (hnames : fields.map (·.name) = ms.map Prod.fst) :
    fields? fields (ofMembers ms) = some (ms.map Prod.snd) := by
  rw [hnames] at h
  have hfound : (ms.map Prod.fst).map (findMember · (present ms)) = ms.map Prod.snd := by
    rw [List.map_map]
    exact List.map_congr_left fun m hm => findMember_present h hm
  rw [ofMembers_eq, fields?_obj fun _ _ => occurrences_le_one (present_nodup h), hnames, hfound]

end Records

/-! ## Single fields -/

section Values

variable {α : Type} {value? : Json → Option α} {write : α → Json}

lemma nullable?_of_eq_some {j : Json} {a : α} (hnull : j ≠ null) (h : value? j = some a) :
    nullable? value? j = some (some a) := by
  cases j with
  | null => exact absurd rfl hnull
  | _ => exact congrArg (Option.map some) h

/-- An option is read as it was written, if its value is and is never written `null`. -/
lemma optional?_map {o : Option α} (hnull : ∀ a, write a ≠ null)
    (h : ∀ a ∈ o, value? (write a) = some a) : optional? value? (o.map write) = some o := by
  cases o with
  | none => rfl
  | some a => exact nullable?_of_eq_some (hnull a) (h a rfl)

/-- A list is read as it was written, if its items are. -/
lemma list?_map {as : List α} (h : ∀ a ∈ as, value? (write a) = some a) :
    list? value? (arr (as.map write)) = some as := by
  show (as.map write).mapM value? = some as
  induction as with
  | nil => rfl
  | cons a as ih =>
    obtain ⟨hfirst, hrest⟩ := List.forall_mem_cons.mp h
    simp [List.mapM_cons, hfirst, ih hrest]

@[simp] lemma text?_str (s : String) : text? (str s) = some s :=
  rfl

@[simp] lemma texts?_ofTexts (texts : List String) : list? text? (ofTexts texts) = some texts :=
  list?_map fun s _ => text?_str s

/-- The integers that fit in 64 bits with a sign. -/
def FitsIn64Bits (n : Int) : Prop :=
  -9223372036854775808 ≤ n ∧ n < 9223372036854775808

lemma int64?_int {n : Int} (h : FitsIn64Bits n) : int64? (int n) = some n :=
  if_pos h

end Values

end TargetRegistrar.Json
