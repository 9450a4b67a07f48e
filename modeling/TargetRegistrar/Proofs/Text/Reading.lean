import Mathlib.Data.List.TakeWhile
import Mathlib.Tactic.Common
import TargetRegistrar.Text

/-!
# What a text holds

Two readers, and what they accept.  To trim a text removes blanks at its two ends and nothing else,
and leaves none there, which fixes what is left (`nonBlank?_eq_some_iff`).  A number is read from
digits after an optional plus sign, provided that it is within a bound.  The reader refuses at the
first prefix of the digits whose value is out of bounds, which is the same as to refuse the whole
number, for no digit makes a number smaller (`readNat_eq_ok_iff`).
-/

namespace TargetRegistrar.Text

/-! ## Blanks at the ends -/

/-- The text `s` is the text `t` among blanks, and `t` neither begins nor ends with one. -/
structure Holds (s t : String) : Prop where
  among : ∃ before after : List Char, s.toList = before ++ t.toList ++ after ∧
    (∀ c ∈ before, isBlank c = true) ∧ ∀ c ∈ after, isBlank c = true
  trimmed : Trimmed t.toList
  nonempty : t ≠ ""

lemma trimStart_append {before : List Char} (h : ∀ c ∈ before, isBlank c = true)
    (cs : List Char) : trimStart (before ++ cs) = trimStart cs :=
  List.dropWhile_append_of_pos h

lemma exists_append_trimStart (cs : List Char) :
    ∃ before, cs = before ++ trimStart cs ∧ ∀ c ∈ before, isBlank c = true :=
  ⟨cs.takeWhile isBlank, List.takeWhile_append_dropWhile.symm, fun _ => List.mem_takeWhile_imp⟩

/-- Nothing but blanks is removed. -/
lemma exists_append_trimChars (cs : List Char) :
    ∃ before after, cs = before ++ trimChars cs ++ after ∧
      (∀ c ∈ before, isBlank c = true) ∧ ∀ c ∈ after, isBlank c = true := by
  obtain ⟨before, hfront, hbefore⟩ := exists_append_trimStart cs
  obtain ⟨after, hback, hafter⟩ := exists_append_trimStart (trimStart cs).reverse
  refine ⟨before, after.reverse, ?_, hbefore, by simpa using hafter⟩
  have hrest : trimStart cs = trimChars cs ++ after.reverse := by
    rw [trimChars, ← List.reverse_append, ← hback, List.reverse_reverse]
  rw [List.append_assoc, ← hrest]
  exact hfront

/-- All blanks around a trimmed text are removed. -/
lemma trimChars_of_trimmed {before after cs : List Char} (hbefore : ∀ c ∈ before, isBlank c = true)
    (hafter : ∀ c ∈ after, isBlank c = true) (hcs : Trimmed cs) (hne : cs ≠ []) :
    trimChars (before ++ cs ++ after) = cs := by
  obtain ⟨hhead, hlast⟩ := hcs
  have hfirst : (cs ++ after).head? = cs.head? := by
    cases cs with
    | nil => exact absurd rfl hne
    | cons c cs => rfl
  have hfront : trimStart (before ++ cs ++ after) = cs ++ after := by
    rw [List.append_assoc, trimStart_append hbefore]
    apply trimStart_eq_self
    rwa [hfirst]
  have hback : trimStart (cs ++ after).reverse = cs.reverse := by
    rw [List.reverse_append, trimStart_append (by simpa using hafter)]
    apply trimStart_eq_self
    rwa [List.head?_reverse]
  rw [trimChars, hfront, hback, List.reverse_reverse]

lemma trim_eq_empty_iff (s : String) : trim s = "" ↔ ∀ c ∈ s.toList, isBlank c = true := by
  rw [← String.toList_inj, trim, String.toList_ofList, String.toList_empty]
  constructor
  · intro hnil
    obtain ⟨before, after, hs, hbefore, hafter⟩ := exists_append_trimChars s.toList
    rw [hs, hnil, List.append_nil]
    exact fun c hc => (List.mem_append.mp hc).elim (hbefore c) (hafter c)
  · intro hblank
    have hfront : trimStart s.toList = [] := List.dropWhile_eq_nil_iff.mpr hblank
    rw [trimChars, hfront]
    rfl

lemma nonBlank?_eq_none_iff (s : String) :
    nonBlank? s = none ↔ ∀ c ∈ s.toList, isBlank c = true := by
  rw [← trim_eq_empty_iff]
  simp [nonBlank?]

/-- What is left of a text when it is trimmed is what it holds. -/
lemma nonBlank?_eq_some_iff (s t : String) : nonBlank? s = some t ↔ Holds s t := by
  have htrim : nonBlank? s = some t ↔ trim s ≠ "" ∧ trim s = t := by
    by_cases hblank : trim s = ""
    · simp [nonBlank?, hblank]
    · simp [nonBlank?, hblank]
  rw [htrim]
  constructor
  · rintro ⟨hne, rfl⟩
    have htext : (trim s).toList = trimChars s.toList := String.toList_ofList
    refine ⟨?_, ?_, hne⟩
    · rw [htext]
      exact exists_append_trimChars s.toList
    · rw [htext]
      exact trimmed_trim s.toList
  · rintro ⟨⟨before, after, hs, hbefore, hafter⟩, htrimmed, hne⟩
    have hchars : trimChars s.toList = t.toList := by
      rw [hs]
      exact trimChars_of_trimmed hbefore hafter htrimmed (by simpa using hne)
    have heq : trim s = t := by rw [trim, hchars, String.ofList_toList]
    exact ⟨heq ▸ hne, heq⟩

/-! ## Digits -/

lemma isDigit_of_core {c : Char} (h : c.isDigit = true) : isDigit c = true := by
  have hrange : '0' ≤ c ∧ c ≤ '9' := by
    simp only [Char.isDigit, Bool.and_eq_true, decide_eq_true_eq] at h
    exact h
  simp [isDigit, digit?, hrange]

lemma digit?_of_isDigit {c : Char} (h : isDigit c = true) :
    digit? c = some (c.toNat - '0'.toNat) := by
  by_cases hrange : '0' ≤ c ∧ c ≤ '9'
  · simp [digit?, hrange]
  · simp [isDigit, digit?, hrange] at h

lemma digit?_eq_none {c : Char} (h : c.isDigit = false) : digit? c = none := by
  have hrange : ¬ ('0' ≤ c ∧ c ≤ '9') := by
    intro hrange
    simp only [Char.isDigit, Bool.and_eq_false_iff, decide_eq_false_iff_not] at h
    exact h.elim (absurd hrange.1) (absurd hrange.2)
  simp [digit?, hrange]

/-! ## Numerals -/

/-- The text is a numeral of the number: one or more digits after an optional plus sign. -/
def IsNumeral (s : String) (n : Nat) : Prop :=
  ∃ digits : List Char, (s.toList = digits ∨ s.toList = '+' :: digits) ∧ digits ≠ [] ∧
    (∀ c ∈ digits, c.isDigit = true) ∧ Nat.ofDigitChars 10 digits 0 = n

/-- Digits do not make a number smaller. -/
lemma le_ofDigitChars (cs : List Char) (value : Nat) : value ≤ Nat.ofDigitChars 10 cs value := by
  induction cs generalizing value with
  | nil => exact Nat.le_refl value
  | cons c cs ih =>
    rw [Nat.ofDigitChars_cons]
    have hrest := ih (10 * value + (c.toNat - '0'.toNat))
    omega

/-- A number is within the bound with all its digits if it is so when the last of them is read. -/
lemma readDigits_eq_ok_iff {bound value n : Nat} (h : value ≤ bound) (cs : List Char) :
    readDigits bound value cs = .ok n ↔
      (∀ c ∈ cs, c.isDigit = true) ∧ Nat.ofDigitChars 10 cs value = n ∧ n ≤ bound := by
  induction cs generalizing value with
  | nil =>
    simp only [readDigits, Except.ok.injEq, Nat.ofDigitChars_nil]
    constructor
    · rintro rfl
      exact ⟨by simp, rfl, h⟩
    · exact fun hn => hn.2.1
  | cons c cs ih =>
    rw [readDigits, Nat.ofDigitChars_cons, List.forall_mem_cons]
    by_cases hc : c.isDigit = true
    · rw [digit?_of_isDigit (isDigit_of_core hc)]
      by_cases hbound : bound < 10 * value + (c.toNat - '0'.toNat)
      · have hle := le_ofDigitChars cs (10 * value + (c.toNat - '0'.toNat))
        simp only [hbound, if_true, reduceCtorEq, false_iff]
        rintro ⟨-, rfl, hn⟩
        omega
      · simp only [hbound, if_false, hc, true_and]
        exact ih (by omega)
    · rw [digit?_eq_none (by simpa using hc)]
      simp [hc]

/-- The digits of a numeral: a plus sign in front is none of them. -/
def unsigned : List Char → List Char
  | '+' :: cs => cs
  | cs => cs

lemma unsigned_of_ne {c : Char} (h : c ≠ '+') (cs : List Char) : unsigned (c :: cs) = c :: cs := by
  simp [unsigned, h]

lemma isNumeral_iff (s : String) (n : Nat) : IsNumeral s n ↔ unsigned s.toList ≠ [] ∧
    (∀ c ∈ unsigned s.toList, c.isDigit = true) ∧
      Nat.ofDigitChars 10 (unsigned s.toList) 0 = n := by
  constructor
  · rintro ⟨digits, hs | hs, hne, hall, hn⟩
    · -- a plus sign in front would be no digit
      have hunsigned : unsigned s.toList = digits := by
        rw [hs]
        cases digits with
        | nil => rfl
        | cons c cs =>
          have hc : c.isDigit = true := hall c List.mem_cons_self
          exact unsigned_of_ne (fun hplus => by simp [hplus] at hc) cs
      rw [hunsigned]
      exact ⟨hne, hall, hn⟩
    · have hunsigned : unsigned s.toList = digits := by rw [hs]; rfl
      rw [hunsigned]
      exact ⟨hne, hall, hn⟩
  · rintro ⟨hne, hall, hn⟩
    refine ⟨unsigned s.toList, ?_, hne, hall, hn⟩
    unfold unsigned
    split
    · next hs => exact .inr hs
    · exact .inl rfl

lemma readNat_eq (bound : Nat) (s : String) : readNat bound s =
    if unsigned s.toList = [] then .error .notADigit
    else readDigits bound 0 (unsigned s.toList) := by
  unfold readNat
  rcases s.toList with _ | ⟨sign, _ | ⟨c, cs⟩⟩
  · rfl
  · by_cases hsign : sign = '+'
    · subst hsign
      rfl
    · simp [unsigned_of_ne hsign, hsign]
  · by_cases hsign : sign = '+'
    · subst hsign
      rfl
    · simp [unsigned_of_ne hsign, hsign]

/-- The numbers that are read are those with a numeral, within the bound. -/
lemma readNat_eq_ok_iff (bound n : Nat) (s : String) :
    readNat bound s = .ok n ↔ IsNumeral s n ∧ n ≤ bound := by
  rw [readNat_eq, isNumeral_iff]
  by_cases hnone : unsigned s.toList = []
  · simp [hnone]
  · rw [if_neg hnone, readDigits_eq_ok_iff (Nat.zero_le bound)]
    simp only [ne_eq, hnone, not_false_eq_true, true_and, and_assoc]

end TargetRegistrar.Text
