import Mathlib.Algebra.Group.Nat.Defs
import Mathlib.Data.List.Basic
import Mathlib.Tactic.Common
import TargetRegistrar.Proofs.Text.Reading
import TargetRegistrar.Timestamp

/-!
# Instants that are written and read again

Numbers are written with a fixed number of places, so that a reader that takes as many digits as
there are finds the same number and the same rest (`numberOf?_padded`).  The pieces of an instant
are separated by marks that are neither digits nor blanks, and each reader leaves the next one what
the writer has put there.  `read?_write` puts the pieces together, for the years that are written
with four digits.
-/

namespace TargetRegistrar

/-! ## Digits -/

namespace Text

/-- Digits are no blanks. -/
lemma isBlank_of_isDigit {c : Char} (h : isDigit c = true) : isBlank c = false := by
  have hrange : '0' ≤ c ∧ c ≤ '9' := by
    by_contra hrange
    simp [isDigit, digit?, hrange] at h
  have hlow : 48 ≤ c.toNat := hrange.1
  have hhigh : c.toNat ≤ 57 := hrange.2
  simp only [isBlank, Bool.or_eq_false_iff, Bool.and_eq_false_iff, decide_eq_false_iff_not,
    beq_eq_false_iff_ne]
  omega

lemma digitsValue_eq_ofDigitChars {cs : List Char} (h : ∀ c ∈ cs, isDigit c = true) :
    digitsValue cs = Nat.ofDigitChars 10 cs 0 := by
  rw [Nat.ofDigitChars_eq_foldl, digitsValue]
  refine List.foldl_ext _ _ _ fun n c hc => ?_
  rw [digit?_of_isDigit (h c hc), Option.getD_some]

lemma toList_padded (width n : Nat) : (padded width n).toList =
    List.replicate (width - (Nat.toDigits 10 n).length) '0' ++ Nat.toDigits 10 n := by
  simp [padded, List.leftpad]

lemma isDigit_of_mem_padded {width n : Nat} {c : Char} (h : c ∈ (padded width n).toList) :
    isDigit c = true := by
  rw [toList_padded, List.mem_append] at h
  obtain hzero | hdigit := h
  · obtain rfl : c = '0' := List.eq_of_mem_replicate hzero
    decide
  · exact isDigit_of_core (Nat.isDigit_of_mem_toDigits (by decide) (by decide) hdigit)

lemma length_padded {width n : Nat} (hwidth : 0 < width) (h : n < 10 ^ width) :
    (padded width n).toList.length = width := by
  have hle : (Nat.toDigits 10 n).length ≤ width :=
    (Nat.length_toDigits_le_iff (by decide) hwidth).mpr h
  rw [toList_padded, List.length_append, List.length_replicate]
  omega

/-- Zeros on the left do not change the value. -/
lemma digitsValue_padded (width n : Nat) : digitsValue (padded width n).toList = n := by
  rw [digitsValue_eq_ofDigitChars fun c hc => isDigit_of_mem_padded hc, toList_padded,
    Nat.ofDigitChars_append, Nat.ofDigitChars_replicate_zero, Nat.mul_zero,
    Nat.ofDigitChars_toDigits (by decide) (by decide)]

end Text

/-! ## Pieces -/

namespace Timestamp

open TargetRegistrar.Text

section Pieces

variable {width n most : Nat} {ds rest : List Char} {c : Char}

/-- Digits are read as far as they go, if the bound lets them. -/
lemma digits?_append (hds : ∀ c ∈ ds, isDigit c = true) (hne : ds ≠ []) (hmost : ds.length ≤ most)
    (hrest : ds.length = most ∨ ∀ c ∈ rest.head?, isDigit c = false) :
    digits? most (ds ++ rest) = some (ds, rest) := by
  have htake : (ds ++ rest).take most = ds ++ rest.take (most - ds.length) := by
    rw [List.take_append, List.take_of_length_le hmost]
  have hstop : (rest.take (most - ds.length)).takeWhile isDigit = [] := by
    obtain hfull | hhead := hrest
    · rw [hfull, Nat.sub_self, List.take_zero, List.takeWhile_nil]
    · cases rest with
      | nil => simp
      | cons c rest =>
        have hc : isDigit c = false := hhead c rfl
        cases most - ds.length with
        | zero => rfl
        | succ k => simp [hc]
  have hdigits : ((ds ++ rest).take most).takeWhile isDigit = ds := by
    rw [htake, List.takeWhile_append_of_pos hds, hstop, List.append_nil]
  simp [digits?, hdigits, hne]

/-- A padded number begins with a digit. -/
lemma exists_padded_eq (hwidth : 0 < width) (h : n < 10 ^ width) :
    ∃ d ds, (padded width n).toList = d :: ds ∧ isDigit d = true := by
  have hlength := length_padded hwidth h
  have hdigit : ∀ c ∈ (padded width n).toList, isDigit c = true :=
    fun _ hc => isDigit_of_mem_padded hc
  cases hlist : (padded width n).toList with
  | nil =>
    rw [hlist, List.length_nil] at hlength
    omega
  | cons d ds => exact ⟨d, ds, rfl, hdigit d (by rw [hlist]; exact List.mem_cons_self)⟩

lemma trimStart_padded (hwidth : 0 < width) (h : n < 10 ^ width) (rest : List Char) :
    trimStart ((padded width n).toList ++ rest) = (padded width n).toList ++ rest := by
  obtain ⟨d, ds, hlist, hd⟩ := exists_padded_eq hwidth h
  refine trimStart_eq_self fun c hc => ?_
  rw [hlist] at hc
  obtain rfl : d = c := Option.some.inj hc
  exact isBlank_of_isDigit hd

lemma digits?_padded (hwidth : 0 < width) (h : n < 10 ^ width) (rest : List Char) :
    digits? width ((padded width n).toList ++ rest) = some ((padded width n).toList, rest) := by
  have hlength := length_padded hwidth h
  refine digits?_append (fun c hc => isDigit_of_mem_padded hc) ?_ (Nat.le_of_eq hlength)
    (.inl hlength)
  intro hnil
  rw [hnil, List.length_nil] at hlength
  omega

/-- A number of a fixed number of places is read as it was written. -/
lemma numberOf?_padded (hwidth : 0 < width) (h : n < 10 ^ width) (rest : List Char) :
    numberOf? width ((padded width n).toList ++ rest) = some (n, rest) := by
  simp [numberOf?, trimStart_padded hwidth h, digits?_padded hwidth h, digitsValue_padded]

lemma mark?_cons (hc : isBlank c = false) (rest : List Char) : mark? c (c :: rest) = some rest := by
  have htrim : trimStart (c :: rest) = c :: rest := by simp [trimStart, hc]
  simp [mark?, htrim]

/-- A year of four digits has no sign. -/
lemma year?_padded (h : n < 10 ^ 4) (rest : List Char) :
    year? ((padded 4 n).toList ++ rest) = some ((n : Int), rest) := by
  have hdigits := digits?_padded (by decide) h rest
  have htrim := trimStart_padded (by decide) h rest
  obtain ⟨d, ds, hlist, hd⟩ := exists_padded_eq (by decide : 0 < 4) h
  have hminus : d ≠ '-' := by
    rintro rfl
    exact absurd hd (by decide)
  have hplus : d ≠ '+' := by
    rintro rfl
    exact absurd hd (by decide)
  have hvalue := digitsValue_padded 4 n
  rw [hlist] at hdigits htrim hvalue ⊢
  rw [List.cons_append] at hdigits htrim ⊢
  unfold year?
  rw [htrim]
  split
  · rename_i heq
    exact absurd (List.cons.inj heq).1 hminus
  · rename_i heq
    exact absurd (List.cons.inj heq).1 hplus
  · simp [hdigits, hvalue]

/-- What follows a fraction is no digit. -/
lemma fraction?_of_digits (hds : ∀ c ∈ ds, isDigit c = true) (hne : ds ≠ [])
    (hlength : ds.length ≤ 9) (hrest : ∀ c ∈ rest.head?, isDigit c = false) :
    fraction? ('.' :: (ds ++ rest)) =
      some (digitsValue ds * 10 ^ (9 - ds.length), rest) := by
  have hdrop : rest.dropWhile isDigit = rest := by
    cases rest with
    | nil => rfl
    | cons c rest => simp [hrest c rfl]
  simp [fraction?, digits?_append hds hne hlength (.inr hrest), hdrop]

/-- The places of a fraction that are not written are zeros. -/
lemma fraction?_padded (hwidth : 0 < width) (hnine : width ≤ 9) (h : n < 10 ^ width)
    (hrest : ∀ c ∈ rest.head?, isDigit c = false) :
    fraction? ('.' :: ((padded width n).toList ++ rest)) = some (n * 10 ^ (9 - width), rest) := by
  have hlength := length_padded hwidth h
  have hne : (padded width n).toList ≠ [] := by
    intro hnil
    rw [hnil, List.length_nil] at hlength
    omega
  rw [fraction?_of_digits (fun c hc => isDigit_of_mem_padded hc) hne (by omega) hrest,
    digitsValue_padded, hlength]

end Pieces

lemma fraction?_writtenFraction {nanos : Nat} (h : nanos < 1000000000) :
    fraction? ((writtenFraction nanos).toList ++ ['Z']) = some (nanos, ['Z']) := by
  have hrest : ∀ c ∈ (['Z'] : List Char).head?, isDigit c = false := by
    intro c hc
    obtain rfl : 'Z' = c := Option.some.inj hc
    decide
  have hpoint (width n : Nat) : ("." ++ padded width n).toList ++ ['Z'] =
      '.' :: ((padded width n).toList ++ ['Z']) := by
    rw [String.toList_append]
    rfl
  unfold writtenFraction
  by_cases hzero : nanos = 0
  · rw [if_pos hzero, hzero]
    rfl
  · rw [if_neg hzero]
    by_cases hmillis : nanos % 1000000 = 0
    · have hvalue : nanos / 1000000 * 10 ^ (9 - 3) = nanos := by omega
      rw [if_pos hmillis, hpoint, fraction?_padded (by decide) (by decide) (by omega) hrest, hvalue]
    · rw [if_neg hmillis]
      by_cases hmicros : nanos % 1000 = 0
      · have hvalue : nanos / 1000 * 10 ^ (9 - 6) = nanos := by omega
        rw [if_pos hmicros, hpoint, fraction?_padded (by decide) (by decide) (by omega) hrest,
          hvalue]
      · have hvalue : nanos * 10 ^ (9 - 9) = nanos := by omega
        rw [if_neg hmicros, hpoint, fraction?_padded (by decide) (by decide) (by omega) hrest,
          hvalue]

/-! ## Whole instants -/

/-- The year is written with four digits. -/
def HasFourDigitYear (t : Timestamp) : Prop :=
  0 ≤ t.date.year ∧ t.date.year ≤ 9999

lemma toList_write {t : Timestamp} (h : t.HasFourDigitYear) :
    (t.write .exact).toList =
      (padded 4 t.date.year.toNat).toList ++ '-' :: ((padded 2 t.date.month).toList ++
        '-' :: ((padded 2 t.date.day).toList ++ 'T' :: ((padded 2 t.hour).toList ++
          ':' :: ((padded 2 t.minute).toList ++ ':' :: ((padded 2 t.second).toList ++
            ((writtenFraction t.nanos).toList ++ ['Z'])))))) := by
  have hyear : writtenYear t.date.year = padded 4 t.date.year.toNat := if_pos h
  simp [write, hyear]

lemma daysInMonth_le (year : Int) (month : Nat) : daysInMonth year month ≤ 31 := by
  unfold daysInMonth
  split
  · split <;> decide
  · split <;> decide

lemma date?_written {d : Date} (hyear : 0 ≤ d.year ∧ d.year ≤ 9999) (rest : List Char) :
    date? ((padded 4 d.year.toNat).toList ++ '-' :: ((padded 2 d.month).toList ++
      '-' :: ((padded 2 d.day).toList ++ rest))) = some (d, rest) := by
  obtain ⟨-, -, -, hmonth, -, hday⟩ := d.valid
  have hdays := daysInMonth_le d.year d.month
  have hy : d.year.toNat < 10 ^ 4 := by omega
  have hm : d.month < 10 ^ 2 := by omega
  have hd : d.day < 10 ^ 2 := by omega
  have hcast : ((d.year.toNat : Nat) : Int) = d.year := Int.toNat_of_nonneg hyear.1
  have hdash : isBlank '-' = false := by decide
  simp [date?, year?_padded hy, mark?_cons hdash, numberOf?_padded (by decide) hm,
    numberOf?_padded (by decide) hd, hcast, Date.mk?_self]

/-- Clocks in UTC show the instant itself. -/
lemma ofLocal?_zero (t : Timestamp) :
    ofLocal? t.date t.hour t.minute t.second t.nanos 0 = some t := by
  obtain ⟨hhour, hminute, -, -⟩ := t.valid
  have hnotBefore : ¬ (t.hour * 60 + t.minute : Int) - 0 < 0 := by omega
  have hnotAfter : ¬ (1440 : Int) ≤ (t.hour * 60 + t.minute : Int) - 0 := by omega
  have hshown : (((t.hour * 60 + t.minute : Int) - 0) % 1440).toNat = t.hour * 60 + t.minute := by
    omega
  have hhours : (t.hour * 60 + t.minute) / 60 = t.hour := by omega
  have hminutes : (t.hour * 60 + t.minute) % 60 = t.minute := by omega
  simp only [ofLocal?]
  rw [if_neg hnotBefore, if_neg hnotAfter, Option.bind_some, hshown, hhours, hminutes]
  exact t.mk?_self

/-- An instant that is written with its whole fraction is read as what it was, whether or not it is
a leap second. -/
theorem read?_write {t : Timestamp} (h : t.HasFourDigitYear) : read? (t.write .exact) = some t := by
  obtain ⟨hhour, hminute, hsecond, hnanos⟩ := t.valid
  have hh : t.hour < 10 ^ 2 := by omega
  have hm : t.minute < 10 ^ 2 := by omega
  have hs : t.second < 10 ^ 2 := by omega
  have hcolon : isBlank ':' = false := by decide
  have hend : trimStart ['Z'] = ['Z'] := by decide
  have hzone : zone? ['Z'] = some (0, []) := rfl
  have hnothing : trimStart [] = [] := rfl
  simp [read?, toList_write h, date?_written h, separator?, mark?_cons hcolon,
    numberOf?_padded (by decide) hh, numberOf?_padded (by decide) hm,
    numberOf?_padded (by decide) hs, fraction?_writtenFraction hnanos, hend, hzone, hnothing,
    hhour, hminute, ofLocal?_zero]

/-! ## The form of a fraction -/

/-- The text of a fraction of a second: nothing for a whole second, otherwise a point and three, six
or nine digits, as few as will do. -/
def IsFraction (nanos : Nat) (fraction : List Char) : Prop :=
  fraction = [] ∧ nanos = 0 ∨
    ∃ places digits, fraction = '.' :: digits ∧ digits.length = places ∧ places ∈ [3, 6, 9] ∧
      (∀ c ∈ digits, isDigit c = true) ∧ digitsValue digits * 10 ^ (9 - places) = nanos ∧
      nanos % 10 ^ (12 - places) ≠ 0

lemma isFraction_padded {places n nanos : Nat} (hplaces : places ∈ [3, 6, 9])
    (h : n < 10 ^ places) (hvalue : n * 10 ^ (9 - places) = nanos)
    (hfew : nanos % 10 ^ (12 - places) ≠ 0) :
    IsFraction nanos ("." ++ padded places n).toList := by
  have hwidth : 0 < places := by
    simp only [List.mem_cons, List.not_mem_nil, or_false] at hplaces
    omega
  refine .inr ⟨places, (padded places n).toList, ?_, length_padded hwidth h, hplaces,
    fun c hc => isDigit_of_mem_padded hc, ?_, hfew⟩
  · rw [String.toList_append]
    rfl
  · rw [digitsValue_padded, hvalue]

lemma isFraction_writtenFraction {nanos : Nat} (h : nanos < 1000000000) :
    IsFraction nanos (writtenFraction nanos).toList := by
  unfold writtenFraction
  by_cases hzero : nanos = 0
  · rw [if_pos hzero]
    exact .inl ⟨rfl, hzero⟩
  · rw [if_neg hzero]
    by_cases hmillis : nanos % 1000000 = 0
    · rw [if_pos hmillis]
      exact isFraction_padded (by decide) (by omega) (by omega) (by omega)
    · rw [if_neg hmillis]
      by_cases hmicros : nanos % 1000 = 0
      · rw [if_pos hmicros]
        exact isFraction_padded (by decide) (by omega) (by omega) (by omega)
      · rw [if_neg hmicros]
        exact isFraction_padded (by decide) (by omega) (by omega) (by omega)

/-- The whole fraction stands between the seconds and the mark of UTC. -/
theorem exists_fraction (t : Timestamp) : ∃ instant fraction : List Char,
    (t.write .seconds).toList = instant ++ ['Z'] ∧
      (t.write .exact).toList = instant ++ fraction ++ ['Z'] ∧ IsFraction t.nanos fraction := by
  obtain ⟨instant, hseconds, hexact⟩ : ∃ instant : String,
      t.write .seconds = instant ++ "" ++ "Z" ∧
        t.write .exact = instant ++ writtenFraction t.nanos ++ "Z" := ⟨_, rfl, rfl⟩
  refine ⟨instant.toList, (writtenFraction t.nanos).toList, ?_, ?_,
    isFraction_writtenFraction t.valid.2.2.2⟩
  · simp [hseconds]
  · simp [hexact]

end Timestamp

end TargetRegistrar
