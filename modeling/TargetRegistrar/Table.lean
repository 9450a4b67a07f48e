/-!
# Tables

A finite map as a list of entries in the order in which their keys were first put in. Storing under
a present key replaces its value in place, so that the order is stable and a table of distinct keys
stays one.

## Main statements

`get?_insert` and `get?_erase` say what a look-up finds after a change. To count entries there is
`entries_insert_of_get?_eq_none` besides.
-/

namespace TargetRegistrar

/-- A finite map from keys to values. -/
structure Table (κ α : Type) where
  /-- The entries, oldest key first. -/
  entries : List (κ × α) := []
  deriving DecidableEq, Repr

namespace Table

variable {κ α : Type} [DecidableEq κ]

/-- The table without entries. -/
def empty : Table κ α := {}

/-- The value of the first entry with the key `k`. -/
def find (k : κ) : List (κ × α) → Option α
  | [] => none
  | e :: es => if e.1 = k then some e.2 else find k es

/-- The value stored under a key. -/
def get? (t : Table κ α) (k : κ) : Option α :=
  find k t.entries

/-- The entries with the value under `k` set to `v`. -/
def put (k : κ) (v : α) : List (κ × α) → List (κ × α)
  | [] => [(k, v)]
  | e :: es => if e.1 = k then (k, v) :: es else e :: put k v es

/-- The table that holds `v` under `k` and is otherwise the same. -/
def insert (t : Table κ α) (k : κ) (v : α) : Table κ α :=
  { entries := put k v t.entries }

/-- The table without the key `k`. -/
def erase (t : Table κ α) (k : κ) : Table κ α :=
  { entries := t.entries.filter fun e => e.1 ≠ k }

/-- The number of entries. -/
def size (t : Table κ α) : Nat :=
  t.entries.length

@[simp] theorem get?_empty (k : κ) : (empty : Table κ α).get? k = none := rfl

theorem find_put (es : List (κ × α)) (k k' : κ) (v : α) :
    find k' (put k v es) = if k' = k then some v else find k' es := by
  induction es with
  | nil =>
    by_cases h : k' = k
    · simp [put, find, h]
    · simp [put, find, h, Ne.symm h]
  | cons e es ih =>
    by_cases he : e.1 = k
    · subst he
      by_cases h : k' = e.1
      · simp [put, find, h]
      · simp [put, find, h, Ne.symm h]
    · by_cases h : e.1 = k'
      · subst h
        simp [put, find, he]
      · simp [put, find, he, h, ih]

theorem put_of_find_eq_none {es : List (κ × α)} {k : κ} (h : find k es = none) (v : α) :
    put k v es = es ++ [(k, v)] := by
  induction es with
  | nil => rfl
  | cons e es ih =>
    by_cases he : e.1 = k
    · simp [find, he] at h
    · simp only [find, if_neg he] at h
      simp [put, he, ih h]

@[simp] theorem get?_insert (t : Table κ α) (k k' : κ) (v : α) :
    (t.insert k v).get? k' = if k' = k then some v else t.get? k' :=
  find_put t.entries k k' v

/-- Storing under a new key adds one entry and leaves the others where they are. -/
theorem entries_insert_of_get?_eq_none {t : Table κ α} {k : κ} (h : t.get? k = none) (v : α) :
    (t.insert k v).entries = t.entries ++ [(k, v)] :=
  put_of_find_eq_none h v

theorem find_filter_ne (es : List (κ × α)) (k k' : κ) :
    find k' (es.filter fun e => e.1 ≠ k) = if k' = k then none else find k' es := by
  induction es with
  | nil => simp [find]
  | cons e es ih =>
    by_cases he : e.1 = k
    · subst he
      by_cases h : k' = e.1
      · simpa [h] using ih
      · simpa [find, h, Ne.symm h] using ih
    · by_cases h : e.1 = k'
      · subst h
        simp [find, he]
      · simpa [find, he, h] using ih

@[simp] theorem get?_erase (t : Table κ α) (k k' : κ) :
    (t.erase k).get? k' = if k' = k then none else t.get? k' :=
  find_filter_ne t.entries k k'

end Table

end TargetRegistrar
