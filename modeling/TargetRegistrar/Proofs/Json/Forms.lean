import TargetRegistrar.Proofs.Json.Record

/-!
# The two forms of a record

A record is read from an object and from a sequence.  An object can be turned into a sequence by
putting its fields in order, with something that stands for absence where a field is not mentioned
(`inOrder`), and a sequence into an object by naming its items, in any order and among any other
members (`Mentions`).  Neither makes a difference to a reader that takes what stands for absence as
absent (`bind_inOrder`, `bind_of_mentions`).  `IsCodec` is what a writer and a reader of one kind of
record owe each other.
-/

namespace TargetRegistrar.Json

variable {α : Type} {fields : List Field} {blanks items : List Json}
  {members : List (String × Json)} {ofFields? : List (Option Json) → Option α}

/-- The fields of an object in order, with blanks in the places of those that it does not
mention. -/
def inOrder (fields : List Field) (blanks : List Json) (members : List (String × Json)) :
    List Json :=
  List.zipWith Option.getD ((fields.map (·.name)).map (findMember · members)) blanks

/-- The object has the items of a sequence as its fields, whatever else it has. -/
def Mentions (fields : List Field) (items : List Json) (members : List (String × Json)) : Prop :=
  (fields.map (·.name)).map (findMember · members) =
    items.map some ++ List.replicate (fields.length - items.length) none

/-- No field is there twice. -/
def NamedOnce (fields : List Field) (members : List (String × Json)) : Prop :=
  ∀ f ∈ fields, occurrences f.name members ≤ 1

/-! ## Reading either form -/

lemma positional_of_length (h : items.length = fields.length) :
    positional fields items = some (items.map some) := by
  induction fields generalizing items with
  | nil =>
    obtain rfl := List.length_eq_zero_iff.mp h
    rfl
  | cons f fields ih =>
    cases items with
    | nil => cases h
    | cons item items => simp [positional, ih (Nat.succ.inj h)]

/-- A sequence that can be read may end early, but nothing is left out before its end. -/
lemma eq_of_positional {values : List (Option Json)} (h : positional fields items = some values) :
    values = items.map some ++ List.replicate (fields.length - items.length) none := by
  induction fields generalizing items values with
  | nil =>
    cases items with
    | nil => simpa [positional, eq_comm] using h
    | cons item items => cases h
  | cons f fields ih =>
    cases items with
    | nil =>
      cases hdefault : f.hasDefault with
      | false => simp [positional, hdefault] at h
      | true =>
        obtain ⟨rest, hrest, rfl⟩ : ∃ rest, positional fields [] = some rest ∧
            none :: rest = values := by
          simpa [positional, hdefault] using h
        simp [ih hrest, List.replicate_succ]
    | cons item items =>
      obtain ⟨rest, hrest, rfl⟩ : ∃ rest, positional fields items = some rest ∧
          some item :: rest = values := by
        simpa [positional] using h
      simp [ih hrest]

/-- The sequence of the fields in order is read as the object, if a blank is read as absence. -/
lemma bind_inOrder (hlength : blanks.length = fields.length)
    (hblanks : ∀ values : List (Option Json), values.length = blanks.length →
      ofFields? ((List.zipWith Option.getD values blanks).map some) = ofFields? values)
    (honce : NamedOnce fields members) :
    (fields? fields (arr (inOrder fields blanks members))).bind ofFields? =
      (fields? fields (obj members)).bind ofFields? := by
  have hvalues : ((fields.map (·.name)).map (findMember · members)).length = blanks.length := by
    rw [List.length_map, List.length_map, hlength]
  have hitems : (inOrder fields blanks members).length = fields.length := by
    simp [inOrder, hlength]
  rw [fields?_obj honce, Option.bind_some, ← hblanks _ hvalues, fields?,
    positional_of_length hitems, Option.bind_some]
  rfl

/-- What is read of a sequence is read of every object that has its items as fields. -/
lemma bind_of_mentions {a : α} (honce : NamedOnce fields members)
    (hmentions : Mentions fields items members)
    (h : (fields? fields (arr items)).bind ofFields? = some a) :
    (fields? fields (obj members)).bind ofFields? = some a := by
  obtain ⟨values, hvalues, ha⟩ := Option.bind_eq_some_iff.mp h
  rw [fields?_obj honce, Option.bind_some, hmentions, ← eq_of_positional hvalues]
  exact ha

/-! ## Blanks -/

section Blanks

variable {value? : Json → Option α} {o : Option Json} {blank : Json}

lemma required?_blank (h : value? blank = none) :
    required? value? (some (o.getD blank)) = required? value? o := by
  cases o with
  | none => exact h
  | some j => rfl

lemma optional?_blank : optional? value? (some (o.getD null)) = optional? value? o := by
  cases o with
  | none => rfl
  | some j => rfl

lemma defaulted?_blank {fallback : α} (h : value? blank = some fallback) :
    defaulted? fallback value? (some (o.getD blank)) = defaulted? fallback value? o := by
  cases o with
  | none => exact h
  | some j => rfl

end Blanks

/-! ## Writers and readers -/

/-- What is written of a record has some of the fields in their order, and nothing in them is
`null` unless it was listed so. -/
lemma exists_members {ms : List (String × Option Json)}
    (hnames : fields.map (·.name) = ms.map Prod.fst) (hnull : ∀ m ∈ ms, m.2 ≠ some null) :
    ∃ written, ofMembers ms = obj written ∧
      (written.map Prod.fst).Sublist (fields.map (·.name)) ∧ ∀ m ∈ written, m.2 ≠ null := by
  refine ⟨present ms, ofMembers_eq, hnames ▸ present_names_sublist, fun m hm hvalue => ?_⟩
  obtain ⟨listed, hlisted, hpresent⟩ := List.mem_filterMap.mp hm
  obtain ⟨value, hsome, rfl⟩ := Option.map_eq_some_iff.mp hpresent
  exact hnull listed hlisted (hsome.trans (congrArg some hvalue))

/-- A reader and a writer of a kind of record.  `IsBounded` says which values can be written and
read again among all, and `IsTimely` among those that have been read. -/
structure IsCodec (fields : List Field) (blanks : List Json) (IsBounded IsTimely : α → Prop)
    (encode : α → Json) (decode? : Json → Option α) : Prop where
  /-- What is written of a value is read as the value. -/
  written : ∀ a, IsBounded a → decode? (encode a) = some a
  /-- It consists of named fields in their order, and what is absent is not written. -/
  members : ∀ a, ∃ ms, encode a = obj ms ∧
    (ms.map Prod.fst).Sublist (fields.map (·.name)) ∧ ∀ m ∈ ms, m.2 ≠ null
  /-- A value that has been read, from whatever form, is written and read as the same value. -/
  again : ∀ j a, decode? j = some a → IsTimely a → decode? (encode a) = some a
  /-- An object is read as the sequence of its fields. -/
  ordered : ∀ ms, NamedOnce fields ms →
    decode? (arr (inOrder fields blanks ms)) = decode? (obj ms)
  /-- A sequence is read as every object that has its items as fields. -/
  named : ∀ items ms a, NamedOnce fields ms → Mentions fields items ms →
    decode? (arr items) = some a → decode? (obj ms) = some a

end TargetRegistrar.Json
