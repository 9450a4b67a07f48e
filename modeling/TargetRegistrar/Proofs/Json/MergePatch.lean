import TargetRegistrar.Proofs.Json.Record

/-!
# Merge patches

A JSON merge patch changes the members of an object that it mentions and keeps all others.  A member
that it gives as `null` is removed, one that it gives as an object is patched in its turn, and any
other value, a list too, takes the place of the old one.  A target that is no object counts as an
empty one.

What a name means after a patch depends on nothing but what it meant before and what the patch says
of it (`findMember_mergedMembers`), and a patch never lets a name occur twice
(`occurrences_mergedMembers_le`).  These two facts are what a reader of records needs.
-/

namespace TargetRegistrar.Json

/-! ## Patching -/

/-- Whether a value is `null`. -/
def isNull : Json → Bool
  | null => true
  | _ => false

/-- The members of an object; other values have none. -/
def members : Json → List (String × Json)
  | obj ms => ms
  | _ => []

/-- The members with a value for a name, in the place of the one that it had. -/
def putMember (name : String) (value : Json) : List (String × Json) → List (String × Json)
  | [] => [(name, value)]
  | m :: ms => if m.1 = name then (name, value) :: ms else m :: putMember name value ms

/-- The members without those of a name. -/
def dropMember (name : String) (ms : List (String × Json)) : List (String × Json) :=
  ms.filter fun m => m.1 ≠ name

mutual

/-- The value after a patch, if there was one before. -/
def merged (target : Option Json) : Json → Json
  | obj patch => obj (mergedMembers ((target.map members).getD []) patch)
  | value => value

/-- The members after those of a patch. -/
def mergedMembers (target : List (String × Json)) : List (String × Json) → List (String × Json)
  | [] => target
  | (name, value) :: patch =>
    if value.isNull then mergedMembers (dropMember name target) patch
    else
      mergedMembers (putMember name (merged (findMember name target) value) target) patch

end

/-! ## Single members -/

section Members

variable {name name' : String} {value : Json} {ms : List (String × Json)}

lemma findMember_putMember_self : findMember name (putMember name value ms) = some value := by
  induction ms with
  | nil => simp [putMember, findMember]
  | cons m ms ih =>
    by_cases hm : m.1 = name
    · simp [putMember, findMember, hm]
    · simp [putMember, findMember, hm, ih]

lemma findMember_putMember_of_ne (h : name' ≠ name) :
    findMember name' (putMember name value ms) = findMember name' ms := by
  induction ms with
  | nil => simp [putMember, findMember, Ne.symm h]
  | cons m ms ih =>
    by_cases hm : m.1 = name
    · simp [putMember, findMember, hm, Ne.symm h]
    · simp [putMember, findMember, hm, ih]

lemma findMember_dropMember_self : findMember name (dropMember name ms) = none := by
  induction ms with
  | nil => rfl
  | cons m ms ih =>
    by_cases hm : m.1 = name
    · simpa [dropMember, hm] using ih
    · simpa [dropMember, findMember, hm] using ih

lemma findMember_dropMember_of_ne (h : name' ≠ name) :
    findMember name' (dropMember name ms) = findMember name' ms := by
  induction ms with
  | nil => rfl
  | cons m ms ih =>
    by_cases hm : m.1 = name
    · simpa [dropMember, findMember, hm, Ne.symm h] using ih
    · by_cases hm' : m.1 = name'
      · simp [dropMember, findMember, hm', h]
      · simpa [dropMember, findMember, hm, hm'] using ih

lemma occurrences_putMember_of_ne (h : name' ≠ name) :
    occurrences name' (putMember name value ms) = occurrences name' ms := by
  unfold occurrences
  induction ms with
  | nil => simp [putMember, Ne.symm h]
  | cons m ms ih =>
    by_cases hm : m.1 = name
    · simp [putMember, hm, Ne.symm h]
    · simp [putMember, hm, List.countP_cons, ih]

/-- A name that occurs at most once still does when it is put. -/
lemma occurrences_putMember_self_le (h : occurrences name ms ≤ 1) :
    occurrences name (putMember name value ms) ≤ 1 := by
  unfold occurrences at h ⊢
  induction ms with
  | nil => simp [putMember]
  | cons m ms ih =>
    by_cases hm : m.1 = name
    · simpa [putMember, hm, List.countP_cons] using h
    · have hrest : ms.countP (fun m => m.1 = name) ≤ 1 := by
        simpa [List.countP_cons, hm] using h
      simpa [putMember, hm, List.countP_cons] using ih hrest

lemma occurrences_dropMember_le : occurrences name' (dropMember name ms) ≤ occurrences name' ms :=
  List.Sublist.countP_le List.filter_sublist

end Members

/-! ## Whole patches -/

section Patches

variable {name : String} {target patch : List (String × Json)}

/-- A patch that does not name a member leaves it as it was; otherwise it removes the member or
merges what it says into what was there. -/
theorem findMember_mergedMembers (h : (patch.map Prod.fst).Nodup) :
    findMember name (mergedMembers target patch) =
      match findMember name patch with
      | none => findMember name target
      | some value =>
        if value.isNull then none else some (merged (findMember name target) value) := by
  induction patch generalizing target with
  | nil => simp [mergedMembers, findMember]
  | cons m ms ih =>
    obtain ⟨named, value⟩ := m
    obtain ⟨hnew, hrest⟩ := List.nodup_cons.mp h
    by_cases hnamed : named = name
    · have hlast : findMember name ms = none := by
        subst hnamed
        exact findMember_eq_none hnew
      by_cases hnull : value.isNull
      · simp [mergedMembers, findMember, ih hrest, hnamed, hnull, hlast, findMember_dropMember_self]
      · simp [mergedMembers, findMember, ih hrest, hnamed, hnull, hlast, findMember_putMember_self]
    · by_cases hnull : value.isNull
      · simp [mergedMembers, findMember, ih hrest, hnamed, hnull,
          findMember_dropMember_of_ne (Ne.symm hnamed)]
      · simp [mergedMembers, findMember, ih hrest, hnamed, hnull,
          findMember_putMember_of_ne (Ne.symm hnamed)]

/-- A title is replaced, a label removed, a list replaced as a whole. -/
example : merged (some (obj [("title", str "old"), ("labels", obj [("team", str "tools"),
      ("zone", str "west")]), ("tags", ofTexts ["files", "search"])]))
    (obj [("title", str "new"), ("labels", obj [("zone", null)]), ("tags", ofTexts ["files"])]) =
    obj [("title", str "new"), ("labels", obj [("team", str "tools")]),
      ("tags", ofTexts ["files"])] := by
  cbv

/-- Where a name occurs at most once, it does so after a patch. -/
theorem occurrences_mergedMembers_le (h : occurrences name target ≤ 1) :
    occurrences name (mergedMembers target patch) ≤ 1 := by
  induction patch generalizing target with
  | nil => simpa [mergedMembers] using h
  | cons m ms ih =>
    obtain ⟨named, value⟩ := m
    by_cases hnull : value.isNull
    · rw [mergedMembers, if_pos hnull]
      exact ih (Nat.le_trans occurrences_dropMember_le h)
    · rw [mergedMembers, if_neg hnull]
      refine ih ?_
      by_cases hnamed : name = named
      · subst hnamed
        exact occurrences_putMember_self_le h
      · rwa [occurrences_putMember_of_ne hnamed]

end Patches

/-! ## Patches of records -/

section Records

variable {fields : List Field} {old new : List (String × Option Json)}

/-- A value that a patch puts in the place of any other. -/
def isFlat : Json → Bool
  | null => false
  | obj _ => false
  | _ => true

lemma isNull_of_isFlat {j : Json} (h : j.isFlat) : j.isNull = false := by
  cases j with
  | null => cases h
  | _ => rfl

lemma merged_of_isFlat {j : Json} {target : Option Json} (h : j.isFlat) :
    merged target j = j := by
  cases j with
  | obj ms => cases h
  | _ => rfl

lemma findMember_merged_present (h : (new.map Prod.fst).Nodup) (hold : (old.map Prod.fst).Nodup)
    (hflat : ∀ m ∈ new, ∀ value ∈ m.2, value.isFlat) {n o : String × Option Json} (hn : n ∈ new)
    (ho : o ∈ old) (hname : o.1 = n.1) :
    findMember n.1 (mergedMembers (present old) (present new)) = n.2.or o.2 := by
  have hsaid : findMember n.1 (present new) = n.2 := findMember_present h hn
  have hbefore : findMember n.1 (present old) = o.2 := hname ▸ findMember_present hold ho
  rw [findMember_mergedMembers (present_nodup h), hsaid, hbefore]
  cases hvalue : n.2 with
  | none => rfl
  | some value =>
    have hv : value.isFlat := hflat n hn value hvalue
    simp [isNull_of_isFlat hv, merged_of_isFlat hv]

/-- A record of flat values that is merged into a record of the same fields is read as itself where
it says something, and as the old record where it does not. -/
theorem fields?_merged (h : (fields.map (·.name)).Nodup)
    (hnames : fields.map (·.name) = new.map Prod.fst) (hold : old.map Prod.fst = new.map Prod.fst)
    (hflat : ∀ m ∈ new, ∀ value ∈ m.2, value.isFlat) :
    fields? fields (merged (some (ofMembers old)) (ofMembers new)) =
      some ((new.map Prod.snd).zipWith Option.or (old.map Prod.snd)) := by
  rw [hnames] at h
  have hold' : (old.map Prod.fst).Nodup := hold ▸ h
  have hlength : old.length = new.length := by simpa using congrArg List.length hold
  have hfound : (new.map Prod.fst).map (findMember · (mergedMembers (present old) (present new))) =
      (new.map Prod.snd).zipWith Option.or (old.map Prod.snd) := by
    refine List.ext_getElem (by simp [hlength]) fun i hi _ => ?_
    have hnew : i < new.length := by simpa using hi
    have hwas : i < old.length := hlength ▸ hnew
    have hname : old[i].1 = new[i].1 := by
      have hi' : i < (old.map Prod.fst).length := by simpa using hwas
      have heq := List.getElem_of_eq hold hi'
      rwa [List.getElem_map, List.getElem_map] at heq
    simpa using findMember_merged_present h hold' hflat (List.getElem_mem hnew)
      (List.getElem_mem hwas) hname
  have honce : ∀ name, occurrences name (mergedMembers (present old) (present new)) ≤ 1 :=
    fun _ => occurrences_mergedMembers_le (occurrences_le_one (present_nodup hold'))
  show fields? fields (obj (mergedMembers (present old) (present new))) = _
  rw [fields?_obj fun f _ => honce f.name, hnames, hfound]

/-- A record of flat values that is merged into nothing is read as itself. -/
theorem fields?_merged_none (h : (fields.map (·.name)).Nodup)
    (hnames : fields.map (·.name) = new.map Prod.fst)
    (hflat : ∀ m ∈ new, ∀ value ∈ m.2, value.isFlat) :
    fields? fields (merged none (ofMembers new)) = some (new.map Prod.snd) := by
  -- Nothing is as good as a record all of whose fields are absent.
  have hempty : present (new.map fun m => (m.1, none)) = [] := by
    simp [present, List.filterMap_map]
  have hvalues : (new.map Prod.snd).zipWith Option.or
      ((new.map fun m => (m.1, (none : Option Json))).map Prod.snd) = new.map Prod.snd := by
    simp [List.zipWith_map_left, List.zipWith_map_right, List.zipWith_self]
  calc
    fields? fields (merged none (ofMembers new))
    _ = fields? fields (merged (some (obj [])) (ofMembers new)) := rfl
    _ = fields? fields (merged (some (ofMembers (new.map fun m => (m.1, none))))
          (ofMembers new)) := by rw [ofMembers_eq, ofMembers_eq, hempty]
    _ = some (new.map Prod.snd) := by
      rw [fields?_merged h hnames (by simp) hflat, hvalues]

end Records

end TargetRegistrar.Json
