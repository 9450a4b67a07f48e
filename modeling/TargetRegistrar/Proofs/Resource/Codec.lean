import TargetRegistrar.Proofs.Json.Forms
import TargetRegistrar.Proofs.Resource.RoundTrip

/-!
# Specifications, statuses and conditions as records

Each of them has a reader and a writer that agree (`Json.IsCodec`): what is written is read again,
whatever has been read can be written, and it makes no difference whether it was read from an object
or from a sequence.  Two things limit this.  A generation has 64 bits, which whatever has been read
satisfies, and a year has four digits, which only a shift into another zone can undo.

For each kind of record three facts are put together in `records_agree`: the written value is read
(`decode?_encode`), a blank is read as absence (`ofFields?_blanks`), and what has been read fits in
64 bits (`isWritable_of_decode?`).
-/

namespace TargetRegistrar

open Json

/-! ## Integers and lists that have been read -/

lemma Json.fits_of_optional? {o : Option Json} {generation : Option Int}
    (h : optional? int64? o = some generation) : ∀ n ∈ generation, FitsIn64Bits n := by
  rintro n rfl
  obtain _ | j := o
  · cases h
  · cases j with
    | int m =>
      by_cases hm : FitsIn64Bits m
      · have hread : int64? (int m) = some m := int64?_int hm
        obtain rfl : m = n := by simpa [optional?, nullable?, hread] using h
        exact hm
      · have hread : int64? (int m) = none := if_neg hm
        simp [optional?, nullable?, hread] at h
    | _ => simp [optional?, nullable?, int64?] at h

lemma Json.exists_of_mapM {α : Type} {item? : Json → Option α} {items : List Json} {as : List α}
    (h : items.mapM item? = some as) {a : α} (ha : a ∈ as) : ∃ item, item? item = some a := by
  induction items generalizing as with
  | nil =>
    cases h
    cases ha
  | cons item items ih =>
    simp only [List.mapM_cons, bind, Option.bind_eq_some_iff, pure, Option.some.injEq] at h
    obtain ⟨first, hfirst, rest, hrest, rfl⟩ := h
    obtain rfl | ha := List.mem_cons.mp ha
    · exact ⟨item, hfirst⟩
    · exact ih hrest ha

/-- The items of a list that has been read, if it was there, have been read. -/
lemma Json.exists_of_mem_defaulted? {α : Type} {item? : Json → Option α} {o : Option Json}
    {as : List α} (h : defaulted? [] (list? item?) o = some as) {a : α} (ha : a ∈ as) :
    ∃ item, item? item = some a := by
  obtain _ | j := o
  · cases h
    cases ha
  · cases j with
    | arr items => exact exists_of_mapM h ha
    | _ => cases h

/-! ## Specifications -/

namespace Spec

/-- What the absence of each field stands for; the fields that have to be there cannot be
`null`. -/
def blanks : List Json :=
  List.replicate 11 null

lemma fields_nodup : (fields.map (·.name)).Nodup := by
  decide

theorem decode?_encode (s : Spec) : decode? s.encode = some s := by
  have htext (o : Option String) : optional? text? (o.map str) = some o :=
    optional?_map (fun _ => Json.noConfusion) fun s _ => text?_str s
  have htexts (o : Option (List String)) : optional? texts? (o.map ofTexts) = some o :=
    optional?_map (fun _ => Json.noConfusion) fun texts _ => texts?_ofTexts texts
  have hcapabilities : texts? (ofTexts s.capabilities) = some s.capabilities :=
    texts?_ofTexts s.capabilities
  rw [decode?, encode, fields?_ofMembers fields_nodup rfl]
  simp [ofFields?, required?, hcapabilities, htext, htexts]

lemma ofFields?_blanks (values : List (Option Json)) (h : values.length = blanks.length) :
    ofFields? ((List.zipWith Option.getD values blanks).map some) = ofFields? values := by
  have htext (o : Option Json) : required? text? (some (o.getD null)) = required? text? o :=
    required?_blank rfl
  have htexts (o : Option Json) : required? texts? (some (o.getD null)) = required? texts? o :=
    required?_blank rfl
  match values, h with
  | [_, _, _, _, _, _, _, _, _, _, _], _ =>
    simp [ofFields?, blanks, List.replicate, htext, htexts, optional?_blank]

lemma isCodec :
    IsCodec fields blanks (fun _ => True) (fun _ => True) encode decode? where
  written s _ := decode?_encode s
  members s := exists_members rfl (by simp [ofTexts])
  again _ s _ _ := decode?_encode s
  ordered _ := bind_inOrder rfl ofFields?_blanks
  named _ _ _ := bind_of_mentions

end Spec

/-! ## Conditions -/

namespace Condition

variable {c : Condition}

/-- What the absence of each field stands for. -/
def blanks : List Json :=
  [null, null, null, str "", null, null]

/-- The year of the last transition is written with four digits. -/
def IsTimely (c : Condition) : Prop :=
  c.lastTransition.HasFourDigitYear

lemma ofFields?_blanks (values : List (Option Json)) (h : values.length = blanks.length) :
    ofFields? ((List.zipWith Option.getD values blanks).map some) = ofFields? values := by
  have htext (o : Option Json) : required? text? (some (o.getD null)) = required? text? o :=
    required?_blank rfl
  have hverdict (o : Option Json) :
      required? Verdict.decode? (some (o.getD null)) = required? Verdict.decode? o :=
    required?_blank rfl
  have htimestamp (o : Option Json) :
      required? timestamp? (some (o.getD null)) = required? timestamp? o :=
    required?_blank rfl
  have hmessage (o : Option Json) :
      defaulted? "" text? (some (o.getD (str ""))) = defaulted? "" text? o :=
    defaulted?_blank rfl
  match values, h with
  | [_, _, _, _, _, _], _ =>
    simp [ofFields?, blanks, htext, hverdict, htimestamp, hmessage, optional?_blank]

/-- A condition that has been read can be written. -/
lemma isWritable_of_decode? {j : Json} (h : decode? j = some c) (htimely : c.IsTimely) :
    c.IsWritable := by
  obtain ⟨values, -, hvalues⟩ := Option.bind_eq_some_iff.mp h
  unfold ofFields? at hvalues
  split at hvalues
  · simp only [bind, Option.bind_eq_some_iff, pure, Option.some.injEq] at hvalues
    obtain ⟨_, _, _, _, _, _, _, _, _, _, generation, hgeneration, rfl⟩ := hvalues
    exact ⟨htimely, fits_of_optional? hgeneration⟩
  · cases hvalues

lemma isCodec : IsCodec fields blanks IsWritable IsTimely encode decode? where
  written _ := decode?_encode
  members c := exists_members rfl (by simp [Verdict.encode, ofTimestamp])
  again _ _ h htimely := decode?_encode (isWritable_of_decode? h htimely)
  ordered _ := bind_inOrder rfl ofFields?_blanks
  named _ _ _ := bind_of_mentions

end Condition

/-! ## Statuses -/

namespace Status

variable {s : Status}

/-- What the absence of each field stands for. -/
def blanks : List Json :=
  [null, null, null, null, arr [], null, arr []]

/-- The years of all instants are written with four digits. -/
structure IsTimely (s : Status) : Prop where
  synchronized : ∀ t ∈ s.lastSynchronized, t.HasFourDigitYear
  conditions : ∀ c ∈ s.conditions, c.IsTimely

lemma ofFields?_blanks (values : List (Option Json)) (h : values.length = blanks.length) :
    ofFields? ((List.zipWith Option.getD values blanks).map some) = ofFields? values := by
  have hreasons (o : Option Json) :
      defaulted? [] texts? (some (o.getD (arr []))) = defaulted? [] texts? o :=
    defaulted?_blank rfl
  have hconditions (o : Option Json) :
      defaulted? [] (list? Condition.decode?) (some (o.getD (arr []))) =
        defaulted? [] (list? Condition.decode?) o :=
    defaulted?_blank rfl
  match values, h with
  | [_, _, _, _, _, _, _], _ =>
    simp [ofFields?, blanks, hreasons, hconditions, optional?_blank]

/-- A status that has been read can be written. -/
lemma isWritable_of_decode? {j : Json} (h : decode? j = some s) (htimely : s.IsTimely) :
    s.IsWritable := by
  obtain ⟨values, -, hvalues⟩ := Option.bind_eq_some_iff.mp h
  unfold ofFields? at hvalues
  split at hvalues
  · simp only [bind, Option.bind_eq_some_iff, pure, Option.some.injEq] at hvalues
    obtain ⟨generation, hgeneration, _, _, _, _, _, _, _, _, _, _, conditions, hconditions, rfl⟩ :=
      hvalues
    refine ⟨fits_of_optional? hgeneration, htimely.synchronized, fun c hc => ?_⟩
    obtain ⟨item, hitem⟩ := exists_of_mem_defaulted? hconditions hc
    exact Condition.isWritable_of_decode? hitem (htimely.conditions c hc)
  · cases hvalues

lemma isCodec : IsCodec fields blanks IsWritable IsTimely encode decode? where
  written _ := decode?_encode
  members s := exists_members rfl (by simp [ofTexts, ofTimestamp])
  again _ _ h htimely := decode?_encode (isWritable_of_decode? h htimely)
  ordered _ := bind_inOrder rfl ofFields?_blanks
  named _ _ _ := bind_of_mentions

/-- Reasons are written if there are any. -/
lemma reasons_written : s.encode.member? "statusReasons" = none ↔ s.statusReasons = [] := by
  let reasons := if s.statusReasons.isEmpty then none else some (ofTexts s.statusReasons)
  have hmembers : s.encode.member? "statusReasons" = reasons := by
    show findMember "statusReasons" (present _) = reasons
    refine findMember_present (m := ("statusReasons", reasons)) ?_ ?_
    · exact fields_nodup
    · exact List.mem_of_getElem? (i := 4) rfl
  rw [hmembers]
  cases hreasons : s.statusReasons with
  | nil => simp [reasons, hreasons]
  | cons reason rest => simp [reasons, hreasons]

/-- The forms of the conditions make no difference to their status. -/
lemma decode?_conditions {front items items' : List Json} (hfront : front.length = 6)
    (h : items.map Condition.decode? = items'.map Condition.decode?) :
    decode? (arr (front ++ [arr items])) = decode? (arr (front ++ [arr items'])) := by
  have hlist : list? Condition.decode? (arr items) = list? Condition.decode? (arr items') := by
    show items.mapM Condition.decode? = items'.mapM Condition.decode?
    have hmap := congrArg (List.mapM id) h
    simpa [List.mapM_map] using hmap
  match front, hfront with
  | [_, _, _, _, _, _], _ =>
    simp [decode?, fields?, fields, positional, ofFields?, defaulted?, hlist]

end Status

/-! ## All of them -/

/-- Specifications, conditions and statuses are read as they were written, from either form and with
any members that are not theirs.  What is written has named fields in their order, without those
that are absent, and without reasons if there are none; an instant is written with `Z` and the
digits that its fraction needs.  Conditions are read alike in either form within a status, too. -/
theorem records_agree :
    IsCodec Spec.fields Spec.blanks (fun _ => True) (fun _ => True) Spec.encode Spec.decode? ∧
      IsCodec Condition.fields Condition.blanks Condition.IsWritable Condition.IsTimely
        Condition.encode Condition.decode? ∧
      IsCodec Status.fields Status.blanks Status.IsWritable Status.IsTimely Status.encode
        Status.decode? ∧
      (∀ s : Status, s.encode.member? "statusReasons" = none ↔ s.statusReasons = []) ∧
      (∀ front items items' : List Json, front.length = 6 →
        items.map Condition.decode? = items'.map Condition.decode? →
        Status.decode? (arr (front ++ [arr items])) =
          Status.decode? (arr (front ++ [arr items']))) ∧
      ∀ t : Timestamp, ∃ (text : String) (instant fraction : List Char),
        ofTimestamp t = str text ∧ text.toList = instant ++ fraction ++ ['Z'] ∧
          (t.write .seconds).toList = instant ++ ['Z'] ∧ Timestamp.IsFraction t.nanos fraction := by
  refine ⟨Spec.isCodec, Condition.isCodec, Status.isCodec, fun _ => Status.reasons_written,
    fun _ _ _ => Status.decode?_conditions, fun t => ?_⟩
  obtain ⟨instant, fraction, hseconds, hexact, hfraction⟩ := t.exists_fraction
  exact ⟨t.write .exact, instant, fraction, rfl, hexact, hseconds, hfraction⟩

/-- A status as a sequence, synchronized in a leap second that is given in the time of another zone,
with a condition that ends before its generation. -/
def sampleSequence : List Json :=
  [int 3, str "target-1", null, str "READY", arr [], str "2016-12-31T18:59:60.25-05:00",
    arr [arr [str "Ready", str "True", str "GatewayTargetReady", str "",
      str "2024-02-29 12:00:00Z"]]]

/-- The items of the sequence as members of an object, the last one first and with an unknown
one. -/
def sampleMembers : List (String × Json) :=
  ("phase", illegible) :: ((Status.fields.map (·.name)).zip sampleSequence).reverse

/-- The status that both show. -/
def sampleShown : Status where
  observedGeneration := some 3
  targetId := some "target-1"
  targetStatus := some "READY"
  lastSynchronized := some ⟨⟨2016, 12, 31, by decide⟩, 23, 59, 60, 250000000, by decide⟩
  conditions := [⟨"Ready", .holds, "GatewayTargetReady", "",
    ⟨⟨2024, 2, 29, by decide⟩, 12, 0, 0, 0, by decide⟩, none⟩]

/-- The leap second is written in UTC, and the status is read again from what is written; as an
object it is read alike. -/
theorem records_agree_after_leap_second :
    Status.decode? (arr sampleSequence) = some sampleShown ∧
      (sampleShown.encode.member? "lastSynchronized").bind text? =
        some "2016-12-31T23:59:60.250Z" ∧
      Status.decode? sampleShown.encode = some sampleShown ∧
      Status.decode? (obj sampleMembers) = some sampleShown := by
  have hread : Status.decode? (arr sampleSequence) = some sampleShown := by decide +kernel
  have htimely : sampleShown.IsTimely := by
    constructor
    · rintro t ⟨⟩
      exact ⟨by decide, by decide⟩
    · intro c hc
      obtain rfl := List.mem_singleton.mp hc
      exact ⟨by decide, by decide⟩
  have honce : NamedOnce Status.fields sampleMembers := by
    unfold NamedOnce
    decide +kernel
  have hmentions : Mentions Status.fields sampleSequence sampleMembers := rfl
  obtain ⟨-, -, hstatus, -⟩ := records_agree
  exact ⟨hread, by decide +kernel, hstatus.again _ _ hread htimely,
    hstatus.named _ _ _ honce hmentions hread⟩

end TargetRegistrar
