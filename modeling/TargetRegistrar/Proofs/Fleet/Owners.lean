import TargetRegistrar.Proofs.Fleet.Records
import TargetRegistrar.Proofs.Fleet.Run

/-!
# Whose target it is

A target is made for one incarnation of a resource only: every create that returns it was made for a
copy of that incarnation.  This rests on the token, which stands for the identity as long as
generations are not negative.

Since what has happened in a run is not undone, it follows for any two states of a run that two
incarnations never record one target (`recorded_target_exclusive`), not even after one another.
-/

namespace TargetRegistrar.Fleet

open Store Gateway Controller Registration

variable {c : Config} {w w' : World} {place : Location} {ph ph' : Phase}
  {copy copy' : Option Resource} {a : Act} {edits : (Spec → Spec) → Prop}

/-- Generations are not negative, neither those of stored resources nor those that targets were
created for. -/
def numbered : Assertion where
  Holds w := (∀ place s, w.store.objects.get? place = some s → Counted s) ∧
    ∀ r t, w.Returned r t → Counted r
  At _ ph _ _ := ∀ r v, ph = .guarded r v → Counted r

/-- A user who inserts a resource gives it a generation that is not negative, or none. -/
def StartsCounted (r : Resource) : Prop :=
  0 ≤ r.metadata.generation.getD 0

lemma counted_turn {s s' : Resource} (h : Counted s) (ht : UserTurn edits s s') : Counted s' := by
  obtain ⟨-, hgen⟩ | ⟨_, -, -, hgen⟩ := ht.spec
  · exact h.congr ht.uid hgen
  · have hcount := h.generation
    refine ⟨ht.uid ▸ h.identity, ?_⟩
    rw [hgen]
    show 0 ≤ s.metadata.generation.getD 0 + 1
    omega

lemma returned_act {r : Resource} {t : String} (h : (w.act a).Returned r t) : w.Returned r t := by
  have hsame := noCreate_act w a
  obtain ⟨request, hd | hd⟩ := h
  · exact ⟨request, .inl ((hsame.created ..).mp hd)⟩
  · exact ⟨request, .inr ((hsame.recalled ..).mp hd)⟩

/-- A create returns a target for the copy of a pass. -/
lemma returned_stride {r : Resource} {t : String} (hcopy : ∀ r v, ph = .guarded r v → copy = some r)
    (hs : Stride c place w ph copy w' ph' copy') (h : w'.Returned r t) :
    w.Returned r t ∨ ∃ v, ph = .guarded r v := by
  obtain hsame | ⟨r', v, request', rfl, -, hreq, hnew⟩ := stride_cases hs
  · obtain ⟨request, hd | hd⟩ := h
    · exact .inl ⟨request, .inl ((hsame.created ..).mp hd)⟩
    · exact .inl ⟨request, .inr ((hsame.recalled ..).mp hd)⟩
  · obtain rfl := hcopy r' v rfl
    have hcases : r = r' ∨ w.Returned r t := by
      obtain ⟨request, hd⟩ := h
      obtain ⟨t', hnew⟩ | hnew := hnew
      · rw [hnew.deeds] at hd
        obtain hd | hd := hd
        · exact .inr ⟨request, .inl (by simpa using hd)⟩
        · obtain heq | hd := List.mem_cons.mp hd
          · cases heq
            exact .inl rfl
          · exact .inr ⟨request, .inr hd⟩
      · rw [hnew.deeds] at hd
        obtain hd | hd := hd
        · obtain heq | hd := List.mem_cons.mp hd
          · cases heq
            exact .inl rfl
          · exact .inr ⟨request, .inl hd⟩
        · exact .inr ⟨request, .inr (by simpa using hd)⟩
    obtain rfl | h := hcases
    · exact .inr ⟨v, rfl⟩
    · exact .inl h

lemma counted_act {s' : Resource} (h : numbered.Holds w)
    (ha : Users StartsCounted edits w a) {p : Location}
    (hs' : (w.act a).store.objects.get? p = some s') : Counted s' := by
  obtain ⟨r, rfl, -, rfl⟩ | ⟨s, hs, hturn⟩ := stored_act ha.respectful hs'
  · exact ⟨ha.1.identity, ha.2⟩
  · exact counted_turn (h.1 p s hs) hturn

lemma counted_stride {r : Resource} {v : Validated} (h : numbered.Holds w)
    (hcounted : numbered.At place ph copy w)
    (hs : Stride c place w ph copy w' ph' copy') (hph' : ph' = .guarded r v) : Counted r := by
  obtain ⟨hsame, -⟩ | ⟨hstored, -⟩ | ⟨_, stored, -, -, hwritten⟩ := stride_guarded hs hph'
  · exact hcounted r v hsame
  · exact h.1 place r hstored
  · have hstored := h.1 _ stored hwritten.found
    exact hstored.congr (hwritten.result ▸ rfl) (hwritten.result ▸ rfl)

lemma numbered_inductive :
    Inductive c (Users StartsCounted edits) (recorded c edits) numbered where
  empty := ⟨(fun _ _ h => nomatch h), fun _ _ h => by simp [World.Returned] at h⟩
  opening _ _ _ h := nomatch h
  act _ h ha := ⟨fun _ _ hs' => counted_act h ha hs', fun r t ht => h.2 r t (returned_act ht)⟩
  actAt _ _ _ h _ := h
  stride _ hph h hcounted hs := by
    obtain ⟨⟨⟨hcopy, htended⟩, -⟩, -⟩ := hph
    refine ⟨⟨fun p s' hs' => ?_, fun r t ht => ?_⟩, fun r v hph' => ?_⟩
    · obtain ⟨s, hstored, hturn, -⟩ := stride_turn htended.grounded hs hs'
      exact (h.1 p s hstored).congr hturn.uid hturn.generation
    · obtain ht | ⟨v, hguarded⟩ := returned_stride hcopy hs ht
      · exact h.2 r t ht
      · exact hcounted r v hguarded
    · exact counted_stride h hcounted hs hph'
  strideAt _ _ _ _ _ h _ _ := h

/-- Recorded targets, whose generations are counted. -/
def enumerated (c : Config) (edits : (Spec → Spec) → Prop) : Assertion :=
  (recorded c edits).and numbered

lemma enumerated_inductive :
    Inductive c (Users StartsCounted edits) .none (enumerated c edits) :=
  recorded_inductive.and numbered_inductive

/-- What is known of the world, part by part. -/
lemma enumerated_holds (h : (enumerated c edits).Holds w) :
    Accounted w ∧ Identified w ∧ records.Holds w ∧ ∀ r t, w.Returned r t → Counted r := by
  obtain ⟨⟨⟨⟨haccounted, hidentified⟩, -⟩, hrecords⟩, -, hcounted⟩ := h
  exact ⟨haccounted, hidentified, hrecords, hcounted⟩

/-- What is known of a pass, part by part. -/
lemma enumerated_at (h : (enumerated c edits).At place ph copy w) :
    (∀ r v, ph = .guarded r v → copy = some r) ∧ Tended edits place ph w ∧ Validity c ph ∧
      records.At place ph copy w := by
  obtain ⟨⟨⟨⟨hcopy, htended⟩, hvalid⟩, hpending⟩, -⟩ := h
  exact ⟨hcopy, htended, hvalid, hpending⟩

lemma clientToken_eq {r : Resource} {v : Validated} {request : CreateRequest}
    (h : Phase.Requests r v request) (hr : Counted r) : request.clientToken = createToken r := by
  obtain ⟨uid, hne, huid⟩ := hr.identity
  obtain ⟨token, htoken, hchosen⟩ := h.token
  have hcreate := createToken_of_uid huid hne
  rw [htoken, hchosen _ hcreate, hcreate]

/-- A target that was returned for a copy was created for one of the same incarnation. -/
lemma created_of_returned {r : Resource} {t : String} (hw : Accounted w)
    (hcounted : ∀ r t, w.Returned r t → Counted r) (h : w.Returned r t) :
    ∃ r₀ request, .created (some r₀) request t ∈ w.deeds ∧ r₀.metadata.uid = r.metadata.uid := by
  have hr := hcounted r t h
  obtain ⟨request, hd | hd⟩ := h
  · exact ⟨r, request, hd, rfl⟩
  · obtain ⟨⟨_, v, hcopy, hreq⟩, copy₀, request₀, hd₀, htoken⟩ := hw.recalled hd
    obtain rfl := Option.some.inj hcopy
    obtain ⟨r₀, v₀, rfl, hreq₀⟩ := hw.built hd₀
    have hr₀ := hcounted r₀ t ⟨request₀, .inl hd₀⟩
    rw [clientToken_eq hreq hr, clientToken_eq hreq₀ hr₀] at htoken
    exact ⟨r₀, request₀, hd₀, (createToken_injective hr₀ hr htoken).1⟩

/-- A target is made for one incarnation only. -/
lemma madeFor_unique {s s' : Resource} {t : String} (hw : Accounted w)
    (hcounted : ∀ r t, w.Returned r t → Counted r) (h : w.MadeFor s t) (h' : w.MadeFor s' t) :
    s.metadata.uid = s'.metadata.uid := by
  obtain ⟨r, hr, huid⟩ := h
  obtain ⟨r', hr', huid'⟩ := h'
  obtain ⟨r₀, _, hd, hr₀⟩ := created_of_returned hw hcounted hr
  obtain ⟨r₁, _, hd', hr₁⟩ := created_of_returned hw hcounted hr'
  obtain ⟨hsame, -⟩ := hw.unique hd hd'
  cases hsame
  rw [← huid, ← huid', ← hr₀, ← hr₁]

/-! ## Exclusive targets -/

lemma World.MadeFor.mono {s : Resource} {t : String} (h : w.MadeFor s t)
    (hdeeds : ∀ d, d ∈ w.deeds → d ∈ w'.deeds) : w'.MadeFor s t := by
  obtain ⟨r, hreturned, huid⟩ := h
  exact ⟨r, hreturned.mono hdeeds, huid⟩

/-- What is recorded in some state of a run was made for the incarnation that records it, as far as
the last state of the run knows. -/
lemma Run.madeFor {f g : State} {earlier : List State} {s : Resource} {t : String}
    (hrun : Run (Step c (Users StartsCounted edits)) (f :: earlier)) (hg : g ∈ f :: earlier)
    (hs : g.world.store.objects.get? place = some s) (ht : s.recordedTarget? = some t) :
    f.world.MadeFor s t :=
  (recorded_target_returned (hrun.reachable hg) hs ht).mono fun _ => hrun.mem_deeds hg

/-- Resources that are stored at any two times of a run, and that record one target, are one
incarnation of one resource, whatever was edited, deleted, inserted anew or failed on the way. -/
theorem recorded_target_exclusive {run : List State} {f f' : State} {place' : Location}
    {s s' : Resource} {t : String} (hrun : Run (Step c (Users StartsCounted fun _ => True)) run)
    (hf : f ∈ run) (hf' : f' ∈ run) (hs : f.world.store.objects.get? place = some s)
    (hs' : f'.world.store.objects.get? place' = some s') (ht : s.recordedTarget? = some t)
    (ht' : s'.recordedTarget? = some t) : s.metadata.uid = s'.metadata.uid := by
  cases run with
  | nil => cases hf
  | cons last earlier =>
    have hlast : Reachable c (Users StartsCounted fun _ => True) last :=
      hrun.reachable List.mem_cons_self
    obtain ⟨haccounted, -, -, hcounted⟩ :=
      enumerated_holds (hlast.satisfies enumerated_inductive).1
    exact madeFor_unique haccounted hcounted (hrun.madeFor hf hs ht) (hrun.madeFor hf' hs' ht')

/-- The target of a resource is recorded before and after an edit, by one incarnation. -/
theorem recorded_target_exclusive_after_edit :
    ∃ run f f' s s', Run (Step exampleConfig (Users StartsCounted fun _ => True)) run ∧ f ∈ run ∧
      f' ∈ run ∧ f.world.store.objects.get? ("tools", "files") = some s ∧
      f'.world.store.objects.get? ("tools", "files") = some s' ∧
      s.recordedTarget? = some "target-1" ∧ s'.recordedTarget? = some "target-1" ∧
      s'.metadata.generation = some 2 ∧ s.metadata.uid = s'.metadata.uid := by
  obtain ⟨w, hreachable, w', hsteps, ⟨s, hs, ht⟩, s', hs', ht', hgen⟩ : ∃ w : World,
      Reachable exampleConfig (Users StartsCounted fun _ => True) { world := w } ∧
      ∃ w' : World, Relation.ReflTransGen
          (Step exampleConfig (Users StartsCounted fun _ => True)) { world := w } { world := w' } ∧
        (∃ s ∈ w.store.objects.get? ("tools", "files"), s.recordedTarget? = some "target-1") ∧
        ∃ s' ∈ w'.store.objects.get? ("tools", "files"), s'.recordedTarget? = some "target-1" ∧
          s'.metadata.generation = some 2 :=
    ⟨_, Reachable.start.after registered
        ⟨⟨freshInsert_example, Int.le_of_lt Int.one_pos⟩, trivial⟩,
      _, leads_after [.act (.edit (.updateSpec "tools" "files" fun spec =>
        { spec with gatewayId := some "other" })), .pass ("tools", "files")] ⟨trivial, trivial⟩,
      by decide +kernel⟩
  obtain ⟨earlier, hrun⟩ := hreachable.exists_run
  obtain ⟨later, hrun', hsuffix⟩ := hrun.leads hsteps
  have hf : { world := w } ∈ { world := w' } :: later := hsuffix.subset List.mem_cons_self
  have hf' : { world := w' } ∈ { world := w' } :: later := List.mem_cons_self
  exact ⟨_, _, _, s, s', hrun', hf, hf', hs, hs', ht, ht', hgen,
    recorded_target_exclusive hrun' hf hf' hs hs' ht ht'⟩

end TargetRegistrar.Fleet
