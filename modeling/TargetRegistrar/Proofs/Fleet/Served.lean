import TargetRegistrar.Proofs.Fleet.Permanence

/-!
# What a pass is served

`Stride` says what a question of a pass does to the world and to the phase of the pass.  Where the
phase does not matter there is less to say: the question leaves the stored objects alone, or it
reads or replaces what is stored in the place of the pass, and whatever it replaces is the very copy
that the write is based on (`Served`).  `Chronicled.served` shows that for every answer in a run.
-/

namespace TargetRegistrar.Fleet

open Store Gateway Controller

/-- What an answer to the pass at a place does to the store. -/
inductive Served (place : Location) (s s' : Store.InMemory) : (q : Query) → q.Answer → Prop where
  /-- No resource is handed out, and nothing changes. -/
  | nothing {q : Query} {answer : q.Answer} (hnone : handed q answer none = none)
      (h : s'.objects = s.objects) : Served place s s' q answer
  | read {ns name : String} {r : Resource} (hr : s.objects.get? place = some r)
      (h : s'.objects = s.objects) : Served place s s' (.store (.get ns name)) (.ok (some r))
  | finalizers {r r' : Resource} {finalizers : List String} (hplace : location r = place)
      (h : s.FinalizersWritten s' r finalizers r r') :
      Served place s s' (.store (.replaceFinalizers r finalizers)) (.ok r')
  | status {r r' : Resource} {status : Status} (hplace : location r = place)
      (h : s.StatusWritten s' r status r r') :
      Served place s s' (.store (.replaceStatus r status)) (.ok r')

variable {c : Config} {f : State} {earlier : List State} {place p : Location}
  {s s' : Store.InMemory} {w w' : World} {q : Query} {answer : q.Answer}
  {copy : Option Resource} {next : q.Answer → Pass Controller.Error Directive}

/-- A pass is served in its own place. -/
lemma Served.other (h : Served place s s' q answer) (hne : p ≠ place) :
    s'.objects.get? p = s.objects.get? p := by
  cases h with
  | nothing _ h => rw [h]
  | read _ h => rw [h]
  | finalizers hplace h => rw [h.get?, hplace, if_neg hne]
  | status hplace h => rw [h.get?, hplace, if_neg hne]

lemma served_finalizers {ph : Phase} {r : Resource} {fs : List String}
    {outcome : Except Store.Error Resource} (hph : Grounded place ph w) (hr : ph.basis? = some r)
    (ha : w.Answers copy (.store (.replaceFinalizers r fs)) outcome w') :
    Served place w.store w'.store (.store (.replaceFinalizers r fs)) outcome := by
  obtain ⟨s, hserves, rfl⟩ := ha
  obtain ⟨hissued, hplace⟩ := hph.basis r hr
  cases outcome with
  | error e => exact .nothing rfl hserves.error.objects
  | ok r' =>
    obtain ⟨stored, hwritten⟩ := hserves.replaceFinalizers
    obtain rfl := hwritten.stored_eq hissued
    exact .finalizers hplace hwritten

lemma served_status {ph : Phase} {r : Resource} {status : Status}
    {outcome : Except Store.Error Resource} (hph : Grounded place ph w) (hr : ph.basis? = some r)
    (ha : w.Answers copy (.store (.replaceStatus r status)) outcome w') :
    Served place w.store w'.store (.store (.replaceStatus r status)) outcome := by
  obtain ⟨s, hserves, rfl⟩ := ha
  obtain ⟨hissued, hplace⟩ := hph.basis r hr
  cases outcome with
  | error e => exact .nothing rfl hserves.error.objects
  | ok r' =>
    obtain ⟨stored, hwritten⟩ := hserves.replaceStatus
    obtain rfl := hwritten.stored_eq hissued
    exact .status hplace hwritten

lemma served_get {ns name : String} {outcome : Except Store.Error (Option Resource)}
    (hplace : (ns, name) = place) (ha : w.Answers copy (.store (.get ns name)) outcome w') :
    Served place w.store w'.store (.store (.get ns name)) outcome := by
  obtain ⟨s, hserves, rfl⟩ := ha
  obtain ⟨rfl, hfound⟩ := hserves.get
  rcases outcome with e | _ | r
  · exact .nothing rfl rfl
  · exact .nothing rfl rfl
  · exact .read (hplace ▸ (hfound _ rfl).symm) rfl

/-- A question that is not for the store leaves it as it is. -/
lemma served_elsewhere (hq : ∀ request, q ≠ .store request) (ha : w.Answers copy q answer w') :
    Served place w.store w'.store q answer := by
  cases q with
  | store request => exact absurd rfl (hq request)
  | gateway call =>
    cases answer with
    | finished outcome =>
      obtain ⟨time, -, rfl⟩ := ha
      exact .nothing rfl rfl
    | cancelled =>
      obtain rfl | ⟨time, rfl⟩ := ha
      · exact .nothing rfl rfl
      · exact .nothing rfl rfl
  | _ =>
    obtain rfl : w' = w := ha
    exact .nothing rfl rfl

/-- The place of a copy that says where it belongs. -/
lemma place_of_fetches {ph : Phase} {r : Resource} {change : StatusChange} {ns name : String}
    (hph : Grounded place ph w) (h : ph.Fetches r change) (hns : r.metadata.ns = some ns)
    (hname : r.metadata.name = some name) : (ns, name) = place := by
  have hsubject : ph.subject? = some r := by cases h <;> rfl
  have hplace := hph.subject r hsubject
  rw [← hplace]
  simp [location, hns, hname]

/-- Whatever a pass asks in the course of a run, it is served in its own place, and its writes
replace the copies that they are based on. -/
lemma Chronicled.served (h : Chronicled c f earlier)
    (hpass : f.passes place = some ⟨Program.ask q next, copy⟩)
    (ha : f.world.Answers copy q answer w) :
    Served place f.world.store w.store q answer := by
  obtain ⟨ph, hkeeps, hentitled⟩ := h.entitled hpass
  obtain ⟨ph', hmoves, -⟩ := hkeeps answer
  have hph := hentitled.tended.grounded
  cases hmoves with
  | idle _ hidle =>
    refine served_elsewhere (fun request hrequest => ?_) ha
    subst hrequest
    cases hidle
  | read _ => exact served_get rfl ha
  | readNothing _ => exact served_get rfl ha
  | attach => exact served_finalizers hph rfl ha
  | attachRefused => exact served_finalizers hph rfl ha
  | called _ _ => exact served_elsewhere (by simp) ha
  | failed _ _ => exact served_elsewhere (by simp) ha
  | fetch hfetches hns hname => exact served_get (place_of_fetches hph hfetches hns hname) ha
  | fetchNothing hfetches hns hname _ =>
    exact served_get (place_of_fetches hph hfetches hns hname) ha
  | write => exact served_status hph rfl ha
  | writeRefused => exact served_status hph rfl ha
  | detach _ => exact served_finalizers hph rfl ha

end TargetRegistrar.Fleet
