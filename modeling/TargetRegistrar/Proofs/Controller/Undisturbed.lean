import TargetRegistrar.Backoff.Fibonacci
import TargetRegistrar.Gateway.InMemory
import TargetRegistrar.Proofs.Controller.Decision

/-!
# Programs that nobody disturbs

A scene is what a program has around it: the store and the gateway in memory, and the accounts of
failures.  If nobody interferes and nothing is cancelled, the scene decides every answer but three:
what time it is, how long a call takes, and which token is drawn among those that the gateway does
not know.  `Play` is the course of a program through scenes, whatever these turn out to be, with the
exchanges that it has made.

`Program.Ensures` is the weakest precondition for a program: from the scene on, every course ends as
the postcondition says.  It is computed from the program, so that it is proved part by part
(`Pass.ensures_bind`), and `Play.ensured` carries it over to courses.  That there is a course at all
is a statement of its own (`exists_play`).
-/

namespace TargetRegistrar.Controller

open Gateway

/-! ## Scenes and plays -/

/-- What a program has around it. -/
structure Scene where
  store : Store.InMemory := {}
  gateway : Gateway.InMemory := {}
  ledger : Backoff.Ledger := {}

/-- How a question can be answered when nobody interferes and nothing is cancelled, and the scene
afterwards. -/
def Scene.Answers (s : Scene) : (q : Query) → q.Answer → Scene → Prop
  | .store request, outcome, s' =>
    outcome = (s.store.serve request).1 ∧ s' = { s with store := (s.store.serve request).2 }
  | .gateway call, raced, s' =>
    ∃ time, raced = .finished (s.gateway.serve time call).1 ∧
      s' = { s with gateway := (s.gateway.serve time call).2 }
  | .wait _, raced, s' => raced = .finished () ∧ s' = s
  | .isCancelled, cancelled, s' => cancelled = false ∧ s' = s
  | .freshToken, token, s' => s.gateway.tokens.get? token = none ∧ s' = s
  | .fail key, delay, s' =>
    delay = (s.ledger.fail key).1 ∧ s' = { s with ledger := (s.ledger.fail key).2 }
  | .succeed key, _, s' => s' = { s with ledger := s.ledger.succeed key }
  | .forget key, _, s' => s' = { s with ledger := s.ledger.forget key }
  | _, _, s' => s' = s

/-- A course of the program `p` from a scene on: what is left of it, the scene that it has come to,
and its exchanges, the last one first. -/
inductive Play {α : Type} (p : Program α) (s : Scene) :
    Program α → Scene → List Exchange → Prop where
  | start : Play p s p s []
  | asked {q : Query} {next : q.Answer → Program α} {s₁ s₂ : Scene} {trail : List Exchange}
      (h : Play p s (.ask q next) s₁ trail) (answer : q.Answer) (ha : s₁.Answers q answer s₂) :
      Play p s (next answer) s₂ (⟨q, answer, s₁.store⟩ :: trail)

/-- The program ends as `post` says, in every course that goes on from a scene and from some
exchanges. -/
def Program.Ensures {α : Type} (post : α → Scene → List Exchange → Prop) :
    Program α → Scene → List Exchange → Prop
  | .done a, s, trail => post a s trail
  | .ask q next, s, trail => ∀ answer s', s.Answers q answer s' →
      (next answer).Ensures post s' (⟨q, answer, s.store⟩ :: trail)

section Plays

variable {α β : Type} {p rest : Program α} {s s' : Scene} {trail : List Exchange}
  {post post' : α → Scene → List Exchange → Prop}

/-- What a program ensures is so wherever one of its courses ends. -/
lemma Play.ensured (h : Play p s rest s' trail) (hp : p.Ensures post s []) :
    rest.Ensures post s' trail := by
  induction h with
  | start => exact hp
  | asked _ answer ha ih => exact ih answer _ ha

namespace Program.Ensures

lemma weaken (h : p.Ensures post s trail)
    (hpost : ∀ a s' trail', post a s' trail' → post' a s' trail') : p.Ensures post' s trail := by
  induction p generalizing s trail with
  | done a => exact hpost a s trail h
  | ask q next ih =>
    intro answer s' ha
    exact ih answer (h answer s' ha)

lemma and (h : p.Ensures post s trail) (h' : p.Ensures post' s trail) :
    p.Ensures (fun a s' trail' => post a s' trail' ∧ post' a s' trail') s trail := by
  induction p generalizing s trail with
  | done a => exact ⟨h, h'⟩
  | ask q next ih => exact fun answer s' ha => ih answer (h answer s' ha) (h' answer s' ha)

lemma bind {post : β → Scene → List Exchange → Prop} {f : α → Program β}
    (h : p.Ensures (fun a s' trail' => (f a).Ensures post s' trail') s trail) :
    (p.bind f).Ensures post s trail := by
  induction p generalizing s trail with
  | done a => exact h
  | ask q next ih =>
    intro answer s' ha
    exact ih answer (h answer s' ha)

/-- What every answer preserves holds at the end if it holds at the start. -/
lemma keeping {I : Scene → Prop} (hI : ∀ {s s' q answer}, I s → s.Answers q answer s' → I s')
    (hs : I s) (h : p.Ensures post s trail) :
    p.Ensures (fun a s' trail' => I s' ∧ post a s' trail') s trail := by
  induction p generalizing s trail with
  | done a => exact ⟨hs, h⟩
  | ask q next ih =>
    intro answer s' ha
    exact ih answer (hI hs ha) (h answer s' ha)

/-- What all questions of a program preserve holds at the end if it holds at the start. -/
lemma of_asks {P : Query → Prop} {I : Scene → List Exchange → Prop} (hp : p.Asks P)
    (hI : ∀ {q : Query} {answer : q.Answer} {s s' : Scene} {trail : List Exchange}, P q →
      s.Answers q answer s' → I s trail → I s' (⟨q, answer, s.store⟩ :: trail))
    (h : I s trail) : p.Ensures (fun _ s' trail' => I s' trail') s trail := by
  induction p generalizing s trail with
  | done a => exact h
  | ask q next ih =>
    intro answer s' ha
    exact ih answer (hp.2 answer) (hI hp.1 ha h)

/-- Nothing needs to be known for nothing to be ensured. -/
lemma trivially (p : Program α) (s : Scene) (trail : List Exchange) :
    p.Ensures (fun _ _ _ => True) s trail := by
  induction p generalizing s trail with
  | done a => trivial
  | ask q next ih => exact fun answer s' _ => ih answer s' _

end Program.Ensures

/-! ## There is a course -/

/-- All drawn tokens from some number on are unknown. -/
lemma exists_unknown_token (es : List (CreateToken × String)) :
    ∃ bound, ∀ n, bound ≤ n → Table.find (.drawn n) es = none := by
  induction es with
  | nil => exact ⟨0, fun _ _ => rfl⟩
  | cons e es ih =>
    obtain ⟨bound, hbound⟩ := ih
    obtain ⟨token, targetId⟩ := e
    cases token with
    | chosen text =>
      refine ⟨bound, fun n hn => ?_⟩
      simpa [Table.find] using hbound n hn
    | drawn k =>
      refine ⟨max bound (k + 1), fun n hn => ?_⟩
      have hk : k ≠ n := by omega
      have hn' : bound ≤ n := by omega
      simpa [Table.find, hk] using hbound n hn'

/-- Every question has an answer. -/
lemma Scene.exists_answers (s : Scene) (q : Query) : ∃ answer s', s.Answers q answer s' := by
  cases q with
  | store request => exact ⟨_, _, rfl, rfl⟩
  | gateway call => exact ⟨_, _, 0, rfl, rfl⟩
  | wait delay => exact ⟨_, _, rfl, rfl⟩
  | isCancelled => exact ⟨_, _, rfl, rfl⟩
  | now => exact ⟨Store.deletionInstant, s, rfl⟩
  | freshToken =>
    obtain ⟨bound, hbound⟩ := exists_unknown_token s.gateway.tokens.entries
    exact ⟨.drawn bound, s, hbound bound (Nat.le_refl bound), rfl⟩
  | fail key => exact ⟨_, _, rfl, rfl⟩
  | _ => exact ⟨(), _, rfl⟩

/-- Every program has a course that comes to its end. -/
lemma exists_play (p : Program α) (s : Scene) :
    ∃ a s' trail, Play p s (.done a) s' trail := by
  have hgoes : ∀ (rest : Program α) (s₁ : Scene) (trail : List Exchange),
      Play p s rest s₁ trail → ∃ a s' trail', Play p s (.done a) s' trail' := by
    intro rest
    induction rest with
    | done a => exact fun s₁ trail h => ⟨a, s₁, trail, h⟩
    | ask q next ih =>
      intro s₁ trail h
      obtain ⟨answer, s₂, ha⟩ := s₁.exists_answers q
      exact ih answer s₂ _ (h.asked answer ha)
  exact hgoes p s [] .start

end Plays

/-! ## Parts of a pass -/

section Parts

variable {ε α β : Type} {s s' : Scene} {trail : List Exchange}

/-- A part of a pass ends as `post` says. -/
abbrev Pass.Ensures (post : Except ε α → Scene → List Exchange → Prop) (p : Pass ε α) (s : Scene)
    (trail : List Exchange) : Prop :=
  Program.Ensures post p.run s trail

variable {post : Except ε β → Scene → List Exchange → Prop}

lemma Pass.ensures_bind {mid : Except ε α → Scene → List Exchange → Prop} {p : Pass ε α}
    {f : α → Pass ε β} (h : p.Ensures mid s trail)
    (hf : ∀ a s' trail', mid (.ok a) s' trail' → (f a).Ensures post s' trail')
    (hstop : ∀ e s' trail', mid (.error e) s' trail' → post (.error e) s' trail') :
    (p >>= f).Ensures post s trail := by
  refine Program.Ensures.bind (h.weaken ?_)
  rintro (e | a) s' trail' hmid
  · exact hstop e s' trail' hmid
  · exact hf a s' trail' hmid

/-- A part goes on after a program that the store cannot stop. -/
lemma Pass.ensures_lift {mid : α → Scene → List Exchange → Prop} {p : Program α}
    {f : α → Pass ε β} (h : p.Ensures mid s trail)
    (hf : ∀ a s' trail', mid a s' trail' → (f a).Ensures post s' trail') :
    (Pass.lift p >>= f).Ensures post s trail := by
  rw [Pass.Ensures, Pass.run_lift_bind]
  exact Program.Ensures.bind (h.weaken hf)

/-- A part of a pass that only the store can stop is followed by another one. -/
lemma Pass.ensures_ofStore {mid : Except Store.Error α → Scene → List Exchange → Prop}
    {p : Pass Store.Error α} {f : α → Pass Error β}
    {post : Except Error β → Scene → List Exchange → Prop} (h : p.Ensures mid s trail)
    (hf : ∀ a s' trail', mid (.ok a) s' trail' → (f a).Ensures post s' trail')
    (hstop : ∀ e s' trail', mid (.error e) s' trail' → post (.error (.store e)) s' trail') :
    (Pass.ofStore p >>= f).Ensures post s trail := by
  refine Program.Ensures.bind (Program.Ensures.bind (h.weaken ?_))
  rintro (e | a) s' trail' hmid
  · exact hstop e s' trail' hmid
  · exact hf a s' trail' hmid

lemma Pass.ensures_orElse {p : Pass ε β} {instead : ε → Pass ε β}
    (h : p.Ensures (fun outcome s' trail' => match outcome with
      | .ok a => post (.ok a) s' trail'
      | .error e => (instead e).Ensures post s' trail') s trail) :
    (p.orElse instead).Ensures post s trail := by
  refine Program.Ensures.bind (h.weaken ?_)
  rintro (e | a) s' trail' hend
  · exact hend
  · exact hend

/-- The store serves a request in the one way that it can. -/
lemma Pass.ensures_store {request : Store.Request}
    {post : request.Outcome → Scene → List Exchange → Prop}
    (h : post (s.store.serve request).1 { s with store := (s.store.serve request).2 }
      (⟨.store request, (s.store.serve request).1, s.store⟩ :: trail)) :
    (Pass.store request).Ensures post s trail := by
  rintro outcome s' ⟨rfl, rfl⟩
  exact h

/-- A question that concerns neither store nor gateway leaves both as they are. -/
lemma Scene.Answers.idle {q : Query} {answer : q.Answer} (h : s.Answers q answer s')
    (hq : q.isIdle) : s'.store = s.store ∧ s'.gateway = s.gateway := by
  cases q with
  | store request => cases hq
  | gateway call => cases hq
  | wait delay => exact ⟨h.2 ▸ rfl, h.2 ▸ rfl⟩
  | isCancelled => exact ⟨h.2 ▸ rfl, h.2 ▸ rfl⟩
  | freshToken => exact ⟨h.2 ▸ rfl, h.2 ▸ rfl⟩
  | fail key => exact ⟨h.2 ▸ rfl, h.2 ▸ rfl⟩
  | succeed key =>
    obtain rfl : s' = { s with ledger := s.ledger.succeed key } := h
    exact ⟨rfl, rfl⟩
  | forget key =>
    obtain rfl : s' = { s with ledger := s.ledger.forget key } := h
    exact ⟨rfl, rfl⟩
  | _ =>
    obtain rfl : s' = s := h
    exact ⟨rfl, rfl⟩

lemma Pass.ensures_idle {q : Query} {f : q.Answer → Pass ε β} (hq : q.isIdle)
    (hf : ∀ answer s', s'.store = s.store → s'.gateway = s.gateway →
      (f answer).Ensures post s' (⟨q, answer, s.store⟩ :: trail)) :
    (Pass.query q >>= f).Ensures post s trail := by
  intro answer s' ha
  obtain ⟨hstore, hgateway⟩ := ha.idle hq
  exact hf answer s' hstore hgateway

end Parts

end TargetRegistrar.Controller
