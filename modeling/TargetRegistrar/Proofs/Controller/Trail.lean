import TargetRegistrar.Proofs.Controller.Course
import TargetRegistrar.Proofs.Store.Versions

/-!
# One pass among other writers

A pass is not alone: between two of its questions others may edit the store as they like, so that
what it has read may be stale before it is used.  `Trail` holds what a pass has asked so far and
what it was answered, with the store as each question met it.  The store serves or refuses the
requests of the pass; everything else may be answered in any way.

`Trail.exists_follows` and `Trail.exists_step` are how a statement on all trails is proved: an
assertion on the phases that others cannot break and that every move hands on holds wherever the
program has come to, and before each exchange.
-/

namespace TargetRegistrar.Controller

open Store

/-- A question of a pass, what it was answered, and the store that the question met. -/
structure Exchange where
  query : Query
  answer : query.Answer
  before : Store.InMemory

/-- How a question changes the store: a request is served or refused, any other question leaves the
store alone. -/
def Answers (s : Store.InMemory) : (q : Query) → q.Answer → Store.InMemory → Prop
  | .store request, outcome, s' => s.Serves request outcome s'
  | _, _, s' => s' = s

/-- The pass `p` is left with `rest` to do in the store `s`, after the exchanges of the trail, the
last one first. -/
inductive Trail {α : Type} (p : Program α) : Program α → Store.InMemory → List Exchange → Prop where
  | start : Trail p p {} []
  | edited {rest : Program α} {s : Store.InMemory} {trail : List Exchange}
      (h : Trail p rest s trail) (e : Edit) : Trail p rest (s.edit e) trail
  | asked {q : Query} {next : q.Answer → Program α} {s s' : Store.InMemory} {trail : List Exchange}
      (h : Trail p (.ask q next) s trail) (answer : q.Answer) (hs : Answers s q answer s') :
      Trail p (next answer) s' (⟨q, answer, s⟩ :: trail)

lemma Answers.touch {s s' : Store.InMemory} {q : Query} {answer : q.Answer} (hs : s.Orderly)
    (h : Answers s q answer s') : s.Touch s' := by
  cases q with
  | store request => exact Store.InMemory.Serves.touch hs h
  | _ =>
    obtain rfl : s' = s := h
    exact .kept (.refl s')

namespace Trail

variable {α : Type} {p rest : Program α} {s : Store.InMemory} {trail : List Exchange}

lemma orderly (h : Trail p rest s trail) : s.Orderly := by
  induction h with
  | start => exact .empty
  | edited _ e ih => exact ih.touch (Store.InMemory.edit_touch ih e)
  | asked _ _ hs ih => exact ih.touch (hs.touch ih)

/-- An exchange of a trail ended an earlier trail. -/
lemma of_suffix {x : Exchange} {earlier : List Exchange} (h : Trail p rest s trail)
    (hx : (x :: earlier) <:+ trail) :
    ∃ next s', Trail p (.ask x.query next) x.before earlier ∧
      Answers x.before x.query x.answer s' := by
  induction h with
  | start => simp at hx
  | edited _ _ ih => exact ih hx
  | asked h _ hs ih =>
    obtain hx | hx := List.suffix_cons_iff.mp hx
    · cases hx
      exact ⟨_, _, h, hs⟩
    · exact ih hx

end Trail

/-- An assertion on the phases of a program that holds at its start, that no writer breaks and that
every move hands on. -/
structure Stable {P : Type} (M : P → (q : Query) → q.Answer → P → Prop) (start : P)
    (At : P → Store.InMemory → List Exchange → Prop) : Prop where
  opening : ∀ s, At start s []
  touched : ∀ {ph s s' trail}, At ph s trail → s.Touch s' → At ph s' trail
  moved : ∀ {ph ph' q answer s s' trail}, s.Orderly → At ph s trail → M ph q answer ph' →
    Answers s q answer s' → At ph' s' (⟨q, answer, s⟩ :: trail)

namespace Trail

variable {α P : Type} {M : P → (q : Query) → q.Answer → P → Prop} {start : P}
  {At : P → Store.InMemory → List Exchange → Prop} {post : α → P → Prop} {p rest : Program α}
  {s : Store.InMemory} {trail : List Exchange}

/-- A stable assertion holds in the phase that a program has come to. -/
lemma exists_follows (hAt : Stable M start At) (hp : p.Follows M post start)
    (h : Trail p rest s trail) : ∃ ph, rest.Follows M post ph ∧ At ph s trail := by
  induction h with
  | start => exact ⟨start, hp, hAt.opening _⟩
  | edited h e ih =>
    obtain ⟨ph, hfollows, hph⟩ := ih
    exact ⟨ph, hfollows, hAt.touched hph (Store.InMemory.edit_touch h.orderly e)⟩
  | asked h answer hs ih =>
    obtain ⟨ph, hfollows, hph⟩ := ih
    obtain ⟨ph', hmoves, hnext⟩ := hfollows answer
    exact ⟨ph', hnext, hAt.moved h.orderly hph hmoves hs⟩

/-- A stable assertion held before each exchange of a program, and the exchange was a step of the
relation that the program keeps to. -/
lemma exists_step {x : Exchange} {earlier : List Exchange} (hAt : Stable M start At)
    (hp : p.Follows M post start) (h : Trail p rest s trail) (hx : (x :: earlier) <:+ trail) :
    ∃ ph ph' s', At ph x.before earlier ∧ M ph x.query x.answer ph' ∧
      Answers x.before x.query x.answer s' := by
  obtain ⟨next, s', hbefore, hs⟩ := h.of_suffix hx
  obtain ⟨ph, hfollows, hph⟩ := hbefore.exists_follows hAt hp
  obtain ⟨ph', hmoves, -⟩ := hfollows x.answer
  exact ⟨ph, ph', s', hph, hmoves, hs⟩

/-- A stable assertion held before each exchange of a pass, and the exchange was a move. -/
lemma exists_move {c : Config} {ns name : String}
    {At : Phase → Store.InMemory → List Exchange → Prop}
    {rest : Program (Except Error Directive)} {x : Exchange} {earlier : List Exchange}
    (hAt : Stable (Moves c ns name) .opening At) (h : Trail (reconcile c ns name).run rest s trail)
    (hx : (x :: earlier) <:+ trail) :
    ∃ ph ph' s', At ph x.before earlier ∧ Moves c ns name ph x.query x.answer ph' ∧
      Answers x.before x.query x.answer s' :=
  h.exists_step hAt (reconcile_follows c ns name) hx

end Trail

end TargetRegistrar.Controller
