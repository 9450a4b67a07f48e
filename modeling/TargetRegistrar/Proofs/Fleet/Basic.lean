import Mathlib.Logic.Function.Basic
import Mathlib.Logic.Relation
import TargetRegistrar.Gateway.InMemory
import TargetRegistrar.Proofs.Controller.Course
import TargetRegistrar.Proofs.Store.Versions

/-!
# Many passes

One controller, a store and a gateway in memory, and users.  Passes on different resources overlap
in any way; on one resource they follow one another.  Between any two questions of a pass users may
act and other passes may go on, a request to the store may be refused, a call may fail because an
error is scripted for it, and a pass may be given up.  A call that is cancelled may or may not have
reached the gateway.

The world keeps account of its deeds: which resources were inserted, for which copy of a resource a
call was made that the gateway accepted, and from which resource the finalizer was detached.  No
program sees that account; it is there for statements to refer to.
-/

namespace TargetRegistrar.Fleet

open Store Gateway Controller

/-- What has happened, as far as statements refer to it.  The copy with a call is the resource that
the store last handed to the pass which made the call. -/
inductive Deed where
  /-- A resource was inserted. -/
  | inserted (resource : Resource)
  /-- A create made a new target. -/
  | created (copy : Option Resource) (request : CreateRequest) (targetId : String)
  /-- A create returned the target that its token stands for. -/
  | recalled (copy : Option Resource) (request : CreateRequest) (targetId : String)
  /-- A target got a new configuration. -/
  | updated (request : UpdateRequest)
  /-- A gateway answered that a target does not exist, although it held it. -/
  | denied (targetId : String)
  /-- A pass detached the finalizer from a resource, which was stored like this before. -/
  | detached (resource : Resource)
  deriving DecidableEq

/-- Store, gateway, and what has happened. -/
structure World where
  store : Store.InMemory := {}
  gateway : Gateway.InMemory := {}
  deeds : List Deed := []

/-- What users and the surroundings do. -/
inductive Act where
  /-- Edit the store. -/
  | edit (e : Edit)
  /-- Let one more call of an operation fail. -/
  | failNext (operation : Operation) (error : Gateway.Error)
  /-- Change the state of a target. -/
  | setState (targetId : String) (state : TargetState)

/-- What an edit of the store is remembered by. -/
def deedsOfEdit : Edit → List Deed
  | .insert resource => [.inserted resource]
  | _ => []

/-- What a request of a pass is remembered by. -/
def deedsOfRequest (s : Store.InMemory) : (request : Store.Request) → request.Outcome → List Deed
  | .replaceFinalizers copy finalizers, .ok _ =>
    if finalizer ∈ finalizers then []
    else (s.objects.get? (location copy)).toList.map .detached
  | _, _ => []

/-- What a call of a pass is remembered by. -/
def deedsOfCall (g : Gateway.InMemory) (copy : Option Resource) :
    (call : Call) → call.Outcome → List Deed
  | .create request, .ok target =>
    if (g.remembered? request.clientToken).isSome then [.recalled copy request target.targetId]
    else [.created copy request target.targetId]
  | .update request, .ok _ => [.updated request]
  | .delete gatewayId targetId, .error e =>
    if e.isNotFound ∧ (g.heldBy? gatewayId targetId).isSome then [.denied targetId] else []
  | _, _ => []

namespace World

/-- The world after an act. -/
def act (w : World) : Act → World
  | .edit e => { w with store := w.store.edit e, deeds := deedsOfEdit e ++ w.deeds }
  | .failNext operation error => { w with gateway := w.gateway.failNext operation error }
  | .setState targetId state => { w with gateway := w.gateway.setState targetId state }

/-- The world after a request that left the store as `s` and ended with an outcome. -/
def afterRequest (w : World) (s : Store.InMemory) (request : Store.Request)
    (outcome : request.Outcome) : World :=
  { w with store := s, deeds := deedsOfRequest w.store request outcome ++ w.deeds }

/-- The world after a call that reached the gateway. -/
def afterCall (w : World) (copy : Option Resource) (time : Nat) (call : Call) : World :=
  { w with
    gateway := (w.gateway.serve time call).2
    deeds := deedsOfCall w.gateway copy call (w.gateway.serve time call).1 ++ w.deeds }

/-- How a question of a pass is answered, and the world afterwards. -/
def Answers (w : World) (copy : Option Resource) : (q : Query) → q.Answer → World → Prop
  | .store request, outcome, w' =>
    ∃ s, w.store.Serves request outcome s ∧ w' = w.afterRequest s request outcome
  | .gateway call, .finished outcome, w' =>
    ∃ time, outcome = (w.gateway.serve time call).1 ∧ w' = w.afterCall copy time call
  | .gateway call, .cancelled, w' => w' = w ∨ ∃ time, w' = w.afterCall copy time call
  | _, _, w' => w' = w

end World

/-- The copy that a pass has after an answer: the resource that the store handed to it, if it did,
else the one that it had. -/
def handed : (q : Query) → q.Answer → Option Resource → Option Resource
  | .store (.get ..), .ok (some r), _ => some r
  | .store (.replaceFinalizers ..), .ok r, _ => some r
  | .store (.replaceStatus ..), .ok r, _ => some r
  | _, _, copy => copy

/-- A pass that has begun: what is left of it, and the resource that the store last handed to it. -/
structure Underway where
  rest : Pass Controller.Error Directive
  copy : Option Resource

/-- A world, and the passes in it that have begun, at most one for each resource. -/
structure State where
  world : World := {}
  passes : Location → Option Underway := fun _ => none

/-- The state with another pass at a location. -/
def State.setPass (f : State) (place : Location) (pass : Option Underway) : State :=
  { f with passes := Function.update f.passes place pass }

/-- What can happen next, if users do only what they are permitted. -/
inductive Step (c : Config) (permits : World → Act → Prop) : State → State → Prop where
  /-- Somebody acts. -/
  | acted {f : State} (a : Act) (h : permits f.world a) :
      Step c permits f { f with world := f.world.act a }
  /-- A pass begins where none is under way. -/
  | begun {f : State} (place : Location) (h : f.passes place = none) :
      Step c permits f (f.setPass place (some ⟨reconcile c place.1 place.2, none⟩))
  /-- A pass is answered. -/
  | answered {f : State} {place : Location} {q : Query}
      {next : q.Answer → Pass Controller.Error Directive} {copy : Option Resource}
      (answer : q.Answer) {w : World}
      (h : f.passes place = some ⟨Program.ask q next, copy⟩)
      (ha : f.world.Answers copy q answer w) :
      Step c permits f
        { f.setPass place (some ⟨next answer, handed q answer copy⟩) with world := w }
  /-- A pass has ended, or is given up. -/
  | ended {f : State} (place : Location) : Step c permits f (f.setPass place none)

/-- What can be reached from an empty store and an empty gateway. -/
def Reachable (c : Config) (permits : World → Act → Prop) (f : State) : Prop :=
  Relation.ReflTransGen (Step c permits) {} f

/-! ## Undisturbed passes

A pass that nobody disturbs has one course.  Following it shows that a world can be reached. -/

namespace World

/-- The answer to a question that nothing disturbs, and the world afterwards. -/
def answer (w : World) (copy : Option Resource) : (q : Query) → q.Answer × World
  | .store request =>
    ((w.store.serve request).1,
      w.afterRequest (w.store.serve request).2 request (w.store.serve request).1)
  | .gateway call => (.finished (w.gateway.serve 0 call).1, w.afterCall copy 0 call)
  | .wait _ => (.finished (), w)
  | .isCancelled => (false, w)
  | .now => (deletionInstant, w)
  | .freshToken => (.drawn 0, w)
  | .fail _ => (.zero, w)
  | .succeed _ => ((), w)
  | .forget _ => ((), w)
  | .countCall _ _ => ((), w)
  | .countPass => ((), w)
  | .countError _ => ((), w)
  | .countRequeue _ => ((), w)

lemma answers_answer (w : World) (copy : Option Resource) (q : Query) :
    w.Answers copy q (w.answer copy q).1 (w.answer copy q).2 := by
  cases q with
  | store request => exact ⟨_, .inl ⟨rfl, rfl⟩, rfl⟩
  | gateway call => exact ⟨0, rfl, rfl⟩
  | _ => exact rfl

/-- The world after a program that nothing disturbs. -/
def perform {α : Type} (w : World) (copy : Option Resource) : Program α → World
  | .done _ => w
  | .ask q next =>
    (w.answer copy q).2.perform (handed q (w.answer copy q).1 copy) (next (w.answer copy q).1)

/-- The world after an undisturbed pass. -/
def pass (w : World) (c : Config) (place : Location) : World :=
  w.perform none (reconcile c place.1 place.2).run

end World

/-- What happens while no pass is disturbed. -/
inductive Event where
  /-- Somebody acts between two passes. -/
  | act (a : Act)
  /-- An undisturbed pass on the resource at a location. -/
  | pass (place : Location)

/-- The world after some events. -/
def World.after (w : World) (c : Config) : List Event → World
  | [] => w
  | .act a :: events => (w.act a).after c events
  | .pass place :: events => (w.pass c place).after c events

/-- Users do only what they are permitted in the course of the events. -/
def Permitted (c : Config) (permits : World → Act → Prop) : World → List Event → Prop
  | _, [] => True
  | w, .act a :: events => permits w a ∧ Permitted c permits (w.act a) events
  | w, .pass place :: events => Permitted c permits (w.pass c place) events

section Leading

variable {c : Config} {permits : World → Act → Prop} {w : World}

/-- A pass that nobody disturbs from now on leads to a state without it. -/
lemma leads_perform (w : World) (place : Location) (passes : Location → Option Underway)
    (p : Pass Controller.Error Directive) (copy : Option Resource) :
    Relation.ReflTransGen (Step c permits) ⟨w, Function.update passes place (some ⟨p, copy⟩)⟩
      ⟨w.perform copy p.run, Function.update passes place none⟩ := by
  induction p generalizing w copy with
  | done a =>
    have hended : Step c permits ⟨w, Function.update passes place (some ⟨.done a, copy⟩)⟩ _ :=
      .ended place
    simp only [State.setPass, Function.update_idem] at hended
    exact .single hended
  | ask q next ih =>
    have hstep : Step c permits ⟨w, Function.update passes place (some ⟨.ask q next, copy⟩)⟩ _ :=
      .answered (w.answer copy q).1 (Function.update_self ..) (w.answers_answer copy q)
    simp only [State.setPass, Function.update_idem] at hstep
    exact .head hstep (ih ..)

/-- An undisturbed pass leads to a state in which no pass is under way. -/
lemma leads_pass (w : World) (place : Location) :
    Relation.ReflTransGen (Step c permits) { world := w } { world := w.pass c place } := by
  have hbegun : Step c permits { world := w } _ := .begun place rfl
  have hended : Relation.ReflTransGen (Step c permits) _ _ :=
    leads_perform w place (fun _ => none) (reconcile c place.1 place.2) none
  rw [Function.update_eq_self_iff.mpr rfl] at hended
  exact .head hbegun hended

/-- Permitted events lead to a state in which no pass is under way. -/
lemma leads_after (events : List Event) (hpermitted : Permitted c permits w events) :
    Relation.ReflTransGen (Step c permits) { world := w } { world := w.after c events } := by
  induction events generalizing w with
  | nil => exact .refl
  | cons event events ih =>
    cases event with
    | act a => exact .head (.acted a hpermitted.1) (ih hpermitted.2)
    | pass place => exact (leads_pass w place).trans (ih hpermitted)

end Leading

namespace Reachable

variable {c : Config} {permits : World → Act → Prop} {w : World}

lemma start : Reachable c permits {} := .refl

/-- Permitted events lead to a state in which no pass is under way. -/
lemma after (events : List Event) (h : Reachable c permits { world := w })
    (hpermitted : Permitted c permits w events) :
    Reachable c permits { world := w.after c events } :=
  h.trans (leads_after events hpermitted)

end Reachable

/-- A configuration without a default gateway, whose calls are not repeated. -/
def exampleConfig : Config := ⟨none, .disabled, .ofSeconds 30⟩

/-- A resource as a user inserts it. -/
def exampleResource : Resource where
  metadata := { name := some "files", ns := some "tools", uid := some "u1", generation := some 1 }
  spec := { endpoint := "https://files.example", capabilities := ["tools"],
            gatewayId := some "gw" }
  status := none

/-- A resource is inserted, and its target is created and recorded. -/
def registered : List Event :=
  [.act (.edit (.insert exampleResource)), .pass ("tools", "files")]

end TargetRegistrar.Fleet
