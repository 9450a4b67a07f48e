import TargetRegistrar.Duration
import TargetRegistrar.Gateway.Target
import TargetRegistrar.Resource.Basic

/-!
# Programs of the controller

What the controller does is a tree: it asks something of its surroundings, and for each answer it
goes on in its own way. The tree says nothing about who answers. A simulation answers from a store
and a gateway in memory, other writers may interfere before each answer, and a statement about all
surroundings ranges over all answers.

`Program.interpret` runs a program against a handler of questions in any monad. Calls of a gateway
and waits race against cancellation: their answer may be that it came first.
-/

namespace TargetRegistrar.Controller

/-- How something that can be cancelled ends. -/
inductive Raced (α : Type) where
  | cancelled
  | finished (result : α)
  deriving DecidableEq, Repr

/-- What the controller asks of its surroundings. -/
inductive Query where
  | store (request : Store.Request)
  /-- Make one remote call, unless cancellation comes first. -/
  | gateway (call : Gateway.Call)
  /-- Let time pass, unless cancellation comes first. -/
  | wait (delay : Duration)
  | isCancelled
  | now
  /-- A token that has never been used. -/
  | freshToken
  | fail (key : String)
  | succeed (key : String)
  | forget (key : String)
  | countCall (operation : Gateway.Operation) (success : Bool)
  /-- Count a pass, and how long it took. -/
  | countPass
  | countError (label : String)
  | countRequeue (reason : String)

/-- The answers to a query. -/
@[reducible] def Query.Answer : Query → Type
  | store request => request.Outcome
  | gateway call => Raced call.Outcome
  | wait _ => Raced Unit
  | isCancelled => Bool
  | now => Timestamp
  | freshToken => Gateway.CreateToken
  | fail _ => Duration
  | _ => Unit

/-- A program that ends with a value. -/
inductive Program (α : Type) where
  | done (value : α)
  /-- It asks, and goes on with the answer. -/
  | ask (query : Query) (next : query.Answer → Program α)

namespace Program

variable {α β γ : Type}

/-- The program that goes on with `f` where `p` ends. -/
def bind : Program α → (α → Program β) → Program β
  | done a, f => f a
  | ask q next, f => ask q fun answer => (next answer).bind f

instance : Monad Program where
  pure := done
  bind := bind

@[simp] theorem done_bind (a : α) (f : α → Program β) : (done a).bind f = f a := rfl

@[simp] theorem ask_bind (q : Query) (next : q.Answer → Program α) (f : α → Program β) :
    (ask q next).bind f = ask q fun answer => (next answer).bind f := rfl

theorem bind_done (p : Program α) : p.bind done = p := by
  induction p with
  | done a => rfl
  | ask q next ih => simp [ih]

theorem bind_assoc (p : Program α) (f : α → Program β) (g : β → Program γ) :
    (p.bind f).bind g = p.bind fun a => (f a).bind g := by
  induction p with
  | done a => rfl
  | ask q next ih => simp [ih]

instance : LawfulMonad Program :=
  LawfulMonad.mk' Program (fun p => bind_done p) (fun _ _ => rfl) bind_assoc

/-- The program that asks and ends with the answer. -/
def query (q : Query) : Program q.Answer :=
  ask q done

/-- Runs a program against a handler of its questions. -/
def interpret {m : Type → Type} [Monad m] (answer : (q : Query) → m q.Answer) : Program α → m α
  | done a => pure a
  | ask q next => do interpret answer (next (← answer q))

end Program

end TargetRegistrar.Controller
