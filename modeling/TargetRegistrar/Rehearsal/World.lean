import TargetRegistrar.Backoff.Fibonacci
import TargetRegistrar.Gateway.InMemory
import TargetRegistrar.Gateway.Target
import TargetRegistrar.Metrics
import TargetRegistrar.Resource.Basic
import TargetRegistrar.Store.InMemory

/-!
# The world of a rehearsal

A store and a gateway in memory, the controller's counters and backoffs, and a clock that stands
still unless something waits. No wait is longer than thirty years. Cancellation is by tokens: one of
them is current, and each is cancelled at certain times. Calls of the controller are logged as they
end.

Others than the controller interfere with the world: users, other writers, the gateway itself, and
whoever cancels a pass. An interference may also lie in wait for a call of the controller to the
store, and take place just before that call.
-/

namespace TargetRegistrar.Rehearsal

/-! ## Edits -/

/-- The kinds of request to the store. -/
inductive StoreCall where
  | get
  | replaceFinalizers
  | replaceStatus
  deriving DecidableEq, Repr

namespace StoreCall

/-- The kind of a request. -/
def ofRequest : Store.Request → StoreCall
  | .get .. => get
  | .replaceFinalizers .. => replaceFinalizers
  | .replaceStatus .. => replaceStatus

end StoreCall

/-- A copy of a resource. -/
inductive Copy where
  | saved (label : String)
  | given (resource : Resource)
  deriving DecidableEq, Repr

/-- An interference. -/
inductive Edit where
  | insert (resource : Resource)
  | save (label ns name : String)
  | updateSpec (ns name : String) (spec : Spec)
  | markDeleted (ns name : String)
  /-- Replace finalizers, based on a copy. -/
  | replaceFinalizers (copy : Copy) (finalizers : List String)
  /-- Replace a status, based on a copy. -/
  | replaceStatus (copy : Copy) (status : Status)
  | injectStatusConflicts (count : Nat)
  | injectFinalizerConflicts (count : Nat)
  | placeTarget (gatewayId targetId status : String)
  | setTarget (targetId : String) (state : Gateway.TargetState)
  | failNext (operation : Gateway.Operation) (error : Gateway.Error) (times : Nat)
  | clearCalls
  /-- From now on, let the calls of an operation take some milliseconds. -/
  | delay (operation : Gateway.Operation) (millis : Nat)
  | cancel
  | cancelAfter (millis : Nat)
  | newToken
  /-- Lie in wait: skip some calls of a kind; before the next one make some edits, and let it fail
  if there is an error. -/
  | ambush (call : StoreCall) (skip : Nat) (error : Option Store.Error) (edits : List Edit)
  deriving Repr

/-! ## The world -/

open Gateway (Operation TargetState)

/-- An interference that lies in wait. -/
structure Ambush where
  call : StoreCall
  /-- How many such calls are still let by. -/
  skip : Nat
  /-- The error with which the call is to fail. -/
  error : Option Store.Error
  edits : List Edit
  deriving Repr

/-- A request to the store that has ended. -/
structure StoreRecord where
  request : Store.Request
  outcome : request.Outcome

/-- A call of the gateway that has ended. -/
structure GatewayRecord where
  call : Gateway.Call
  began : Nat
  outcome : call.Outcome

/-- Everything around the controller. -/
structure World where
  store : Store.InMemory := {}
  gateway : Gateway.InMemory := {}
  ledger : Backoff.Ledger := {}
  metrics : Metrics := {}
  clock : Nat := 0
  readings : Nat := 0
  createTokens : Nat := 0
  /-- How long the calls of an operation take, in milliseconds. -/
  delays : Table Operation Nat := {}
  token : Nat := 0
  /-- Which tokens are cancelled, and when. -/
  cancellations : List (Nat × Nat) := []
  /-- What lies in wait, the oldest first. -/
  ambushes : List Ambush := []
  copies : Table String Resource := {}
  /-- The ended requests to the store, the last one first. -/
  storeLog : List StoreRecord := []
  /-- The ended calls of the gateway, the last one first. -/
  gatewayLog : List GatewayRecord := []

/-- The longest wait in milliseconds: thirty years of 365 days. -/
def longestWait : Nat := 946080000000

namespace World

/-- The time at which a wait ends that is to last some milliseconds from now. -/
def endOfWait (w : World) (millis : Nat) : Nat :=
  w.clock + min millis longestWait

/-- When a token is cancelled, if that is known yet. -/
def cancelledAt? (w : World) (token : Nat) : Option Nat :=
  ((w.cancellations.filter fun c => c.1 = token).map (·.2)).min?

/-- Whether a token is cancelled by now. -/
def isCancelled (w : World) (token : Nat) : Bool :=
  (w.cancelledAt? token).any (· ≤ w.clock)

/-- A copy of a resource. -/
def copy? (w : World) : Copy → Option Resource
  | .saved label => w.copies.get? label
  | .given resource => some resource

/-- A function that is applied a number of times. -/
def times {α : Type} (f : α → α) : Nat → α → α
  | 0, a => a
  | n + 1, a => times f n (f a)

/-! ### Interference -/

/-- What an edit is answered with. -/
inductive EditReply where
  | made
  /-- It has been made; this is the version of the resource, if there is one. -/
  | version (version : Option String)
  | served (outcome : Except Store.Error Resource)
  /-- It could not be made, for there is no such copy. -/
  | noCopy

/-- Makes an edit. -/
def edit (w : World) : Edit → EditReply × World
  | .insert resource =>
    let (stored, store) := w.store.insert resource
    (.version stored.metadata.resourceVersion, { w with store })
  | .save label ns name =>
    match w.store.current ns name with
    | some r => (.version r.metadata.resourceVersion, { w with copies := w.copies.insert label r })
    | none => (.version none, w)
  | .updateSpec ns name spec =>
    (.made, { w with store := w.store.updateSpec ns name fun _ => spec })
  | .markDeleted ns name => (.made, { w with store := w.store.markDeleted ns name })
  | .replaceFinalizers copy finalizers =>
    match w.copy? copy with
    | none => (.noCopy, w)
    | some r =>
      let (outcome, store) := w.store.replaceFinalizers r finalizers
      (.served outcome, { w with store })
  | .replaceStatus copy status =>
    match w.copy? copy with
    | none => (.noCopy, w)
    | some r =>
      let (outcome, store) := w.store.replaceStatus r status
      (.served outcome, { w with store })
  | .injectStatusConflicts count =>
    (.made, { w with store := w.store.injectStatusConflicts count })
  | .injectFinalizerConflicts count =>
    (.made, { w with store := w.store.injectFinalizerConflicts count })
  | .placeTarget gatewayId targetId status =>
    (.made, { w with gateway := w.gateway.place gatewayId targetId status })
  | .setTarget targetId state => (.made, { w with gateway := w.gateway.setState targetId state })
  | .failNext operation error count =>
    (.made, { w with gateway := times (·.failNext operation error) count w.gateway })
  | .clearCalls => (.made, { w with gateway := { w.gateway with received := [] } })
  | .delay operation millis => (.made, { w with delays := w.delays.insert operation millis })
  | .cancel => (.made, { w with cancellations := (w.token, w.clock) :: w.cancellations })
  | .cancelAfter millis =>
    (.made, { w with cancellations := (w.token, w.endOfWait millis) :: w.cancellations })
  | .newToken => (.made, { w with token := w.token + 1 })
  | .ambush call skip error edits =>
    (.made, { w with ambushes := w.ambushes ++ [⟨call, skip, error, edits⟩] })

/-- Makes edits in turn. -/
def editAll (w : World) (edits : List Edit) : World :=
  edits.foldl (fun w e => (w.edit e).2) w

/-! ### Ambushes -/

/-- What is left of an ambush after a call of a kind: nothing if it was due. -/
def Ambush.after (call : StoreCall) (a : Ambush) : Option Ambush :=
  if a.call = call then
    match a.skip with
    | 0 => none
    | skip + 1 => some { a with skip }
  else some a

/-- Whether an ambush is due at the next call of a kind. -/
def Ambush.isDue (call : StoreCall) (a : Ambush) : Bool :=
  a.call = call && a.skip = 0

/-- Lets due ambushes take place in turn, up to the first one with an error. -/
def spring (w : World) : List Ambush → Option Store.Error × World
  | [] => (none, w)
  | a :: due =>
    match a.error with
    | some e => (some e, w.editAll a.edits)
    | none => (w.editAll a.edits).spring due

/-- Lets everything take place that waits for a call of this kind; all of it is used up. -/
def meet (w : World) (call : StoreCall) : Option Store.Error × World :=
  { w with ambushes := w.ambushes.filterMap (Ambush.after call) }.spring
    (w.ambushes.filter (Ambush.isDue call))

/-! ### What the world hands out -/

/-- The `n`-th reading of the time: a date far in the future, a nanosecond after the reading before
it. -/
def reading (n : Nat) : Timestamp :=
  ⟨⟨2100, 1, 1, by decide⟩, n / 3600000000000 % 24, n / 60000000000 % 60, n / 1000000000 % 60,
    n % 1000000000, by omega⟩

end World

end TargetRegistrar.Rehearsal
