import TargetRegistrar.Controller.Program
import TargetRegistrar.Controller.Reconcile
import TargetRegistrar.Rehearsal.World

/-!
# Scripts

A script is a sequence of steps in one world: interference, looks at the world, passes of the
controller, a watch that hands resources to it, and single parts of a pass. Each step has a report.

A program of the controller runs against the world: requests to the store are served at once, calls
of the gateway and waits take time. Whatever takes time may be cut short by the cancellation of the
program's token, which counts first, or by the end of the performance, at which the program is
dropped without a result.
-/

namespace TargetRegistrar.Rehearsal

open Controller Gateway

/-! ## Performances -/

/-- The conditions of a performance. -/
structure Stage where
  token : Nat
  /-- When the performance ends, if it does not last until the program has ended. -/
  closes : Option Nat

/-- A program has been dropped. -/
inductive Dropped where
  /-- It was still running when the performance ended. -/
  | unfinished
  deriving DecidableEq, Repr

/-- What a part of a program does to the world. -/
abbrev Performance : Type → Type := ExceptT Dropped (StateM World)

namespace Stage

/-- Lets some milliseconds pass. -/
def elapse (s : Stage) (millis : Nat) : Performance (Raced Unit) := do
  let w ← get
  let ends := w.endOfWait millis
  let cancelled := (w.cancelledAt? s.token).filter (· ≤ ends)
  match s.closes.filter fun t => t ≤ ends && cancelled.all (t < ·) && w.clock < ends with
  | some t =>
    set { w with clock := t }
    throw .unfinished
  | none =>
    match cancelled with
    | some t =>
      set { w with clock := max w.clock t }
      return .cancelled
    | none =>
      set { w with clock := ends }
      return .finished ()

/-- Serves a request to the store. -/
def serveStore (request : Store.Request) : Performance request.Outcome := do
  let w ← get
  let (error, w) := w.meet (.ofRequest request)
  let (outcome, store) :=
    match error with
    | some e => (.error e, w.store)
    | none => w.store.serve request
  set { w with store, storeLog := ⟨request, outcome⟩ :: w.storeLog }
  return outcome

/-- Makes a call of the gateway. -/
def serveGateway (s : Stage) (call : Gateway.Call) : Performance (Raced call.Outcome) := do
  let began := (← get).clock
  match ← s.elapse (((← get).delays.get? call.operation).getD 0) with
  | .cancelled => return .cancelled
  | .finished _ =>
    let w ← get
    let (outcome, gateway) := w.gateway.serve w.clock call
    set { w with gateway, gatewayLog := ⟨call, began, outcome⟩ :: w.gatewayLog }
    return .finished outcome

/-- Answers what a program asks. -/
def answer (s : Stage) : (q : Query) → Performance q.Answer
  | .store request => serveStore request
  | .gateway call => s.serveGateway call
  | .wait delay => s.elapse delay.ceilMillis
  | .isCancelled => do return (← get).isCancelled s.token
  | .now => do
    let w ← get
    set { w with readings := w.readings + 1 }
    return World.reading w.readings
  | .freshToken => do
    let w ← get
    set { w with createTokens := w.createTokens + 1 }
    return .drawn w.createTokens
  | .fail key => do
    let w ← get
    let (delay, ledger) := w.ledger.fail key
    set { w with ledger }
    return delay
  | .succeed key => modify fun w => { w with ledger := w.ledger.succeed key }
  | .forget key => modify fun w => { w with ledger := w.ledger.forget key }
  | .countCall operation success =>
    modify fun w => { w with metrics := w.metrics.countCall operation.label success }
  | .countPass => modify fun w => { w with metrics := w.metrics.countPass 0 }
  | .countError label => modify fun w => { w with metrics := w.metrics.countError label }
  | .countRequeue reason => modify fun w => { w with metrics := w.metrics.countRequeue reason }

/-- Runs a program; there is no result if it is dropped. -/
def perform {α : Type} (s : Stage) (p : Program α) (w : World) : Option α × World :=
  match (p.interpret s.answer).run.run w with
  | (.ok a, w) => (some a, w)
  | (.error .unfinished, w) => (none, w)

end Stage

/-! ## Scripts -/

/-- A change of status with what it needs besides the resource. -/
inductive StatusStep where
  | created (target : CreatedTarget)
  | state (state : TargetState)
  | ready
  | notReady (reason message : String)
  | condition (condition : Condition)

namespace StatusStep

/-- The pass that makes the change. -/
def pass (r : Resource) : StatusStep → Pass Store.Error Resource
  | created target => recordCreated r target
  | state s => recordState r s
  | ready => setReady r
  | notReady reason message => setNotReady r reason message
  | condition c => putCondition r c

end StatusStep

/-- A step. -/
inductive Step where
  | edit (edit : Edit)
  | current (ns name : String)
  | writes
  | target (targetId : String)
  | targetCount
  | callCount (operation : Operation)
  | callTimes (operation : Operation)
  | calls
  | sleep (millis : Nat)
  | reconcile (ns name : String)
  /-- Hand resources to the controller. The watch ends with the last of them, or, if it stays open,
  after some milliseconds. -/
  | watch (resources : List Resource) (openFor : Option Nat)
  | fail (key : String)
  | succeed (key : String)
  | forget (key : String)
  | metrics
  | status (copy : Copy) (change : StatusStep)
  | call (call : Call)

/-- What a watch did. -/
structure WatchReport where
  /-- The actions decided on, in order. -/
  actions : List (Decider × Action)
  /-- How many resources were never handed over. -/
  left : Nat
  /-- Why the watch failed, unless it was ended. -/
  failure : Option Controller.Error

/-- What a step is answered with. -/
inductive Report where
  | edited (reply : World.EditReply)
  | stored (resource : Option Resource)
  | writes (status finalizers : Nat)
  | target (state : Option TargetState)
  | number (n : Nat)
  | times (millis : List Nat)
  | calls (calls : List Call)
  | done
  /-- The result of a pass, and the resource that is stored after it. -/
  | pass (result : Except Store.Error Directive) (after : Option Resource)
  | watch (report : WatchReport)
  | delay (delay : Duration)
  | metrics (metrics : Metrics)
  | called (call : Call) (outcome : call.Outcome)

/-- The end of the watch when there is nothing more to hand over. -/
def streamEnded : Controller.Error :=
  .watch "MCPServer watch stream ended"

/-- Hands resources to the controller until one of its programs is dropped. -/
def handOver (c : Config) (s : Stage) :
    List Resource → World → (List (Decider × Action) × Nat) × World
  | [], w => (([], 0), w)
  | r :: rs, w =>
    match s.perform (handle c r) w with
    | (none, w) => (([], rs.length), w)
    | (some action, w) =>
      let ((actions, left), w) := handOver c s rs w
      ((action :: actions, left), w)

/-- A watch under the current token. -/
def watch (c : Config) (resources : List Resource) (openFor : Option Nat) (w : World) :
    WatchReport × World :=
  let closes := openFor.map w.endOfWait
  let ((actions, left), w) := handOver c ⟨w.token, closes⟩ resources w
  match closes with
  | none => (⟨actions, left, some streamEnded⟩, w)
  | some t => (⟨actions, left, none⟩, { w with clock := max w.clock t })

/-- A program under the current token that nothing drops. -/
def act {α : Type} (p : Program α) (w : World) : Option α × World :=
  Stage.perform ⟨w.token, none⟩ p w

/-- A call with the repetitions of the policy. -/
def callOperation (policy : RetryPolicy) : (call : Call) → Program call.Outcome
  | .create request => createTarget policy request
  | .get gatewayId targetId => getTarget gatewayId targetId
  | .update request => updateTarget policy request
  | .delete gatewayId targetId => deleteTarget policy gatewayId targetId

/-- Makes a step. -/
def World.step (c : Config) (w : World) : Step → Report × World
  | .edit e =>
    let (reply, w) := w.edit e
    (.edited reply, w)
  | .current ns name => (.stored (w.store.current ns name), w)
  | .writes => (.writes w.store.statusWrites w.store.finalizerWrites, w)
  | .target targetId => (.target (w.gateway.target? targetId), w)
  | .targetCount => (.number w.gateway.targets.size, w)
  | .callCount operation => (.number (w.gateway.callsOf operation).length, w)
  | .callTimes operation => (.times ((w.gateway.callsOf operation).map (·.2)), w)
  | .calls => (.calls (w.gateway.calls.map (·.1)), w)
  | .sleep millis => (.done, { w with clock := w.endOfWait millis })
  | .reconcile ns name =>
    match act (Controller.reconcile c ns name).run w with
    | (some (.ok directive), w) => (.pass (.ok directive) (w.store.current ns name), w)
    | (some (.error (.store e)), w) => (.pass (.error e) (w.store.current ns name), w)
    -- nothing drops the pass, and nothing but the store stops it
    | (_, w) => (.done, w)
  | .watch resources openFor =>
    let (report, w) := Rehearsal.watch c resources openFor w
    (.watch report, w)
  | .fail key =>
    let (delay, ledger) := w.ledger.fail key
    (.delay delay, { w with ledger })
  | .succeed key => (.done, { w with ledger := w.ledger.succeed key })
  | .forget key => (.done, { w with ledger := w.ledger.forget key })
  | .metrics => (.metrics w.metrics, w)
  | .status copy change =>
    match w.copy? copy with
    | none => (.edited .noCopy, w)
    | some r =>
      match act (change.pass r).run w with
      | (some outcome, w) => (.edited (.served outcome), w)
      | (none, w) => (.done, w)
  | .call call =>
    match act (callOperation c.policy call) w with
    | (some outcome, w) => (.called call outcome, w)
    | (none, w) => (.done, w)

/-- Makes a step with an empty log, so that the log holds what the step has logged. -/
def World.loggedStep (c : Config) (w : World) (s : Step) : Report × World :=
  World.step c { w with storeLog := [], gatewayLog := [] } s

end TargetRegistrar.Rehearsal
