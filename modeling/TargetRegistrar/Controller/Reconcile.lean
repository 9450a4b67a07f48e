import TargetRegistrar.Controller.Error
import TargetRegistrar.Controller.Retrying
import TargetRegistrar.Controller.StatusWrite
import TargetRegistrar.Registration.Build

/-!
# Passes

A pass looks at one resource and takes it one step further: a resource marked for deletion has its
target deleted and is let go; otherwise its specification is validated, the finalizer attached, the
target created, updated when the generation has moved on, and looked at until it is operational.

A conflict with another writer and a cancellation end the pass with a directive; every other refusal
of the store ends it with that error. A failure of the gateway never does.

For each resource that has changed the controller runs a pass and counts it. A failed pass is
counted under the label of its error, and the resource is looked at again after its backoff.
-/

namespace TargetRegistrar.Controller

open Gateway Registration

/-- What the controller is configured with. -/
structure Config where
  /-- The gateway of resources that name none. -/
  defaultGateway : Option String
  policy : RetryPolicy
  /-- How long to wait before a target that is settling is looked at again. -/
  pollInterval : Duration

/-- The token under which the target of a resource is created, if the resource has an identity: the
same in every pass on the same generation. -/
def createToken (r : Resource) : Option CreateToken :=
  (nonEmpty r.metadata.uid).map fun uid =>
    .chosen (uid ++ "-" ++ toString (r.metadata.generation.getD 0))

/-- A program that only the store can stop, as part of a pass. -/
def Pass.ofStore {α : Type} (p : Pass Store.Error α) : Pass Error α :=
  ExceptT.mk (do return (← p.run).mapError .store)

/-- Waits out a failure. -/
def backOff (key : String) : Pass Error Directive := do
  return .requeueAfter (← Pass.query (.fail key))

/-- Announces that no request can be built. -/
def reportBuildError (r : Resource) (e : BuildError) : Pass Error Directive := do
  let _ ← Pass.ofStore (setNotReady r "ConfigurationError" e.message)
  return .stop

/-- Announces a failed operation; it is repeated later only if that can help. -/
def reportFailure (r : Resource) (key reason context : String) (e : Gateway.Error) :
    Pass Error Directive := do
  let _ ← Pass.ofStore (setNotReady r reason (context ++ ": " ++ e.message))
  if e.isRetryable then backOff key else return .stop

/-- Attaches the finalizer; returns the resource as stored. -/
def addFinalizer (r : Resource) : Pass Error Resource :=
  Pass.ofStore <| Pass.store (.replaceFinalizers r (r.finalizers ++ [finalizer]))

/-- Detaches the finalizer and forgets the resource. -/
def removeFinalizer (r : Resource) (key : String) : Pass Error Directive := do
  let _ ← Pass.ofStore (Pass.store (.replaceFinalizers r (r.finalizers.filter (· ≠ finalizer))))
  Pass.query (.forget key)
  return .done

/-- Creates the target of a resource that has none. -/
def createStep (c : Config) (r : Resource) (v : Validated) (key : String) :
    Pass Error Directive := do
  match v.createRequest with
  | .error e => reportBuildError r e
  | .ok request =>
    match ← Pass.lift (createTarget c.policy { request with clientToken := createToken r }) with
    | .ok created =>
      Pass.query (.countCall .create true)
      let _ ← Pass.ofStore (recordCreated r created)
      Pass.query (.succeed key)
      return .requeueAfter c.pollInterval
    | .error e =>
      if e.isCancelled then return .requeueAfter c.pollInterval
      else
        Pass.query (.countCall .create false)
        reportFailure r key "CreationError" "Failed to create gateway target" e

/-- Updates a target to a specification that has changed. -/
def updateStep (c : Config) (r : Resource) (v : Validated) (targetId key : String) :
    Pass Error Directive := do
  match v.updateRequest targetId with
  | .error e => reportBuildError r e
  | .ok request =>
    match ← Pass.lift (updateTarget c.policy request) with
    | .ok state =>
      Pass.query (.countCall .update true)
      let _ ← Pass.ofStore (recordState r state)
      Pass.query (.succeed key)
      return .requeueAfter c.pollInterval
    | .error e =>
      if e.isCancelled then return .requeueAfter c.pollInterval
      else
        Pass.query (.countCall .update false)
        reportFailure r key "UpdateError" "Failed to update gateway target" e

/-- Looks at a target that is settling. -/
def pollStep (c : Config) (r : Resource) (v : Validated) (targetId key : String) :
    Pass Error Directive := do
  match ← Pass.lift (getTarget v.gatewayId targetId) with
  | .ok state =>
    Pass.query (.countCall .get true)
    let _ ← Pass.ofStore (recordState r state)
    Pass.query (.succeed key)
    if state.status = targetReady then
      let _ ← Pass.ofStore (setReady r)
      return .done
    else return .requeueAfter c.pollInterval
  | .error e =>
    if e.isCancelled then return .requeueAfter c.pollInterval
    else
      Pass.query (.countCall .get false)
      backOff key

/-- Deletes the target of a resource that is marked for deletion, and lets the resource go. Without
a gateway the target cannot be reached, and the resource is kept. -/
def deleteStep (c : Config) (r : Resource) (key : String) : Pass Error Directive := do
  if r.hasFinalizer finalizer then
    match r.recordedTarget? with
    | none => removeFinalizer r key
    | some targetId =>
      match resolveGateway c.defaultGateway r.spec with
      | .error _ => return .stop
      | .ok gatewayId =>
        match ← Pass.lift (deleteTarget c.policy gatewayId targetId) with
        | .ok () =>
          Pass.query (.countCall .delete true)
          removeFinalizer r key
        | .error e =>
          if e.isCancelled then return .requeueAfter c.pollInterval
          else
            Pass.query (.countCall .delete false)
            backOff key
  else return .done

/-- Takes a resource with the finalizer one step towards its validated specification. -/
def advance (c : Config) (r : Resource) (v : Validated) (key : String) : Pass Error Directive := do
  match r.recordedTarget? with
  | none => createStep c r v key
  | some targetId =>
    if r.metadata.generation ≠ r.observedGeneration then updateStep c r v targetId key
    else if r.isSettled then
      Pass.query (.succeed key)
      return .done
    else pollStep c r v targetId key

/-- Looks at a copy of a resource. -/
def reconcileCopy (c : Config) (r : Resource) (key : String) : Pass Error Directive := do
  if r.isBeingDeleted then deleteStep c r key
  else
    match validate c.defaultGateway r with
    | .error e =>
      let _ ← Pass.ofStore (setNotReady r "ValidationError" e.message)
      return .stop
    | .ok v =>
      if r.hasFinalizer finalizer then advance c r v key
      else advance c (← addFinalizer r) v key

/-- Looks at the latest copy of a resource. -/
def reconcileLatest (c : Config) (ns name key : String) : Pass Error Directive := do
  match ← Pass.ofStore (Pass.store (.get ns name)) with
  | none =>
    Pass.query (.forget key)
    return .done
  | some r => reconcileCopy c r key

/-- What comes of a pass that an error has stopped. -/
def absorb (c : Config) (e : Error) : Pass Error Directive :=
  if e.isConflict then return .requeueNow
  else if e.isCancelled then return .requeueAfter c.pollInterval
  else throw e

/-- A pass on the resource with a name in a namespace. -/
def reconcile (c : Config) (ns name : String) : Pass Error Directive := do
  if ← Pass.query .isCancelled then return .requeueAfter c.pollInterval
  else (reconcileLatest c ns name (ns ++ "/" ++ name)).orElse (absorb c)

/-! ## Watching resources -/

/-- Handles a resource that has changed; one without a namespace is ignored. -/
def handleChange (c : Config) (r : Resource) : Pass Error Action := do
  match r.metadata.ns with
  | none => return .awaitChange
  | some ns =>
    let result ← Pass.lift (reconcile c ns r.anyName).run
    Pass.query .countPass
    match result with
    | .error e => throw e
    | .ok directive =>
      if directive.isRequeue then
        Pass.query (.countRequeue directive.label)
        return directive.action
      else return directive.action

/-- Schedules a resource of which the pass failed. -/
def handleFailure (r : Resource) (e : Error) : Program Action := do
  Program.query (.countError e.label)
  let delay ← Program.query (.fail r.key)
  Program.query (.countRequeue "error")
  return .requeue delay

/-- Who decided on an action. -/
inductive Decider where
  | pass
  | failureRule
  deriving DecidableEq, Repr

/-- Handles a resource that has changed, whether or not its pass fails. -/
def handle (c : Config) (r : Resource) : Program (Decider × Action) := do
  match ← (handleChange c r).run with
  | .ok action => return (.pass, action)
  | .error e => return (.failureRule, ← handleFailure r e)

end TargetRegistrar.Controller
