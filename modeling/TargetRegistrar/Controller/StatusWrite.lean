import TargetRegistrar.Controller.Program

/-!
# Writing the status

A change of status is applied to the latest stored copy, never to the copy that the pass has been
working on, and only that latest copy can be overwritten by it. When another writer is first, the
copy is fetched and the change applied again, three times at most. A change that changes nothing is
not written.
-/

namespace TargetRegistrar.Controller

open Gateway

/-- A program that an error can stop. -/
abbrev Pass (ε : Type) : Type → Type := ExceptT ε Program

namespace Pass

variable {ε α : Type}

/-- Asks the store; a refusal stops the program. -/
def store (request : Store.Request) : Pass Store.Error request.Reply :=
  ExceptT.mk (Program.query (.store request))

/-- Asks something else of the surroundings. -/
def query (q : Query) : Pass ε q.Answer :=
  ExceptT.mk (do return .ok (← Program.query q))

/-- A program that nothing can stop, as part of one that an error can. -/
def lift (p : Program α) : Pass ε α :=
  ExceptT.mk (do return .ok (← p))

/-- A program with another one in the place of a stop. -/
def orElse (p : Pass ε α) (instead : ε → Pass ε α) : Pass ε α :=
  ExceptT.mk do
    match ← p.run with
    | .ok a => return .ok a
    | .error e => (instead e).run

end Pass

/-- A change of status. -/
inductive StatusChange where
  | created (generation : Option Int) (target : CreatedTarget)
  | observed (generation : Option Int) (state : TargetState)
  | condition (condition : Condition)
  deriving DecidableEq, Repr

/-- The status after a change that is made now. -/
def StatusChange.apply (now : Timestamp) (s : Status) : StatusChange → Status
  | created generation target =>
    { s with
      observedGeneration := generation
      targetId := some target.targetId
      gatewayArn := some target.gatewayArn
      targetStatus := some target.status
      lastSynchronized := some now }
  | observed generation state =>
    { s with
      observedGeneration := generation
      targetStatus := some state.status
      statusReasons := state.reasons
      lastSynchronized := some now }
  | condition c => { s with conditions := Condition.set c s.conditions }

/-- The status of the latest copy after a change; a copy without one counts as having the empty
status. -/
def StatusChange.applyTo (now : Timestamp) (latest : Resource) (change : StatusChange) : Status :=
  change.apply now (latest.status.getD {})

/-- Fetches the latest copy and writes the change to it, with another program in the place of a
refused write. -/
def writeLatest (ns name key : String) (change : StatusChange)
    (refused : Store.Error → Pass Store.Error Resource) : Pass Store.Error Resource := do
  match ← Pass.store (.get ns name) with
  | none => throw (.notFound key)
  | some latest =>
    let now ← Pass.query .now
    let status := change.applyTo now latest
    if latest.status = some status then return latest
    else (Pass.store (.replaceStatus latest status)).orElse refused

/-- Writes a change, and again up to `left` times while other writers are first. -/
def writeChange (ns name key : String) (change : StatusChange) : (left : Nat) →
    Pass Store.Error Resource
  | 0 => writeLatest ns name key change throw
  | left + 1 =>
    writeLatest ns name key change fun e =>
      if e.isConflict then writeChange ns name key change left else throw e

/-- How often a write is repeated when other writers are first. -/
def statusRetries : Nat := 2

/-- Applies a change to the status of a resource; returns the resource as stored. -/
def applyChange (r : Resource) (change : StatusChange) : Pass Store.Error Resource :=
  match r.metadata.ns, r.metadata.name with
  | none, _ => throw (.missingMetadata "namespace")
  | some _, none => throw (.missingMetadata "name")
  | some ns, some name => writeChange ns name r.key change statusRetries

/-- Records a target that has been created for the copy's generation. -/
def recordCreated (r : Resource) (target : CreatedTarget) : Pass Store.Error Resource :=
  applyChange r (.created r.metadata.generation target)

/-- Records the state of a target as seen for the copy's generation. -/
def recordState (r : Resource) (state : TargetState) : Pass Store.Error Resource :=
  applyChange r (.observed r.metadata.generation state)

/-- Puts a condition in the place of the one of its type. -/
def putCondition (r : Resource) (c : Condition) : Pass Store.Error Resource :=
  applyChange r (.condition c)

/-- Sets the condition on readiness for the copy's generation. -/
def setReadiness (r : Resource) (verdict : Verdict) (reason message : String) :
    Pass Store.Error Resource := do
  let now ← Pass.query .now
  putCondition r ⟨Condition.readyType, verdict, reason, message, now, r.metadata.generation⟩

/-- Announces that the target can be used. -/
def setReady (r : Resource) : Pass Store.Error Resource :=
  setReadiness r .holds "GatewayTargetReady" "Gateway target is ready and accepting requests"

/-- Announces that the target cannot be used. -/
def setNotReady (r : Resource) (reason message : String) : Pass Store.Error Resource :=
  setReadiness r .fails reason message

end TargetRegistrar.Controller
