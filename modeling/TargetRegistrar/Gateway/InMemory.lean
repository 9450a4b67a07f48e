import TargetRegistrar.Gateway.Target
import TargetRegistrar.Table

/-!
# A gateway in memory

Targets under identifiers that are counted up, the tokens under which they were created, and errors
that the next calls of an operation are to fail with. Each call is recorded before it is served.
A repeated create with a remembered token returns the target of the first one as long as that
exists; the other calls reach a target only through the gateway that holds it.
-/

namespace TargetRegistrar.Gateway

/-- A target as the gateway holds it. -/
structure HeldTarget where
  gatewayId : String
  state : TargetState
  deriving DecidableEq, Repr

/-- The content of a gateway in memory. -/
structure InMemory where
  targets : Table String HeldTarget := {}
  tokens : Table CreateToken String := {}
  /-- The calls received, each with the time at which it was served, the last one first. -/
  received : List (Call × Nat) := []
  /-- The errors that are still to come, in order. -/
  scripted : List (Operation × Error) := []
  lastId : Nat := 0
  deriving DecidableEq, Repr

/-- The state of a new target. -/
def creating : String := "CREATING"

/-- The state of a target with a new configuration. -/
def updating : String := "UPDATING"

/-- The name of a gateway as a resource of its service. -/
def gatewayArn (gatewayId : String) : String :=
  s!"arn:aws:bedrock-agentcore:us-east-1:123456789012:gateway/{gatewayId}"

/-- The `n`-th identifier. -/
def targetName (n : Nat) : String :=
  s!"target-{n}"

/-- The error for a target that a gateway does not hold. -/
def missing (targetId : String) : Error :=
  .api notFoundCode s!"target {targetId} not found"

namespace InMemory

/-- The state of a target. -/
def target? (g : InMemory) (targetId : String) : Option TargetState :=
  (g.targets.get? targetId).map (·.state)

/-- The target, if it is held by that gateway. -/
def heldBy? (g : InMemory) (gatewayId targetId : String) : Option HeldTarget :=
  (g.targets.get? targetId).filter (·.gatewayId = gatewayId)

/-- Places a target on a gateway. -/
def place (g : InMemory) (gatewayId targetId status : String) : InMemory :=
  { g with targets := g.targets.insert targetId ⟨gatewayId, ⟨status, []⟩⟩ }

/-- Changes the state of a target, if there is one with that identifier. -/
def setState (g : InMemory) (targetId : String) (state : TargetState) : InMemory :=
  match g.targets.get? targetId with
  | some held => { g with targets := g.targets.insert targetId { held with state } }
  | none => g

/-- Lets one more call of an operation fail. -/
def failNext (g : InMemory) (operation : Operation) (error : Error) : InMemory :=
  { g with scripted := g.scripted ++ [(operation, error)] }

/-- The calls received, the first one first. -/
def calls (g : InMemory) : List (Call × Nat) :=
  g.received.reverse

/-- The calls of an operation, the first one first. -/
def callsOf (g : InMemory) (operation : Operation) : List (Call × Nat) :=
  g.calls.filter fun c => c.1.operation = operation

/-- The first scripted error of an operation, and the errors that remain. -/
def takeScripted (operation : Operation) :
    List (Operation × Error) → Option Error × List (Operation × Error)
  | [] => (none, [])
  | s :: rest =>
    if s.1 = operation then (some s.2, rest)
    else ((takeScripted operation rest).1, s :: (takeScripted operation rest).2)

/-- The existing target that was created under a token. -/
def remembered? (g : InMemory) (token : Option CreateToken) : Option (String × HeldTarget) := do
  let targetId ← g.tokens.get? (← token)
  let held ← g.targets.get? targetId
  return (targetId, held)

/-- Creates a target, or returns the one that the token stands for. -/
def create (g : InMemory) (request : CreateRequest) : CreatedTarget × InMemory :=
  match g.remembered? request.clientToken with
  | some (targetId, held) => (⟨targetId, gatewayArn request.gatewayId, held.state.status⟩, g)
  | none =>
    let targetId := targetName (g.lastId + 1)
    let placed := { g.place request.gatewayId targetId creating with lastId := g.lastId + 1 }
    (⟨targetId, gatewayArn request.gatewayId, creating⟩,
      match request.clientToken with
      | some token => { placed with tokens := placed.tokens.insert token targetId }
      | none => placed)

/-- Serves a call that no scripted error meets. -/
def perform (g : InMemory) : (call : Call) → call.Outcome × InMemory
  | .create request => (.ok (g.create request).1, (g.create request).2)
  | .get gatewayId targetId =>
    match g.heldBy? gatewayId targetId with
    | some held => (.ok held.state, g)
    | none => (.error (missing targetId), g)
  | .update request =>
    match g.heldBy? request.gatewayId request.targetId with
    | some _ => (.ok ⟨updating, []⟩, g.setState request.targetId ⟨updating, []⟩)
    | none => (.error (missing request.targetId), g)
  | .delete gatewayId targetId =>
    match g.heldBy? gatewayId targetId with
    | some _ => (.ok (), { g with targets := g.targets.erase targetId })
    | none => (.error (missing targetId), g)

/-- Serves a call at a time: records it, and fails if an error is scripted for its operation. -/
def serve (g : InMemory) (time : Nat) (call : Call) : call.Outcome × InMemory :=
  let recorded := { g with received := (call, time) :: g.received }
  match takeScripted call.operation recorded.scripted with
  | (some error, rest) => (.error error, { recorded with scripted := rest })
  | (none, _) => recorded.perform call

end InMemory

end TargetRegistrar.Gateway
