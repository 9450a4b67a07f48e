import TargetRegistrar.Timestamp

/-!
# Resources

The declaration of an MCP server that is to be registered as a target of a gateway: what the user
wants (`Spec`), what the controller last saw (`Status`), and the bookkeeping of the store
(`Metadata`).

A condition says what has been observed of one aspect of a resource. A list of conditions holds one
entry per type; `Condition.set` replaces the entry of its type in place, and the time of the last
transition only moves when the verdict does.

What can be asked of a store of resources is data as well (`Store.Request`). Writes carry the copy
of the resource that they are based on; a store refuses them when it holds another version. Every
store, the API server and the one in memory, serves this type.
-/

namespace TargetRegistrar

/-! ## Conditions -/

/-- Whether a condition holds. -/
inductive Verdict where
  | holds
  /-- It does not hold. -/
  | fails
  /-- It has not been decided. -/
  | unknown
  deriving DecidableEq, Repr

namespace Verdict

/-- The verdict on a question that has been answered. -/
def ofBool (b : Bool) : Verdict :=
  if b then holds else fails

/-- The word for a verdict. -/
def word : Verdict → String
  | holds => "True"
  | fails => "False"
  | unknown => "Unknown"

/-- The verdict that a word stands for. -/
def ofWord? (s : String) : Option Verdict :=
  if s = "True" then some holds
  else if s = "False" then some fails
  else if s = "Unknown" then some unknown
  else none

@[simp] theorem ofWord?_word (v : Verdict) : ofWord? v.word = some v := by
  cases v <;> decide

end Verdict

/-- A single observation of one aspect of a resource. -/
structure Condition where
  /-- The aspect, for instance `Ready`. -/
  type : String
  verdict : Verdict
  /-- The reason for a machine, one word. -/
  reason : String
  message : String
  lastTransition : Timestamp
  observedGeneration : Option Int
  deriving DecidableEq, Repr

namespace Condition

/-- The type of the condition that says whether the target can be used. -/
def readyType : String := "Ready"

/-- The new condition as it replaces `old`: unless the verdict changes, the transition is the one
of `old`. -/
def succeeding (old new : Condition) : Condition :=
  if old.verdict = new.verdict then { new with lastTransition := old.lastTransition } else new

/-- The list with `new` in the place of the condition of its type, or at the end. -/
def set (new : Condition) : List Condition → List Condition
  | [] => [new]
  | c :: cs => if c.type = new.type then succeeding c new :: cs else c :: set new cs

/-- The first condition of a type. -/
def find? (type : String) : List Condition → Option Condition
  | [] => none
  | c :: cs => if c.type = type then some c else find? type cs

@[simp] theorem type_succeeding (old new : Condition) : (succeeding old new).type = new.type := by
  unfold succeeding
  split <;> rfl

theorem find?_set_of_ne {new : Condition} {type : String} (h : new.type ≠ type)
    (cs : List Condition) : find? type (set new cs) = find? type cs := by
  induction cs with
  | nil => simp [set, find?, h]
  | cons c cs ih =>
    by_cases hc : c.type = new.type
    · simp [set, find?, hc, h]
    · simp [set, find?, hc, ih]

theorem find?_set_self (new : Condition) (cs : List Condition) :
    find? new.type (set new cs) = some (((find? new.type cs).map (succeeding · new)).getD new) := by
  induction cs with
  | nil => simp [set, find?]
  | cons c cs ih =>
    by_cases hc : c.type = new.type
    · simp [set, find?, hc]
    · simp [set, find?, hc, ih]

end Condition

/-! ## Resources -/

/-- The mark that keeps a resource in the store until its target has been cleaned up. -/
def finalizer : String := "bedrock.aws/gateway-target-finalizer"

/-- The remote state of a target that is fully operational. -/
def targetReady : String := "READY"

/-- The scheme without credentials of its own. -/
def noAuthName : String := "NoAuth"

/-- The scheme with a provider of credentials. -/
def oauth2Name : String := "OAuth2"

/-- What the store keeps about a resource. -/
structure Metadata where
  name : Option String := none
  ns : Option String := none
  generateName : Option String := none
  uid : Option String := none
  generation : Option Int := none
  resourceVersion : Option String := none
  finalizers : Option (List String) := none
  deletionTimestamp : Option Timestamp := none
  deriving DecidableEq, Repr

/-- The desired target. -/
structure Spec where
  endpoint : String
  capabilities : List String
  /-- The gateway; without one, the default gateway. -/
  gatewayId : Option String := none
  /-- The name of the target; without one, the name of the resource. -/
  targetName : Option String := none
  description : Option String := none
  authType : Option String := none
  oauthProviderArn : Option String := none
  oauthScopes : Option (List String) := none
  allowedRequestHeaders : Option (List String) := none
  allowedQueryParameters : Option (List String) := none
  allowedResponseHeaders : Option (List String) := none
  deriving DecidableEq, Repr

/-- The observed target. -/
structure Status where
  observedGeneration : Option Int := none
  targetId : Option String := none
  gatewayArn : Option String := none
  targetStatus : Option String := none
  statusReasons : List String := []
  lastSynchronized : Option Timestamp := none
  /-- The conditions, one per type. -/
  conditions : List Condition := []
  deriving DecidableEq, Repr

instance : Inhabited Status := ⟨{}⟩

namespace Status

/-- The recorded target; an empty identifier records none. -/
def recordedTarget? (s : Status) : Option String :=
  s.targetId.filter (· ≠ "")

/-- The condition on readiness. -/
def ready? (s : Status) : Option Condition :=
  Condition.find? Condition.readyType s.conditions

/-- Whether the target was last seen operational. -/
def isTargetReady (s : Status) : Bool :=
  s.targetStatus = some targetReady

/-- Whether the target was last seen operational and that has been announced. -/
def isSettled (s : Status) : Bool :=
  s.isTargetReady && s.ready?.any (·.verdict = .holds)

end Status

/-- A stored declaration. -/
structure Resource where
  metadata : Metadata
  spec : Spec
  status : Option Status
  deriving DecidableEq, Repr

namespace Resource

/-- The recorded target. -/
def recordedTarget? (r : Resource) : Option String :=
  r.status.bind Status.recordedTarget?

/-- The generation that was last acted on. -/
def observedGeneration (r : Resource) : Option Int :=
  r.status.bind Status.observedGeneration

/-- Whether the resource has been marked for deletion. -/
def isBeingDeleted (r : Resource) : Bool :=
  r.metadata.deletionTimestamp.isSome

/-- The marks that keep the resource in the store. -/
def finalizers (r : Resource) : List String :=
  r.metadata.finalizers.getD []

/-- Whether a mark is attached. -/
def hasFinalizer (r : Resource) (mark : String) : Bool :=
  r.finalizers.contains mark

/-- Whether there is nothing left to do for the current target. -/
def isSettled (r : Resource) : Bool :=
  r.status.any Status.isSettled

/-- The name, or what there is of one. -/
def anyName (r : Resource) : String :=
  (r.metadata.name.or r.metadata.generateName).getD ""

/-- How messages refer to the resource. -/
def key (r : Resource) : String :=
  r.metadata.ns.getD "" ++ "/" ++ r.anyName

end Resource

end TargetRegistrar

namespace TargetRegistrar.Store

/-! ## Requests -/

/-- Why a request has no result. -/
inductive Error where
  /-- The stored version is not the one that the write is based on. -/
  | conflict (key : String)
  | notFound (key : String)
  | missingMetadata (field : String)
  /-- The status could not be written as JSON. -/
  | serialization
  /-- The API server answered with an error code, or with nothing that can be used. -/
  | apiServer (code : Option Nat)
  deriving DecidableEq, Repr

namespace Error

/-- The wording of an error, where it is the store's own. -/
def message? : Error → Option String
  | conflict key => some s!"conflict writing {key}: resource version changed"
  | notFound key => some s!"{key} not found"
  | missingMetadata field => some s!"resource is missing metadata.{field}"
  | serialization => none
  | apiServer _ => none

/-- Whether another writer was first. -/
def isConflict : Error → Bool
  | conflict _ => true
  | _ => false

end Error

/-- A request to the store. -/
inductive Request where
  | get (ns name : String)
  | replaceFinalizers (resource : Resource) (finalizers : List String)
  | replaceStatus (resource : Resource) (status : Status)
  deriving DecidableEq, Repr

/-- What a served request returns: the stored resource, if any, or the resource as written. -/
@[reducible] def Request.Reply : Request → Type
  | get .. => Option Resource
  | replaceFinalizers .. => Resource
  | replaceStatus .. => Resource

/-- How a request ends. -/
abbrev Request.Outcome (request : Request) : Type :=
  Except Error request.Reply

end TargetRegistrar.Store
