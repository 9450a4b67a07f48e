import TargetRegistrar.Text

/-!
# Targets of a gateway

What can be asked of a gateway, as data: a `Call` carries its request, and `Call.Reply` is what a
successful call returns. Every gateway, the remote one and the one in memory, serves this type. A
call may also fail; an `Error` says why, what that means for the caller, and how it is worded.
-/

namespace TargetRegistrar.Gateway

/-! ## Failures -/

/-- How a failed call is to be treated. -/
inductive ErrorClass where
  | retryable
  /-- There is no such target. -/
  | notFound
  /-- Repeating the call will not help. -/
  | fatal
  deriving DecidableEq, Repr

/-- The error codes of throttling and of faults of the service. -/
def retryableCodes : List String :=
  ["ThrottlingException", "TooManyRequestsException", "RequestLimitExceeded",
   "InternalServerException", "ServiceUnavailableException", "InternalFailure"]

/-- The error code for a target that does not exist. -/
def notFoundCode : String := "ResourceNotFoundException"

/-- The class of an error code; an unknown code is fatal. -/
def classify (code : String) : ErrorClass :=
  if code ∈ retryableCodes then .retryable
  else if code = notFoundCode then .notFound
  else .fatal

/-- Why a call has no result. -/
inductive Error where
  | api (code message : String)
  /-- The service could not be reached, or its answer not be read. -/
  | transport (text : String)
  /-- The request could not be built. -/
  | invalidRequest (text : String)
  | cancelled
  /-- Every attempt of an operation failed; `last` is why the last one did. -/
  | retriesExhausted (operation : String) (attempts : Nat) (last : Error)
  deriving DecidableEq, Repr

namespace Error

/-- The wording of an error. -/
def message : Error → String
  | api code text => s!"gateway API error {code}: {text}"
  | transport text => s!"transport error: {text}"
  | invalidRequest text => s!"invalid request: {text}"
  | cancelled => "operation cancelled"
  | retriesExhausted operation attempts last =>
    s!"{operation} failed after {attempts} attempts: " ++ last.message

/-- The class of an error; exhausted retries have the class of the last failure. -/
def errorClass : Error → ErrorClass
  | api code _ => classify code
  | transport _ => .retryable
  | invalidRequest _ => .fatal
  | cancelled => .fatal
  | retriesExhausted _ _ last => last.errorClass

/-- Whether the error is a cancellation, however deep. -/
def isCancelled : Error → Bool
  | cancelled => true
  | retriesExhausted _ _ last => last.isCancelled
  | _ => false

/-- Whether the same call may succeed later. -/
def isRetryable (e : Error) : Bool :=
  !e.isCancelled && e.errorClass = .retryable

/-- Whether the call failed for want of the target. -/
def isNotFound (e : Error) : Bool :=
  e.errorClass = .notFound

/-- A cancellation is fatal by its class, so a retryable error is none. -/
theorem errorClass_eq_fatal_of_isCancelled {e : Error} (h : e.isCancelled = true) :
    e.errorClass = .fatal := by
  induction e with
  | cancelled => rfl
  | retriesExhausted _ _ last ih => exact ih h
  | _ => simp [isCancelled] at h

theorem isRetryable_iff (e : Error) : e.isRetryable = true ↔ e.errorClass = .retryable := by
  by_cases h : e.isCancelled = true
  · simp [isRetryable, h, errorClass_eq_fatal_of_isCancelled h]
  · simp [isRetryable, h]

end Error

/-! ## Targets -/

open TargetRegistrar.Text (padded)

/-- How the gateway proves who it is when it calls the server. -/
inductive Credentials where
  | gatewayRole
  /-- By a token that a provider grants to the gateway as a client. -/
  | oauth (providerArn : String) (scopes : List String)
  deriving DecidableEq, Repr

/-- What the gateway passes on between caller and server. -/
structure Propagation where
  requestHeaders : List String
  queryParameters : List String
  responseHeaders : List String
  deriving DecidableEq, Repr

/-- The configuration of a target, the same when it is created and when it is updated. -/
structure TargetConfig where
  name : String
  description : Option String
  endpoint : String
  credentials : Credentials
  /-- What is passed on, if anything is. -/
  propagation : Option Propagation
  deriving DecidableEq, Repr

/-- A token under which a gateway creates one target only, however often it is asked. One that was
drawn is unlike all that were chosen, and unlike all others that were drawn. -/
inductive CreateToken where
  | chosen (text : String)
  /-- The token that was drawn as the `n`-th. -/
  | drawn (n : Nat)
  deriving DecidableEq, Repr

/-- The text that stands for a token in messages. -/
def CreateToken.text : CreateToken → String
  | chosen text => text
  | drawn n => "00000000-0000-4000-8000-" ++ padded 12 n

/-- A request for a new target. -/
structure CreateRequest where
  gatewayId : String
  config : TargetConfig
  /-- The token under which the gateway remembers it. -/
  clientToken : Option CreateToken
  deriving DecidableEq, Repr

/-- A request for a new configuration of a target. -/
structure UpdateRequest where
  gatewayId : String
  targetId : String
  config : TargetConfig
  deriving DecidableEq, Repr

/-- A target that a gateway has created. -/
structure CreatedTarget where
  targetId : String
  gatewayArn : String
  status : String
  deriving DecidableEq, Repr

/-- The state of a target. -/
structure TargetState where
  /-- The state itself, such as `CREATING` or `READY`. -/
  status : String
  reasons : List String
  deriving DecidableEq, Repr

/-- The kinds of call. -/
inductive Operation where
  | create
  | get
  | update
  | delete
  deriving DecidableEq, Repr

namespace Operation

/-- The word for an operation in counters. -/
def label : Operation → String
  | create => "create"
  | get => "get"
  | update => "update"
  | delete => "delete"

/-- The name of an operation in messages. -/
def name : Operation → String
  | create => "CreateGatewayTarget"
  | get => "GetGatewayTarget"
  | update => "UpdateGatewayTarget"
  | delete => "DeleteGatewayTarget"

end Operation

/-- One remote call. -/
inductive Call where
  | create (request : CreateRequest)
  | get (gatewayId targetId : String)
  | update (request : UpdateRequest)
  | delete (gatewayId targetId : String)
  deriving DecidableEq, Repr

namespace Call

/-- The kind of a call. -/
def operation : Call → Operation
  | create _ => .create
  | get .. => .get
  | update _ => .update
  | delete .. => .delete

/-- What a successful call returns. -/
@[reducible] def Reply : Call → Type
  | create _ => CreatedTarget
  | get .. => TargetState
  | update _ => TargetState
  | delete .. => Unit

/-- How a call ends. -/
abbrev Outcome (call : Call) : Type :=
  Except Error call.Reply

end Call

end TargetRegistrar.Gateway
