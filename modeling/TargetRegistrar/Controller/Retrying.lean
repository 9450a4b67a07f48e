import TargetRegistrar.Controller.Program
import TargetRegistrar.Duration

/-!
# Calls with retries

A remote operation of the controller is one or more calls of the gateway. Creating, updating and
deleting are repeated while they fail for a reason that may pass, with the waits of the policy in
between; asking for a state is not. A create always carries a token, the same in every repetition,
and deleting a target that does not exist is a success. Cancellation ends an operation at its next
call or wait.

A policy says how often a failed call is repeated, and how long to wait before each repetition. The
waits grow by a factor up to a bound; `schedule` lists them.
-/

namespace TargetRegistrar.Gateway

/-! ## Policies -/

/-- When to repeat a call that failed. -/
structure RetryPolicy where
  maxRetries : Nat
  /-- The wait before the first repetition. -/
  initialBackoff : Duration
  maxBackoff : Duration
  multiplier : Nat
  deriving DecidableEq, Repr

namespace RetryPolicy

/-- Three repetitions, after one second, two and four. -/
def standard : RetryPolicy :=
  ⟨3, .ofSeconds 1, .ofSeconds 30, 2⟩

/-- No repetition. -/
def disabled : RetryPolicy :=
  { standard with maxRetries := 0 }

/-- The wait before the first repetition. -/
def firstBackoff (p : RetryPolicy) : Duration :=
  p.initialBackoff.min p.maxBackoff

/-- The wait that follows a wait. -/
def nextBackoff (p : RetryPolicy) (current : Duration) : Duration :=
  (current.scale p.multiplier).min p.maxBackoff

/-- The next `n` waits from `current` on. -/
def waitsFrom (p : RetryPolicy) : Nat → Duration → List Duration
  | 0, _ => []
  | n + 1, current => current :: p.waitsFrom n (p.nextBackoff current)

/-- All waits, one per repetition. -/
def schedule (p : RetryPolicy) : List Duration :=
  p.waitsFrom p.maxRetries p.firstBackoff

end RetryPolicy

end TargetRegistrar.Gateway

namespace TargetRegistrar.Controller

open Gateway

/-! ## Operations -/

/-- The end of a call as the operation sees it: a target that does not exist is as good as
deleted. -/
def settle : (call : Call) → call.Outcome → call.Outcome
  | .delete .., .error e => if e.isNotFound then .ok () else .error e
  | _, outcome => outcome

/-- One call; cancellation is a failure. -/
def callOnce (call : Call) : Program call.Outcome := do
  match ← Program.query (.gateway call) with
  | .cancelled => return .error .cancelled
  | .finished outcome => return settle call outcome

/-- Up to `left` repetitions of a call that has been made `made` times, the next of them after
`backoff`. -/
def repeatCall (policy : RetryPolicy) (call : Call) :
    (left made : Nat) → (backoff : Duration) → Program call.Outcome
  | 0, made, _ => do
    match ← callOnce call with
    | .ok reply => return .ok reply
    | .error e =>
      return .error
        (if e.isRetryable then .retriesExhausted call.operation.name (made + 1) e else e)
  | left + 1, made, backoff => do
    match ← callOnce call with
    | .ok reply => return .ok reply
    | .error e =>
      if e.isRetryable then
        match ← Program.query (.wait backoff) with
        | .cancelled => return .error .cancelled
        | .finished _ => repeatCall policy call left (made + 1) (policy.nextBackoff backoff)
      else return .error e

/-- A call with the repetitions of the policy. -/
def callRetrying (policy : RetryPolicy) (call : Call) : Program call.Outcome :=
  repeatCall policy call policy.maxRetries 0 policy.firstBackoff

/-- Creates a target; a request without a token gets a fresh one. -/
def createTarget (policy : RetryPolicy) (request : CreateRequest) :
    Program (Except Gateway.Error CreatedTarget) :=
  match request.clientToken with
  | some _ => callRetrying policy (.create request)
  | none => do
    let token ← Program.query .freshToken
    callRetrying policy (.create { request with clientToken := some token })

/-- Asks for the state of a target. -/
def getTarget (gatewayId targetId : String) : Program (Except Gateway.Error TargetState) :=
  callOnce (.get gatewayId targetId)

/-- Replaces the configuration of a target. -/
def updateTarget (policy : RetryPolicy) (request : UpdateRequest) :
    Program (Except Gateway.Error TargetState) :=
  callRetrying policy (.update request)

/-- Deletes a target. -/
def deleteTarget (policy : RetryPolicy) (gatewayId targetId : String) :
    Program (Except Gateway.Error Unit) :=
  callRetrying policy (.delete gatewayId targetId)

end TargetRegistrar.Controller
