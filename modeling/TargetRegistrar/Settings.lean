import TargetRegistrar.Duration
import TargetRegistrar.Text

/-!
# Settings

The configuration of the controller, read from named texts such as the process environment. Texts
are trimmed, and a blank one counts as absent. The numbers are checked in the order interval,
concurrency, port; the first fault found is reported.
-/

namespace TargetRegistrar

/-- The configuration of the controller. -/
structure Settings where
  awsRegion : Option String := none
  /-- The gateway of resources that name none. -/
  defaultGatewayId : Option String := none
  /-- The namespace to watch; all of them if absent. -/
  watchNamespace : Option String := none
  /-- How long to wait before a target that is settling is looked at again. -/
  requeueInterval : Duration := .ofSeconds 10
  metricsPort : Nat := 8080
  agentcoreEndpoint : Option String := none
  reconcileConcurrency : Nat := 3
  deriving DecidableEq, Repr

namespace Settings

/-- What is wrong with a setting. -/
inductive Fault where
  | unreadable (name text : String) (error : Text.NumberError)
  | zero (name : String)
  deriving DecidableEq, Repr

/-- The wording of a fault. -/
def Fault.message : Fault → String
  | unreadable name text error => name ++ "=" ++ Text.quoted text ++ ": " ++ error.message
  | zero name => s!"{name} must be greater than zero"

/-- A number of which the text is absent or at most `bound`. -/
def number (lookup : String → Option String) (name : String) (bound fallback : Nat) :
    Except Fault Nat :=
  match (lookup name).bind Text.nonBlank? with
  | none => .ok fallback
  | some text =>
    match Text.readNat bound text with
    | .ok n => .ok n
    | .error e => .error (.unreadable name text e)

/-- A number that is not zero. -/
def positive (lookup : String → Option String) (name : String) (bound fallback : Nat) :
    Except Fault Nat := do
  let n ← number lookup name bound fallback
  if n = 0 then throw (.zero name)
  return n

/-- The largest number of 64 bits. -/
def largest64 : Nat := 18446744073709551615

/-- The largest number of 16 bits. -/
def largest16 : Nat := 65535

/-- Reads all settings. -/
def read (lookup : String → Option String) : Except Fault Settings := do
  let interval ← positive lookup "REQUEUE_INTERVAL_SECS" largest64 10
  let concurrency ← positive lookup "RECONCILE_CONCURRENCY" largest16 3
  let port ← number lookup "METRICS_PORT" largest16 8080
  let text := fun name => (lookup name).bind Text.nonBlank?
  return {
    awsRegion := text "AWS_REGION"
    defaultGatewayId := text "DEFAULT_GATEWAY_ID"
    watchNamespace := text "WATCH_NAMESPACE"
    requeueInterval := .ofSeconds interval
    metricsPort := port
    agentcoreEndpoint := text "BEDROCK_AGENTCORE_ENDPOINT"
    reconcileConcurrency := concurrency }

end Settings

end TargetRegistrar
