import TargetRegistrar.Duration
import TargetRegistrar.Gateway.Target
import TargetRegistrar.Resource.Basic

/-!
# How a pass ends

What a pass tells the controller to do next with its resource, with the scheduling action that
follows from it, and everything that can go wrong in the controller, with the label under which it
is counted.
-/

namespace TargetRegistrar.Controller

/-! ## Directives -/

/-- When a resource is to be looked at again. -/
inductive Action where
  | awaitChange
  /-- After a delay, or when it changes. -/
  | requeue (delay : Duration)
  deriving DecidableEq, Repr

/-- The result of a pass. -/
inductive Directive where
  | done
  /-- Look again after a delay. -/
  | requeueAfter (delay : Duration)
  /-- Another writer was first: look again at once. -/
  | requeueNow
  | stop
  deriving DecidableEq, Repr

namespace Directive

/-- The word for a directive in counters. -/
def label : Directive → String
  | done => "done"
  | requeueAfter _ => "requeue_after"
  | requeueNow => "conflict"
  | stop => "stop"

/-- The scheduling action for a directive. -/
def action : Directive → Action
  | done => .awaitChange
  | stop => .awaitChange
  | requeueAfter delay => .requeue delay
  | requeueNow => .requeue .zero

/-- Whether the resource is to be looked at again without a change. -/
def isRequeue : Directive → Bool
  | requeueAfter _ => true
  | requeueNow => true
  | _ => false

end Directive

/-! ## Failures -/

/-- Why the controller, or one of its passes, failed. -/
inductive Error where
  | apiServer
  | store (error : Store.Error)
  | gateway (error : Gateway.Error)
  | invalidConfig (text : String)
  | watch (text : String)
  /-- The counters could not be registered. -/
  | metrics (text : String)
  /-- The probes could not be served. -/
  | server (text : String)
  deriving DecidableEq, Repr

namespace Error

/-- The wording of an error, where it is the controller's own. -/
def message? : Error → Option String
  | apiServer => none
  | store e => e.message?.map ("Store error: " ++ ·)
  | gateway e => some ("Gateway error: " ++ e.message)
  | invalidConfig text => some ("Invalid configuration: " ++ text)
  | watch text => some ("Watch error: " ++ text)
  | metrics text => some ("Metrics error: " ++ text)
  | server text => some ("Server error: " ++ text)

/-- The label under which an error is counted. -/
def label : Error → String
  | apiServer => "kube"
  | store _ => "store"
  | gateway _ => "gateway"
  | invalidConfig _ => "config"
  | watch _ => "watch"
  | metrics _ => "metrics"
  | server _ => "server"

/-- Whether another writer of the resource was first. -/
def isConflict : Error → Bool
  | store e => e.isConflict
  | _ => false

/-- Whether cancellation came first. -/
def isCancelled : Error → Bool
  | gateway e => e.isCancelled
  | _ => false

end Error

end TargetRegistrar.Controller
