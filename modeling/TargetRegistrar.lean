import TargetRegistrar.Backoff.Fibonacci
import TargetRegistrar.Controller.Reconcile
import TargetRegistrar.Gateway.ControlPlane
import TargetRegistrar.Json.Double
import TargetRegistrar.Json.Writer
import TargetRegistrar.Probe
import TargetRegistrar.Proofs.Controller.Accounting
import TargetRegistrar.Proofs.Controller.Cancellation
import TargetRegistrar.Proofs.Controller.Conflicts
import TargetRegistrar.Proofs.Controller.Convergence
import TargetRegistrar.Proofs.Controller.Deletion
import TargetRegistrar.Proofs.Controller.Escalation
import TargetRegistrar.Proofs.Controller.Incarnations
import TargetRegistrar.Proofs.Controller.Outstanding
import TargetRegistrar.Proofs.Controller.Ownership
import TargetRegistrar.Proofs.Controller.Quiescence
import TargetRegistrar.Proofs.Controller.Release
import TargetRegistrar.Proofs.Controller.Repetition
import TargetRegistrar.Proofs.Controller.SingleCreation
import TargetRegistrar.Proofs.Controller.Writing
import TargetRegistrar.Proofs.Fleet.Acknowledgement
import TargetRegistrar.Proofs.Fleet.Announcements
import TargetRegistrar.Proofs.Fleet.Clearance
import TargetRegistrar.Proofs.Fleet.Leaks
import TargetRegistrar.Proofs.Fleet.Permanence
import TargetRegistrar.Proofs.Gateway.Schedule
import TargetRegistrar.Proofs.Json.Forms
import TargetRegistrar.Proofs.Json.MergePatch
import TargetRegistrar.Proofs.Registration.Transmission
import TargetRegistrar.Proofs.Rehearsal.Watch
import TargetRegistrar.Proofs.Resource.Codec
import TargetRegistrar.Proofs.Resource.RoundTrip
import TargetRegistrar.Proofs.Resource.Transitions
import TargetRegistrar.Proofs.Settings
import TargetRegistrar.Proofs.Store.History
import TargetRegistrar.Proofs.Store.Patch
import TargetRegistrar.Proofs.Timestamp.RoundTrip
import TargetRegistrar.Rehearsal.Script
import TargetRegistrar.Resource.Definition
import TargetRegistrar.Store.ApiServer
