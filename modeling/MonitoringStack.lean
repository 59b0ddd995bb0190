import MonitoringStack.KeyMap
import MonitoringStack.Decimal.Shortest
import MonitoringStack.Json.Printer
import MonitoringStack.Json.Reader
import MonitoringStack.Text.Blank
import MonitoringStack.Wire.Record
import MonitoringStack.Text.Timestamp
import MonitoringStack.Kube.Core
import MonitoringStack.Resource.Names
import MonitoringStack.Resource.Reference
import MonitoringStack.Resource.Instance
import MonitoringStack.Resource.Binding
import MonitoringStack.Resource.ManagedCluster
import MonitoringStack.Json.Difference
import MonitoringStack.Kube.Selector
import MonitoringStack.Backoff
import MonitoringStack.Text.Quoted
import MonitoringStack.Config.SocketAddr
import MonitoringStack.Config.Controller
import MonitoringStack.Config.Webhook
import MonitoringStack.Operator.Metrics
import MonitoringStack.Helm.Client
import MonitoringStack.Store.Basic
import MonitoringStack.Kube.Cluster
import MonitoringStack.Operator.Dispatch
import MonitoringStack.Admission.Webhook
import MonitoringStack.Definition.Resources
import MonitoringStack.Main
import MonitoringStack.Proofs.KeyMap
import MonitoringStack.Proofs.Json.Overlay
import MonitoringStack.Proofs.Text.Timestamp
import MonitoringStack.Proofs.Resource.RoundTrip
import MonitoringStack.Proofs.Resource.Merge
import MonitoringStack.Proofs.Reconcile.Labels
import MonitoringStack.Proofs.Reconcile.Decision
import MonitoringStack.Proofs.Store.Operations
import MonitoringStack.Proofs.Store.Versions
import MonitoringStack.Proofs.Store.Moves
import MonitoringStack.Proofs.Store.Deletion
import MonitoringStack.Proofs.Cleanup.Batch
import MonitoringStack.Proofs.Cleanup.Count
import MonitoringStack.Proofs.Interleaving.Program
import MonitoringStack.Proofs.Interleaving.World
import MonitoringStack.Proofs.Interleaving.Consistency
import MonitoringStack.Proofs.Interleaving.Claims
import MonitoringStack.Proofs.Reconcile.Pass
import MonitoringStack.Proofs.Resource.Indifference
import MonitoringStack.Proofs.Reconcile.Settled
import MonitoringStack.Proofs.Interleaving.Ownership
import MonitoringStack.Proofs.Interleaving.Race
import MonitoringStack.Proofs.Interleaving.Removal
import MonitoringStack.Proofs.Interleaving.Independence
import MonitoringStack.Proofs.Backoff
import MonitoringStack.Proofs.Dispatch.Pass
import MonitoringStack.Proofs.Dispatch.Rounds
import MonitoringStack.Proofs.Dispatch.Streak
import MonitoringStack.Proofs.Dispatch.Deletions
import MonitoringStack.Proofs.Json.Equality
import MonitoringStack.Proofs.Json.Difference
import MonitoringStack.Proofs.Json.MergePatch
import MonitoringStack.Proofs.Resource.Status
import MonitoringStack.Proofs.Dispatch.Course
import MonitoringStack.Proofs.Cleanup.Clearance
import MonitoringStack.Proofs.Reconcile.Written
import MonitoringStack.Proofs.Reconcile.Agreement
import MonitoringStack.Proofs.Dispatch.Desk
import MonitoringStack.Proofs.Dispatch.Settling
import MonitoringStack.Proofs.Dispatch.Site
import MonitoringStack.Proofs.Dispatch.Guard
import MonitoringStack.Proofs.Admission.Answer
import MonitoringStack.Proofs.Reconcile.Transcript
import MonitoringStack.Proofs.Json.Leaf
import MonitoringStack.Proofs.Dispatch.Retry
import MonitoringStack.Proofs.Json.Pointwise
import MonitoringStack.Proofs.Kube.Query
import MonitoringStack.Proofs.Kube.Selector
import MonitoringStack.Proofs.Wire.Change
import MonitoringStack.Proofs.Resource.Faithful
import MonitoringStack.Proofs.Kube.Answers
import MonitoringStack.Proofs.Cleanup.Answers
import MonitoringStack.Proofs.Reconcile.Answers
import MonitoringStack.Proofs.Dispatch.Answers
import MonitoringStack.Proofs.Text.Blank
import MonitoringStack.Proofs.Reconcile.Failures
import MonitoringStack.Proofs.Config.Controller
import MonitoringStack.Proofs.Helm.Sync
import MonitoringStack.Proofs.Store.PlainMap
