import Cordon.Admission.Webhook
import Cordon.Cluster.Faults
import Cordon.Controller.Metrics
import Cordon.Http.Script
import Cordon.Main
import Cordon.Proofs.Run.Footprint
import Cordon.Proofs.Run.Scene
import Cordon.Remote.Store
import Cordon.Proofs.Run.Reading
import Cordon.Proofs.Isolation.Scope
import Cordon.Proofs.Isolation.Outcome
import Cordon.Proofs.Lifecycle.Pass
import Cordon.Proofs.Lifecycle.Reach
import Cordon.Proofs.Lifecycle.Coverage
import Cordon.Proofs.Quarantine.Shelf
import Cordon.Proofs.Controller.Reconcile
import Cordon.Proofs.Lifecycle.Load
import Cordon.Proofs.Controller.Run
import Cordon.Proofs.Controller.Teardown
import Cordon.Proofs.Lifecycle.Effect
import Cordon.Proofs.Lifecycle.Settle
import Cordon.Proofs.Controller.Upkeep
import Cordon.Proofs.Run.Dialogue
import Cordon.Proofs.Lifecycle.Conduct
import Cordon.Proofs.Controller.Course
import Cordon.Proofs.Controller.Finalizer
import Cordon.Proofs.Lifecycle.Records
import Cordon.Proofs.Controller.Quiescence
import Cordon.Proofs.Cluster.Change
import Cordon.Proofs.Isolation.Evaluation
import Cordon.Proofs.Controller.Dismantling
import Cordon.Proofs.Isolation.Marked
import Cordon.Proofs.Isolation.Success
import Cordon.Proofs.Drain.Removals
import Cordon.Proofs.Lifecycle.Placement
import Cordon.Proofs.Controller.Establishing
import Cordon.Proofs.Lifecycle.Remains
import Cordon.Proofs.Controller.Report
import Cordon.Proofs.Controller.History
import Cordon.Proofs.Controller.Ledger
import Cordon.Proofs.Controller.Truth
import Cordon.Proofs.Controller.Commission
import Cordon.Proofs.Run.Watch
import Cordon.Proofs.Controller.DebugPods
import Cordon.Proofs.Isolation.Region
import Cordon.Proofs.Controller.Apart
import Cordon.Proofs.Json.Entries
import Cordon.Proofs.Admission.Review
import Cordon.Proofs.Drain.Descheduling
import Cordon.Proofs.Run.Break
import Cordon.Proofs.Lifecycle.Sequence
import Cordon.Proofs.Controller.Sequence
import Cordon.Proofs.Json.Fields
import Cordon.Proofs.Json.Merge
import Cordon.Proofs.Kube.Documents
import Cordon.Proofs.Remote.Rosters
import Cordon.Proofs.Remote.Versions
import Cordon.Proofs.Remote.Guards
import Cordon.Proofs.Remote.Concurrency
import Cordon.Proofs.Lifecycle.Phases
import Cordon.Proofs.Controller.Relocation
import Cordon.Proofs.Json.Layout
import Cordon.Proofs.Json.Records
import Cordon.Proofs.Json.Texts
import Cordon.Proofs.Quarantine.Storage
import Cordon.Proofs.Drain.Budget
import Cordon.Proofs.Remote.Evictions
import Cordon.Proofs.Controller.Untraced
import Cordon.Proofs.Lifecycle.Vanishing
import Cordon.Proofs.Isolation.Orphans
import Cordon.Proofs.Lifecycle.Stages
import Cordon.Proofs.Lifecycle.Extent
import Cordon.Proofs.Drain.Breakoff
import Cordon.Proofs.Lifecycle.Breakoff
import Cordon.Proofs.Quarantine.Merging
import Cordon.Proofs.Lifecycle.Agreement
import Cordon.Proofs.Isolation.Series
import Cordon.Proofs.Isolation.Effectiveness
