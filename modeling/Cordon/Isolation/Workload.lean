import Cordon.Kube.Taint
import Cordon.Isolation.PodFilter
import Cordon.Quarantine.Resource
import Cordon.Kube.Pod

/-! # Workloads

What isolation sees of a daemon set or deployment: the labels by which it claims pods, and the
tolerations and node selector of the pods it makes.
-/

namespace Cordon

/-- A daemon set or deployment. -/
structure Workload where
  key : ResourceKey
  resourceVersion : Option String
  matchLabels : Labels
  tolerations : List Kube.Toleration
  nodeSelector : Labels
deriving DecidableEq

/-- Whether a pod is one of a workload's: in its namespace, with its match labels. -/
def Workload.claims (w : Workload) (p : Kube.Pod) : Bool :=
  p.metadata.namespaceName = some w.key.namespaceName && labelsMatch p.labels w.matchLabels

end Cordon
