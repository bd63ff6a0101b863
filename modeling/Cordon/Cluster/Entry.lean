import Cordon.Cluster.State
import Cordon.Quarantine.Store

/-! # The log of calls

An `Entry` is a call to the cluster or to the store as it is written down: its name, what it is
about, and what it brings.
-/

namespace Cordon

/-- What is written down of a call. -/
inductive Entry where
  | cluster (c : ClusterCall)
  | store (c : StoreCall)
deriving DecidableEq

namespace Entry

def name : Entry → String
  | cluster (.getNode _) => "get_node"
  | cluster .listNodes => "list_nodes"
  | cluster (.cordonNode _) => "cordon_node"
  | cluster (.uncordonNode _) => "uncordon_node"
  | cluster (.setNodeTaints _ _) => "set_node_taints"
  | cluster (.setNodeLabel _ _ _) => "set_node_label"
  | cluster (.listPods _) => "list_pods"
  | cluster (.getPod _ _) => "get_pod"
  | cluster (.createPod _) => "create_pod"
  | cluster (.deletePod _ _) => "delete_pod"
  | cluster (.patchPodLabels _ _) => "patch_pod_labels"
  | cluster (.getWorkload _) => "get_workload"
  | cluster (.setWorkloadTolerations _ _) => "set_workload_tolerations"
  | cluster (.setWorkloadNodeSelector _ _) => "set_workload_node_selector"
  | cluster (.evictPod _ _) => "evict_pod"
  | store (.getQuarantine _ _) => "get_quarantine"
  | store (.addFinalizer _) => "add_finalizer"
  | store (.removeFinalizer _) => "remove_finalizer"
  | store (.updateStatus _ _) => "update_status"

/-- What a call is about. -/
def target : Entry → String
  | cluster (.getNode n) => n
  | cluster .listNodes => ""
  | cluster (.cordonNode n) => n
  | cluster (.uncordonNode n) => n
  | cluster (.setNodeTaints n _) => n.name
  | cluster (.setNodeLabel n _ _) => n.name
  | cluster (.listPods f) => (f.nodeName.orElse fun _ => f.namespaceName).getD ""
  | cluster (.getPod ns n) => ns ++ "/" ++ n
  | cluster (.createPod p) => p.identity
  | cluster (.deletePod ns n) => ns ++ "/" ++ n
  | cluster (.patchPodLabels p _) => p.identity
  | cluster (.getWorkload k) => k.text
  | cluster (.setWorkloadTolerations w _) => w.key.text
  | cluster (.setWorkloadNodeSelector w _) => w.key.text
  | cluster (.evictPod p _) => p.identity
  | store (.getQuarantine ns n) => ns ++ "/" ++ n
  | store (.addFinalizer q) => q.requestName
  | store (.removeFinalizer q) => q.requestName
  | store (.updateStatus q _) => q.requestName

/-! ## JSON form -/

/-- What is written down of a call to the cluster behind its name and what it is about. -/
def arguments : ClusterCall → List Json
  | .setNodeTaints _ taints => [Kube.taintsToJson taints]
  | .setNodeLabel _ key value => [.str key, Json.textOrNull value]
  | .createPod p => [p.toJson]
  | .patchPodLabels _ patch => [Marking.patchToJson patch]
  | .setWorkloadTolerations _ l => [Kube.tolerationsToJson l]
  | .setWorkloadNodeSelector _ selector => [selector.toJson]
  | .evictPod _ dryRun => [.bool dryRun]
  | _ => []

/-- What pods a call asks for. -/
def filterToJson (f : PodFilter) : Json :=
  Json.object
    [("namespace", Json.textOrNull f.namespaceName), ("node", Json.textOrNull f.nodeName),
     ("labels", f.labels.toJson)]

def toJson (e : Entry) : Json :=
  .arr (.str e.name :: match e with
    | cluster .listNodes => []
    | cluster (.listPods f) => [filterToJson f]
    | cluster c => .str e.target :: arguments c
    | store (.updateStatus _ status) => [.str e.target, status.toJson]
    | store _ => [.str e.target])

end Entry

end Cordon
