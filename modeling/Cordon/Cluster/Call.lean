import Cordon.Isolation.Error
import Cordon.Isolation.Marking
import Cordon.Isolation.Workload
import Cordon.Kube.Node
import Cordon.Program

/-! # Calls to the cluster

What isolation asks of the cluster: look-ups, and changes of nodes, pods and workloads. Every call
is answered by its reply or by an error.
-/

namespace Cordon

open Kube (Node Pod Taint Toleration)

/-- A call to the cluster. -/
inductive ClusterCall where
  | getNode (name : String)
  | listNodes
  /-- Keeps pods from being scheduled to a node. -/
  | cordonNode (name : String)
  /-- Lets pods be scheduled to a node again. -/
  | uncordonNode (name : String)
  /-- Replaces a node's taints, unless the node has changed since it was read. -/
  | setNodeTaints (node : Node) (taints : List Taint)
  /-- Sets a node's label, or takes it away. -/
  | setNodeLabel (node : Node) (key : String) (value : Option String)
  | listPods (filter : PodFilter)
  | getPod (namespaceName name : String)
  | createPod (pod : Pod)
  | deletePod (namespaceName name : String)
  | patchPodLabels (pod : Pod) (patch : Marking.LabelPatch)
  | getWorkload (key : ResourceKey)
  /-- Replaces the tolerations of a workload's pods, unless the workload has changed since it was
  read. -/
  | setWorkloadTolerations (workload : Workload) (tolerations : List Toleration)
  | setWorkloadNodeSelector (workload : Workload) (selector : Labels)
  /-- Asks for a pod to be evicted; the reply says whether that was granted. -/
  | evictPod (pod : Pod) (dryRun : Bool)
deriving DecidableEq

/-- What a call answers when it succeeds. -/
abbrev ClusterCall.Reply : ClusterCall → Type
  | getNode _ => Node
  | listNodes => List Node
  | cordonNode _ => Unit
  | uncordonNode _ => Unit
  | setNodeTaints _ _ => Unit
  | setNodeLabel _ _ _ => Unit
  | listPods _ => List Pod
  | getPod _ _ => Option Pod
  | createPod _ => Unit
  | deletePod _ _ => Unit
  | patchPodLabels _ _ => Unit
  | getWorkload _ => Workload
  | setWorkloadTolerations _ _ => Unit
  | setWorkloadNodeSelector _ _ => Unit
  | evictPod _ _ => Bool

/-- Whether a failed eviction is final: the pod is absent, or its namespace is going away. -/
def evictionIsFinal : Kube.Failure → Bool
  | .reply e => e.code = 404 || e.code = 403
  | _ => false

def ClusterCall.error (f : Kube.Failure) : ClusterCall → IsolationError
  | getNode n => .getNode n f
  | listNodes => .listNodes f
  | cordonNode n => .cordonNode n f
  | uncordonNode n => .uncordonNode n f
  | setNodeTaints n _ => .updateNodeTaints n.name f
  | setNodeLabel n _ _ => .labelNode n.name f
  | listPods filter => .listPods filter.text f
  | getPod ns n => .getPod ns n f
  | createPod p => .createPod p.metadata.anyNamespace p.name f
  | deletePod ns n => .deletePod ns n f
  | patchPodLabels p _ => .labelPod p.metadata.anyNamespace p.name f
  | getWorkload k => .getWorkload k f
  | setWorkloadTolerations w _ => .updateWorkload w.key f
  | setWorkloadNodeSelector w _ => .updateWorkload w.key f
  | evictPod p _ =>
    if evictionIsFinal f then .nonRetriableEviction p.name f else .retriableEviction p.name f

/-- The cluster as seen by isolation. -/
abbrev ClusterApi : Interface where
  Request := ClusterCall
  Answer c := Except IsolationError c.Reply

/-- A computation that calls the cluster and may fail. -/
abbrev Clustered (α : Type) := ExceptT IsolationError (Program ClusterApi) α

/-- Makes a call. -/
def call (c : ClusterCall) : Clustered c.Reply := ExceptT.mk (Program.ask (I := ClusterApi) c .done)

end Cordon
