import Cordon.Cluster.Call

/-! # A cluster at rest

`ClusterState` is what a cluster holds: nodes, pods and workloads, in the order in which they came.
`ClusterState.perform` is what each call does to it when nothing goes wrong but that an object is
absent, or there already.
-/

namespace Cordon

open Kube (Node Pod)

/-- What a cluster holds. -/
structure ClusterState where
  nodes : List Node
  pods : List Pod
  workloads : List Workload
  /-- Whether a query for pods passes over their labels. -/
  ignoresLabels : Bool
deriving DecidableEq

def Kube.Pod.identity (p : Pod) : String := p.metadata.anyNamespace ++ "/" ++ p.name

namespace ClusterState

def empty : ClusterState := ⟨[], [], [], false⟩

/-! ## Failures of calls -/

/-- The reply about an object that is not there. -/
def notFound (plural name : String) : Kube.Failure :=
  .reply ⟨"Failure", plural ++ " \"" ++ name ++ "\" not found", "NotFound", 404⟩

/-- The reply about an object that is there already. -/
def alreadyExists (plural name : String) : Kube.Failure :=
  .reply ⟨"Failure", plural ++ " \"" ++ name ++ "\" already exists", "AlreadyExists", 409⟩

/-- The plural under which workloads of a kind are served. -/
def workloadPlural : ResourceKind → String
  | .daemonset => "daemonsets.apps"
  | .deployment => "deployments.apps"

/-! ## Look-ups -/

/-- The node of a name. -/
def findNode (s : ClusterState) (name : String) : Option Node := s.nodes.find? (·.name == name)

/-- The pod of a namespace and name. -/
def findPod (s : ClusterState) (identity : String) : Option Pod :=
  s.pods.find? (·.identity == identity)

/-- The workload of a key. -/
def findWorkload (s : ClusterState) (key : ResourceKey) : Option Workload :=
  s.workloads.find? (·.key = key)

/-- Whether a query asks for a pod. -/
def selects (s : ClusterState) (f : PodFilter) (p : Pod) : Bool :=
  (f.namespaceName.isNone || p.metadata.namespaceName == f.namespaceName) &&
    (f.nodeName.isNone || p.nodeName == f.nodeName) &&
    (s.ignoresLabels || f.labels.entries.all fun e => p.labels.get? e.1 == some e.2)

/-! ## Changes -/

/-- Changes the first item that has a property. -/
def changeFirst {α : Type} (which : α → Bool) (change : α → α) : List α → List α
  | [] => []
  | a :: rest => if which a then change a :: rest else a :: changeFirst which change rest

/-- Changes the node of a name. -/
def changeNode (s : ClusterState) (name : String) (change : Node → Node) : ClusterState :=
  { s with nodes := changeFirst (·.name == name) change s.nodes }

/-- Changes the pod of a namespace and name. -/
def changePod (s : ClusterState) (identity : String) (change : Pod → Pod) : ClusterState :=
  { s with pods := changeFirst (·.identity == identity) change s.pods }

/-- Changes the workload of a key. -/
def changeWorkload (s : ClusterState) (key : ResourceKey) (change : Workload → Workload) :
    ClusterState :=
  { s with workloads := changeFirst (·.key = key) change s.workloads }

/-- Takes the pod of a namespace and name away. -/
def removePod (s : ClusterState) (identity : String) : ClusterState :=
  { s with pods := s.pods.eraseP (·.identity == identity) }

/-- The pod with other labels. -/
def relabel (patch : Marking.LabelPatch) (p : Pod) : Pod :=
  { p with metadata := { p.metadata with labels := some (Marking.applyPatch p.labels patch) } }

/-! ## Putting objects -/

/-- Puts a node in place of the one with its name, behind all others. -/
def putNode (s : ClusterState) (n : Node) : ClusterState :=
  { s with nodes := s.nodes.filter (·.name != n.name) ++ [n] }

/-- Takes the node of a name away. -/
def dropNode (s : ClusterState) (name : String) : ClusterState :=
  { s with nodes := s.nodes.filter (·.name != name) }

/-- Puts a pod in place of the one with its namespace and name, behind all others. -/
def putPod (s : ClusterState) (p : Pod) : ClusterState :=
  { s with pods := s.pods.filter (·.identity != p.identity) ++ [p] }

/-- Puts a workload in place of the one with its key, behind all others. -/
def putWorkload (s : ClusterState) (w : Workload) : ClusterState :=
  { s with workloads := s.workloads.filter (·.key ≠ w.key) ++ [w] }

/-- Takes the workload of a key away. -/
def dropWorkload (s : ClusterState) (key : ResourceKey) : ClusterState :=
  { s with workloads := s.workloads.filter (·.key ≠ key) }

/-! ## Calls -/

/-- A change of a node that has to be there. -/
def onNode (s : ClusterState) (c : ClusterCall) (name : String) (change : Node → Node) :
    Except IsolationError Unit × ClusterState :=
  match s.findNode name with
  | some _ => (.ok (), s.changeNode name change)
  | none => (.error (c.error (notFound "nodes" name)), s)

/-- A change of a workload that has to be there. -/
def onWorkload (s : ClusterState) (c : ClusterCall) (key : ResourceKey)
    (change : Workload → Workload) : Except IsolationError Unit × ClusterState :=
  match s.findWorkload key with
  | some _ => (.ok (), s.changeWorkload key change)
  | none => (.error (c.error (notFound (workloadPlural key.kind) key.name)), s)

/-- What a call answers and does. -/
def perform (s : ClusterState) : (c : ClusterCall) → Except IsolationError c.Reply × ClusterState
  | .getNode name =>
    match s.findNode name with
    | some n => (.ok n, s)
    | none => (.error (.getNode name (notFound "nodes" name)), s)
  | .listNodes => (.ok s.nodes, s)
  | .cordonNode name => s.onNode (.cordonNode name) name (·.withUnschedulable true)
  | .uncordonNode name => s.onNode (.uncordonNode name) name (·.withUnschedulable false)
  | .setNodeTaints n taints => s.onNode (.setNodeTaints n taints) n.name (·.withTaints taints)
  | .setNodeLabel n key value =>
    s.onNode (.setNodeLabel n key value) n.name (·.withLabel key value)
  | .listPods filter => (.ok (s.pods.filter (s.selects filter)), s)
  | .getPod ns name => (.ok (s.findPod (ns ++ "/" ++ name)), s)
  | .createPod p =>
    match s.findPod p.identity with
    | some _ =>
      (.error (.createPod p.metadata.anyNamespace p.name (alreadyExists "pods" p.name)), s)
    | none => (.ok (), { s with pods := s.pods ++ [p] })
  | .deletePod ns name =>
    match s.findPod (ns ++ "/" ++ name) with
    | some _ => (.ok (), s.removePod (ns ++ "/" ++ name))
    | none => (.error (.deletePod ns name (notFound "pods" name)), s)
  | .patchPodLabels p patch =>
    match s.findPod p.identity with
    | some _ => (.ok (), s.changePod p.identity (relabel patch))
    | none => (.error (.labelPod p.metadata.anyNamespace p.name (notFound "pods" p.name)), s)
  | .getWorkload key =>
    match s.findWorkload key with
    | some w => (.ok w, s)
    | none => (.error (.getWorkload key (notFound (workloadPlural key.kind) key.name)), s)
  | .setWorkloadTolerations w tolerations =>
    s.onWorkload (.setWorkloadTolerations w tolerations) w.key
      ({ · with tolerations := tolerations })
  | .setWorkloadNodeSelector w selector =>
    s.onWorkload (.setWorkloadNodeSelector w selector) w.key ({ · with nodeSelector := selector })
  | .evictPod p dryRun =>
    match s.findPod p.identity with
    | some _ => (.ok true, if dryRun then s else s.removePod p.identity)
    | none => (.error (.nonRetriableEviction p.name (notFound "pods" p.name)), s)

end ClusterState

end Cordon
