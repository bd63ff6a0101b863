import Cordon.Cluster.Call

/-! # Finding the controller

There must be exactly one pod with the controller's label, and it must be bound to a node.
-/

namespace Cordon.Controller

def selector : Labels := .singleton Convention.componentLabel Convention.componentValue

def podFilter (namespaceName : String) : PodFilter :=
  (PodFilter.inNamespace namespaceName).withLabels selector

def locate (namespaceName : String) : Clustered (Kube.Pod × String) := do
  let filter := podFilter namespaceName
  let pods ← call (.listPods filter)
  let labels := filter.labelSelector.getD ""
  match pods with
  | [] => throw (.controllerPodNotFound labels namespaceName)
  | [p] =>
    match p.nodeName with
    | some node => pure (p, node)
    | none => throw (.controllerPodUnscheduled p.name)
  | _ => throw (.ambiguousControllerPod pods.length labels namespaceName)

end Cordon.Controller
