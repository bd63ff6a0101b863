import Cordon.Controller.Error
import Cordon.Controller.Locate
import Cordon.Drain.Eviction

/-! # Moving the controller

The controller moves off nodes that are to be quarantined: all other nodes are labelled as fit for
it, its deployment is bound to that label, and its pod is evicted, so that the next one starts
elsewhere.
-/

namespace Cordon.Controller

/-- A computation that calls the cluster and may fail in the controller's terms. -/
abbrev Task (α : Type) := ExceptT ControllerError (Program ClusterApi) α

/-- Says what a failed call means here. -/
def explain {α : Type} (wrap : IsolationError → ControllerError) (p : Clustered α) : Task α :=
  ExceptT.mk do
    match ← p.run with
    | .ok a => pure (.ok a)
    | .error e => pure (.error (wrap e))

/-- The label that a node should carry. -/
def desiredLabel (excluded : List String) (node : String) : Option String :=
  if node ∈ excluded then none else some Convention.eligibleValue

/-- Brings the label of one node into line. -/
def labelNode (excluded : List String) (n : Kube.Node) : Task Unit :=
  let desired := desiredLabel excluded n.name
  if n.labels.get? Convention.eligibleLabel = desired then pure ()
  else explain (.labelEligibleNode n.name) (call (.setNodeLabel n Convention.eligibleLabel desired))

/-- Labels the nodes that the controller may run on, and takes the label off all others. -/
def labelNodes (excluded : List String) : Task Unit := do
  let nodes ← explain .listEligibleNodes (call .listNodes)
  nodes.forM (labelNode excluded)

/-- The controller's deployment. -/
def deploymentKey (namespaceName : String) : ResourceKey :=
  ⟨.deployment, Convention.controllerName, namespaceName⟩

/-- Binds the controller's deployment to nodes with the label. -/
def bindDeployment (namespaceName : String) : Task Unit := do
  let w ← explain .controllerNodeSelector (call (.getWorkload (deploymentKey namespaceName)))
  let bound := w.nodeSelector.insert Convention.eligibleLabel Convention.eligibleValue
  if bound = w.nodeSelector then pure ()
  else explain .controllerNodeSelector (call (.setWorkloadNodeSelector w bound))

/-- Moves the controller off nodes. -/
def reschedule (namespaceName : String) (excluded : List String) : Task Unit := do
  let (pod, _) ← explain .locateController (locate namespaceName)
  labelNodes excluded
  bindDeployment namespaceName
  let evicted ← explain (.evictController pod.name)
    (ExceptT.mk ((·.1) <$> Drain.evict (.new ⟨.anyPod, 1, false⟩) pod))
  if evicted then pure () else throw (.controllerEvictionRefused pod.name)

end Cordon.Controller
