import Cordon.Isolation.DebugPod
import Cordon.Quarantine.Status

/-! # Nodes to isolate

A `Target` is a node of a request with everything settled: its workloads by kind, its flags and its
debug setting. It comes from a request, or, for a node that the request no longer names, from the
record of the node. `Target.observed` is the record of a target, and
`daemonsetsDiffer` and `deploymentsDiffer` compare the two.
-/

namespace Cordon

/-- A node with its workloads and flags settled. -/
structure Target where
  name : String
  isolate : Bool
  daemonsets : List ResourceRef
  deployments : List ResourceRef
  flags : ResolvedFlags
  debug : DebugSpec
deriving DecidableEq

namespace Target

/-- Settles a node whose workloads are known. -/
def ofResources (name : String) (isolate : Bool) (resources : List ResourceRef)
    (flags : ResolvedFlags) (debug : DebugSpec) : Target :=
  { name, isolate, flags, debug
    daemonsets := resources.filter (·.kind = .daemonset)
    deployments := resources.filter (·.kind ≠ .daemonset) }

/-- A node of a request: its own workloads come before the request's, and its own flags before the
request's. -/
def resolve (node : NodeSpec) (spec : QuarantineSpec) : Target :=
  ofResources node.name node.isolate (ResourceRef.merge node.resources spec.resources)
    (DrainFlags.resolve spec.flags node.flags) spec.debug

/-- A node that is no longer named, from its record. -/
def ofObserved (observed : ObservedNode) (spec : QuarantineSpec) : Target :=
  ofResources observed.name observed.isolate observed.resources
    (DrainFlags.resolve spec.flags none) spec.debug

/-- The tracked workloads, daemon sets first. -/
def resources (t : Target) : List ResourceRef := t.daemonsets ++ t.deployments

/-- The workloads whose pods stay on the node. -/
def kept (t : Target) : List ResourceRef := t.resources.filter (·.keep)

/-- The record of a node in this shape. -/
def observed (t : Target) : ObservedNode := ⟨t.name, t.isolate, ResourceRef.sort t.resources⟩

/-- Whether the daemon sets are not those of a record. -/
def daemonsetsDiffer (t : Target) (o : ObservedNode) : Bool :=
  !ResourceRef.sameSet t.daemonsets (o.resources.filter (·.kind = .daemonset))

/-- Whether the deployments are not those of a record. -/
def deploymentsDiffer (t : Target) (o : ObservedNode) : Bool :=
  !ResourceRef.sameSet t.deployments (o.resources.filter (·.kind = .deployment))

def debugPodName (t : Target) : String := DebugPod.name t.name

end Target

end Cordon
