import Cordon.Cluster.Call
import Cordon.Isolation.Repelling
import Cordon.Isolation.Target

/-! # Bringing a node into shape

Each operation here is a short sequence of calls that stops at the first one that fails. Removals
take an absent object for a success. An operation that finds its work done makes no change.
-/

namespace Cordon.Isolation

/-- Nothing more to do if the object in question is absent. -/
def orAbsent (p : Clustered Unit) : Clustered Unit :=
  tryCatch p fun e => if e.isNotFound then pure () else throw e

/-- The answer of a look-up, or nothing if the object is absent. -/
def ifPresent {α : Type} (p : Clustered α) : Clustered (Option α) :=
  tryCatch (some <$> p) fun e => if e.isNotFound then pure none else throw e

/-- A node is isolated once it is closed to scheduling and carries the quarantine taint. -/
def isIsolated (node : String) : Clustered Bool := do
  let n ← call (.getNode node)
  pure (n.isUnschedulable && Repelling.hasTaint n.taints)

/-- Closes a node to scheduling. -/
def disableScheduling (node : String) : Clustered Unit := call (.cordonNode node)

/-- Opens a node to scheduling. -/
def enableScheduling (node : String) : Clustered Unit := orAbsent (call (.uncordonNode node))

/-! ## Tracked workloads -/

/-- Marks a pod that a workload claims, unless it is marked. -/
def markPod (w : Workload) (p : Kube.Pod) : Clustered Unit :=
  if labelsMatch p.labels w.matchLabels then
    match Marking.markPatch p.labels with
    | some patch => call (.patchPodLabels p patch)
    | none => pure ()
  else pure ()

/-- The query for a workload's pods on a node. -/
def podsOf (node : String) (w : Workload) : PodFilter :=
  ((PodFilter.onNode node).withNamespace w.key.namespaceName).withLabels w.matchLabels

/-- Marks a workload's pods on a node. A workload without match labels claims none. -/
def markPods (node : String) (w : Workload) : Clustered Unit :=
  if w.matchLabels.isEmpty then pure ()
  else do
    let pods ← call (.listPods (podsOf node w))
    pods.forM (markPod w)

/-- Lets a workload's pods run on isolated nodes. -/
def addToleration (w : Workload) : Clustered Unit :=
  match Repelling.withToleration w.tolerations with
  | some tolerations => call (.setWorkloadTolerations w tolerations)
  | none => pure ()

/-- Marks the pods of one tracked workload and, on a node to be isolated, lets its pods run there.
-/
def isolateWorkload (node : String) (isolated : Bool) (r : ResourceRef) : Clustered Unit := do
  let w ← call (.getWorkload r.key)
  markPods node w
  if isolated then addToleration w else pure ()

/-- Marks the pods of every tracked workload of a node. -/
def isolate (t : Target) (isolated : Bool) : Clustered Unit :=
  t.resources.forM (isolateWorkload t.name isolated)

/-- Takes the quarantine toleration from a workload. -/
def stripToleration (w : Workload) : Clustered Unit :=
  match Repelling.withoutToleration w.tolerations with
  | some tolerations => call (.setWorkloadTolerations w tolerations)
  | none => pure ()

/-- Takes the quarantine toleration from a workload, if the workload is there. -/
def removeToleration (r : ResourceRef) : Clustered Unit := do
  match ← ifPresent (call (.getWorkload r.key)) with
  | some w => stripToleration w
  | none => pure ()

/-! ## Taints -/

/-- Puts the quarantine taint on a node. -/
def taintNode (node : String) : Clustered Unit := do
  let n ← call (.getNode node)
  match Repelling.withTaint n.taints with
  | some taints => call (.setNodeTaints n taints)
  | none => pure ()

/-- Takes the quarantine taint off a node, if the node is there. -/
def untaintNode (node : String) : Clustered Unit := do
  match ← ifPresent (call (.getNode node)) with
  | some n =>
    match Repelling.withoutTaint n.taints with
    | some taints => call (.setNodeTaints n taints)
    | none => pure ()
  | none => pure ()

/-! ## Pods -/

/-- Gives a node its debug pod, unless a pod of that name is there. -/
def deployDebug (t : Target) : Clustered Unit := do
  match ← call (.getPod t.debug.namespaceName t.debugPodName) with
  | some _ => pure ()
  | none => call (.createPod (DebugPod.make t.name t.debug))

/-- Deletes a debug pod, if it is there. -/
def removeDebug (name namespaceName : String) : Clustered Unit :=
  orAbsent (call (.deletePod namespaceName name))

/-- Deletes a pod, if it is there. -/
def removePod (p : Kube.Pod) : Clustered Unit :=
  orAbsent (call (.deletePod p.metadata.anyNamespace p.name))

/-- Only marked pods. -/
def marked (f : PodFilter) : PodFilter :=
  f.withLabel Convention.sentinelKey Convention.sentinelValue

/-- Deletes the marked pods of a node. -/
def removeIsolatedPods (node : String) : Clustered Unit := do
  let pods ← call (.listPods (marked (.onNode node)))
  pods.forM removePod

/-- Deletes the marked pods of the whole cluster. -/
def cleanupIsolatedPods : Clustered Unit := do
  let pods ← call (.listPods (marked .everything))
  pods.forM removePod

end Cordon.Isolation
