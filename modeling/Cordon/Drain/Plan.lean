import Cordon.Isolation.Marking
import Cordon.Isolation.Workload
import Cordon.Quarantine.Flags

/-! # Which pods leave a node

`plan` decides for each pod found on a node whether it stays, is evicted or deleted, or may not be
removed. Pods stay that have finished, that are marked, that are debug pods, that the node runs by
itself, or that belong to a kept workload. Pods of daemon sets stay or are refused as the flags say.
-/

namespace Cordon.Drain

open Kube (Pod)

/-- What happens to a pod. -/
inductive Action where
  | skip (reason : String)
  | evict
  | delete
  | refuse (reason : String)
deriving DecidableEq

/-- Whether a pod has finished. -/
def isCompleted (p : Pod) : Bool := p.phase = some "Failed" || p.phase = some "Succeeded"

/-- Whether the node runs the pod by itself. -/
def isMirror (p : Pod) : Bool :=
  (p.metadata.annotations.getD .empty).contains Convention.mirrorAnnotation

/-- Whether some controller keeps the pod running. -/
def hasController (p : Pod) : Bool :=
  (p.metadata.ownerReferences.getD []).any fun o => o.controller == some true

/-- Whether the pod is a daemon set's. -/
def isDaemonsetPod (p : Pod) : Bool :=
  (p.metadata.ownerReferences.getD []).any fun o =>
    o.controller == some true && o.kind == "DaemonSet"

/-- Whether the pod keeps data on the node that is lost with it. -/
def usesEmptyDir (p : Pod) : Bool :=
  ((p.spec.bind (·.volumes)).getD []).any fun v => v.sources.any fun s => s.1 == "emptyDir"

/-- What happens to a pod on a node that is emptied. -/
def plan (p : Pod) (flags : ResolvedFlags) (kept : List Workload) : Action :=
  if isCompleted p then .skip "completed"
  else if Marking.isQuarantined p then .skip "quarantined"
  else if Marking.isDebug p then .skip "debug"
  else if isMirror p then .skip "static mirror pod"
  else if kept.any (·.claims p) then .skip "kept workload"
  else if isDaemonsetPod p then
    if flags.ignoreAllDaemonSets then .skip "member of a DaemonSet"
    else .refuse "managed by a DaemonSet and ignoreAllDaemonSets is not set"
  else if usesEmptyDir p && !flags.deleteEmptyDirData then
    .refuse "uses emptyDir local storage and deleteEmptyDirData is not set"
  else if !hasController p && !flags.force then
    .refuse "not managed by a controller and force is not set"
  else if flags.disableEviction then .delete
  else .evict

end Cordon.Drain
