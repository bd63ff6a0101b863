import Cordon.Isolation.Repelling
import Cordon.Kube.Pod
import Cordon.Quarantine.Spec

/-! # Debug pods

A debug pod lets someone look around on a quarantined node. It is bound to the node, shares the
node's network and processes, sees the node's root, and tolerates the quarantine taint.
-/

namespace Cordon.DebugPod

open Kube

def name (node : String) : String := Convention.debugPodMark ++ node

/-- The one container of a debug pod, which waits to be used. -/
def container (image : String) : Container :=
  ⟨"debug", some image,
    [("command", Json.texts ["sleep", "infinity"]),
     ("securityContext", Json.object [("privileged", .bool true)]),
     ("stdin", .bool true),
     ("tty", .bool true),
     ("volumeMounts",
       .arr [Json.object
         [("mountPath", .str Convention.debugMountPath), ("name", .str "host-root")]])]⟩

/-- The debug pod of a node. -/
def make (node : String) (debug : DebugSpec) : Pod where
  metadata :=
    { ObjectMeta.blank with
      name := some (name node)
      namespaceName := some debug.namespaceName
      labels := some (.singleton Convention.debugLabel "true") }
  spec := some
    { nodeName := some node
      containers := [container debug.image]
      volumes := some
        [⟨"host-root",
          [("hostPath", Json.object [("path", .str "/"), ("type", .str "Directory")])]⟩]
      tolerations := some [Repelling.quarantineToleration]
      others :=
        [("hostNetwork", .bool true), ("hostPID", .bool true), ("restartPolicy", .str "Always")] }
  status := none

end Cordon.DebugPod
