/-! # Names that mark quarantined things

The label, taint and finalizer that mark what a quarantine touches, the names of the objects that
the controller creates, and the names it goes by itself.
-/

namespace Cordon.Convention

/-- The group of the quarantine resource. -/
def group : String := "nodequarantine.io"

/-- The version and group of the quarantine resource. -/
def apiVersion : String := "nodequarantine.io/v1alpha1"

/-- The kind of the quarantine resource. -/
def kind : String := "Quarantine"

/-- The plural under which quarantines are served. -/
def plural : String := "quarantines"

/-- The finalizer that keeps a deleted quarantine until its nodes are released. -/
def finalizer : String := "nodequarantine.io/finalizer"

/-! ## Marks -/

/-- The label of a pod that stays on its node. -/
def sentinelKey : String := "quarantine"

@[inherit_doc sentinelKey]
def sentinelValue : String := "true"

/-- What is put before the name of a label to take it from its controller. -/
def orphanMark : String := "quarantined-"

/-- The taint of an isolated node. -/
def taintKey : String := "nodequarantine.io/quarantine"

@[inherit_doc taintKey]
def taintValue : String := "true"

@[inherit_doc taintKey]
def taintEffect : String := "NoSchedule"

/-- The annotation of a pod that a node runs by itself. -/
def mirrorAnnotation : String := "kubernetes.io/config.mirror"

/-! ## Debug pods -/

/-- The name of a node's debug pod is this and the node's name. -/
def debugPodMark : String := "quarantine-debug-"

/-- The label of debug pods. -/
def debugLabel : String := "nodequarantine.io/debug"

/-- Where a debug pod sees the root of its node. -/
def debugMountPath : String := "/host"

/-- The image of debug pods where none is asked for. -/
def defaultDebugImage : String := "busybox:stable"

/-- The namespace of debug pods where none is asked for. -/
def defaultDebugNamespace : String := "default"

/-! ## The controller -/

/-- The namespace the controller is installed into. -/
def controllerNamespace : String := "node-quarantine"

/-- The system that the controller is part of. -/
def system : String := "node-quarantine"

/-- The port on which the controller shows its metrics. -/
def metricsPort : Nat := 8080

/-- The name of the controller's deployment, account and role. -/
def controllerName : String := "node-quarantine-controller"

/-- The label of the controller's pods. -/
def componentLabel : String := "nodequarantine.io/component"

@[inherit_doc componentLabel]
def componentValue : String := "controller"

/-- The label of a node that the controller may run on after it has been moved. -/
def eligibleLabel : String := "nodequarantine.io/controller-eligible"

@[inherit_doc eligibleLabel]
def eligibleValue : String := "true"

/-! ## The active condition -/

/-- The type of the condition that says whether a quarantine is in place. -/
def activeCondition : String := "active"

/-- The reason of the active condition of a quarantine in place. -/
def runningReason : String := "running"

/-- The message of the active condition of a quarantine in place. -/
def runningMessage : String := "all requested nodes are quarantined"

end Cordon.Convention
