import Cordon.Kube.Shapes.Scheduling

/-! # Shapes of nodes -/

namespace Cordon.Kube

open Json (Shape)
open Json.Shape

def configSourceShape : Shape :=
  .table "NodeConfigSource" []
    [(.table "ConfigMapNodeConfigSource"
        [(.text, ["kubeletConfigKey", "name", "namespace"])]
        [(.text, ["resourceVersion", "uid"])], ["configMap"])]

def nodeSpecShape : Shape :=
  .table "NodeSpec" []
    [(configSourceShape, ["configSource"]),
     (.text, ["externalID", "podCIDR", "providerID"]),
     (.list .text, ["podCIDRs"]),
     (.list taintShape, ["taints"]),
     (.bool, ["unschedulable"])]

def configStatusShape : Shape :=
  .table "NodeConfigStatus" []
    [(configSourceShape, ["active", "assigned", "lastKnownGood"]), (.text, ["error"])]

def systemInfoShape : Shape :=
  .table "NodeSystemInfo"
    [(.text, ["architecture", "bootID", "containerRuntimeVersion", "kernelVersion",
       "kubeProxyVersion", "kubeletVersion", "machineID", "operatingSystem", "osImage",
       "systemUUID"])] []

def nodeStatusShape : Shape :=
  .table "NodeStatus" []
    [(.list (.table "NodeAddress" [(.text, ["address", "type"])] []), ["addresses"]),
     (.map .text, ["allocatable", "capacity"]),
     (.list (conditionShape "NodeCondition" ["lastHeartbeatTime", "lastTransitionTime"]),
       ["conditions"]),
     (configStatusShape, ["config"]),
     (.table "NodeDaemonEndpoints" []
        [(.table "DaemonEndpoint" [(.int32, ["Port"])] [], ["kubeletEndpoint"])],
       ["daemonEndpoints"]),
     (.list (.table "ContainerImage" [] [(.list .text, ["names"]), (.int64, ["sizeBytes"])]),
       ["images"]),
     (systemInfoShape, ["nodeInfo"]),
     (.text, ["phase"]),
     (.list (.table "AttachedVolume" [(.text, ["devicePath", "name"])] []), ["volumesAttached"]),
     (.list .text, ["volumesInUse"])]

def nodeShape : Shape :=
  objectShape "v1" "Node" []
    [(nodeSpecShape, ["spec"]), (nodeStatusShape, ["status"])]

end Cordon.Kube
