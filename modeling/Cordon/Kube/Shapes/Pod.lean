import Cordon.Kube.Shapes.Scheduling
import Cordon.Kube.Shapes.Volume

/-! # Shapes of pods -/

namespace Cordon.Kube

open Json (Shape)
open Json.Shape

/-! ## What a pod asks for -/

def namesConfigShape : Shape :=
  .table "PodDNSConfig" []
    [(.list .text, ["nameservers", "searches"]),
     (.list (.table "PodDNSConfigOption" [] [(.text, ["name", "value"])]), ["options"])]

def hostAliasShape : Shape :=
  .table "HostAlias" [] [(.list .text, ["hostnames"]), (.text, ["ip"])]

def podSecurityShape : Shape :=
  .table "PodSecurityContext" []
    [(.int64, ["fsGroup", "runAsGroup", "runAsUser"]),
     (.text, ["fsGroupChangePolicy"]),
     (.bool, ["runAsNonRoot"]),
     (kernelLabelsShape, ["seLinuxOptions"]),
     (kernelProfileShape, ["seccompProfile"]),
     (.list .int64, ["supplementalGroups"]),
     (.list (.table "Sysctl" [(.text, ["name", "value"])] []), ["sysctls"]),
     (windowsOptionsShape, ["windowsOptions"])]

def podSpecShape : Shape :=
  .table "PodSpec"
    [(.list containerShape, ["containers"])]
    [(.int64, ["activeDeadlineSeconds", "terminationGracePeriodSeconds"]),
     (affinityShape, ["affinity"]),
     (.bool, ["automountServiceAccountToken", "enableServiceLinks", "hostIPC", "hostNetwork",
       "hostPID", "setHostnameAsFQDN", "shareProcessNamespace"]),
     (namesConfigShape, ["dnsConfig"]),
     (.text, ["dnsPolicy", "hostname", "nodeName", "preemptionPolicy", "priorityClassName",
       "restartPolicy", "runtimeClassName", "schedulerName", "serviceAccount",
       "serviceAccountName", "subdomain"]),
     (.list lateContainerShape, ["ephemeralContainers"]),
     (.list hostAliasShape, ["hostAliases"]),
     (.list localReferenceShape, ["imagePullSecrets"]),
     (.list containerShape, ["initContainers"]),
     (.map .text, ["nodeSelector", "overhead"]),
     (.table "PodOS" [(.text, ["name"])] [], ["os"]),
     (.int32, ["priority"]),
     (.list (.table "PodReadinessGate" [(.text, ["conditionType"])] []), ["readinessGates"]),
     (podSecurityShape, ["securityContext"]),
     (.list tolerationShape, ["tolerations"]),
     (.list spreadShape, ["topologySpreadConstraints"]),
     (.list volumeShape, ["volumes"])]

/-! ## What is known of a pod -/

def containerStateShape : Shape :=
  .table "ContainerState" []
    [(.table "ContainerStateRunning" [] [(.time, ["startedAt"])], ["running"]),
     (.table "ContainerStateTerminated"
        [(.int32, ["exitCode"])]
        [(.text, ["containerID", "message", "reason"]), (.time, ["finishedAt", "startedAt"]),
         (.int32, ["signal"])], ["terminated"]),
     (.table "ContainerStateWaiting" [] [(.text, ["message", "reason"])], ["waiting"])]

def containerStatusShape : Shape :=
  .table "ContainerStatus"
    [(.text, ["image", "imageID", "name"]), (.bool, ["ready"]), (.int32, ["restartCount"])]
    [(.text, ["containerID"]), (.bool, ["started"]), (containerStateShape, ["lastState", "state"])]

def podStatusShape : Shape :=
  .table "PodStatus" []
    [(.list (conditionShape "PodCondition" ["lastProbeTime", "lastTransitionTime"]),
       ["conditions"]),
     (.list containerStatusShape,
       ["containerStatuses", "ephemeralContainerStatuses", "initContainerStatuses"]),
     (.text, ["hostIP", "message", "nominatedNodeName", "phase", "podIP", "qosClass", "reason"]),
     (.list (.table "PodIP" [] [(.text, ["ip"])]), ["podIPs"]),
     (.time, ["startTime"])]

def podShape : Shape :=
  objectShape "v1" "Pod" []
    [(podSpecShape, ["spec"]), (podStatusShape, ["status"])]

end Cordon.Kube
