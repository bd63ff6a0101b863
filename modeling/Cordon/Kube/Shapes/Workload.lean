import Cordon.Kube.Shapes.Pod

/-! # Shapes of workloads

Deployments and daemon sets say what their pods look like and how the pods are replaced when that
changes.
-/

namespace Cordon.Kube

open Json (Shape)
open Json.Shape

def templateShape : Shape :=
  .table "PodTemplateSpec" [] [(metaShape, ["metadata"]), (podSpecShape, ["spec"])]

/-- How the pods of a workload are replaced, by the names of the shape and of its inner part. -/
def replacementShape (name rolling : String) : Shape :=
  .table name []
    [(.table rolling [] [(.intOrText, ["maxSurge", "maxUnavailable"])], ["rollingUpdate"]),
     (.text, ["type"])]

/-! ## Deployments -/

def deploymentSpecShape : Shape :=
  .table "DeploymentSpec"
    [(selectorShape, ["selector"]), (templateShape, ["template"])]
    [(.int32, ["minReadySeconds", "progressDeadlineSeconds", "replicas", "revisionHistoryLimit"]),
     (.bool, ["paused"]),
     (replacementShape "DeploymentStrategy" "RollingUpdateDeployment", ["strategy"])]

def deploymentStatusShape : Shape :=
  .table "DeploymentStatus" []
    [(.int32, ["availableReplicas", "collisionCount", "readyReplicas", "replicas",
       "unavailableReplicas", "updatedReplicas"]),
     (.list (conditionShape "DeploymentCondition" ["lastTransitionTime", "lastUpdateTime"]),
       ["conditions"]),
     (.int64, ["observedGeneration"])]

def deploymentShape : Shape :=
  objectShape "apps/v1" "Deployment" []
    [(deploymentSpecShape, ["spec"]), (deploymentStatusShape, ["status"])]

/-! ## Daemon sets -/

def daemonsetSpecShape : Shape :=
  .table "DaemonSetSpec"
    [(selectorShape, ["selector"]), (templateShape, ["template"])]
    [(.int32, ["minReadySeconds", "revisionHistoryLimit"]),
     (replacementShape "DaemonSetUpdateStrategy" "RollingUpdateDaemonSet", ["updateStrategy"])]

def daemonsetStatusShape : Shape :=
  .table "DaemonSetStatus"
    [(.int32, ["currentNumberScheduled", "desiredNumberScheduled", "numberMisscheduled",
       "numberReady"])]
    [(.int32, ["collisionCount", "numberAvailable", "numberUnavailable",
       "updatedNumberScheduled"]),
     (.list (conditionShape "DaemonSetCondition" ["lastTransitionTime"]), ["conditions"]),
     (.int64, ["observedGeneration"])]

def daemonsetShape : Shape :=
  objectShape "apps/v1" "DaemonSet" []
    [(daemonsetSpecShape, ["spec"]), (daemonsetStatusShape, ["status"])]

end Cordon.Kube
