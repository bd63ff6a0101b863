import Cordon.Kube.Shapes.Meta

/-! # Shapes of containers

A container of a pod: what runs in it, with which environment, privileges and volumes, and how it is
looked after.
-/

namespace Cordon.Kube

open Json (Shape)
open Json.Shape

/-! ## Environment -/

/-- A key of a configuration or of a secret, by the name of the shape. -/
def keySelectorShape (name : String) : Shape :=
  .table name [(.text, ["key"])] [(.text, ["name"]), (.bool, ["optional"])]

def fieldSelectorShape : Shape :=
  .table "ObjectFieldSelector" [(.text, ["fieldPath"])] [(.text, ["apiVersion"])]

def resourceSelectorShape : Shape :=
  .table "ResourceFieldSelector" [(.text, ["resource"])] [(.text, ["containerName", "divisor"])]

def variableSourceShape : Shape :=
  .table "EnvVarSource" []
    [(keySelectorShape "ConfigMapKeySelector", ["configMapKeyRef"]),
     (fieldSelectorShape, ["fieldRef"]),
     (resourceSelectorShape, ["resourceFieldRef"]),
     (keySelectorShape "SecretKeySelector", ["secretKeyRef"])]

def variableShape : Shape :=
  .table "EnvVar" [(.text, ["name"])] [(.text, ["value"]), (variableSourceShape, ["valueFrom"])]

/-- All keys of a configuration or of a secret, by the name of the shape. -/
def allKeysShape (name : String) : Shape :=
  .table name [] [(.text, ["name"]), (.bool, ["optional"])]

def variablesSourceShape : Shape :=
  .table "EnvFromSource" []
    [(allKeysShape "ConfigMapEnvSource", ["configMapRef"]),
     (.text, ["prefix"]),
     (allKeysShape "SecretEnvSource", ["secretRef"])]

/-! ## Probes and hooks -/

def commandShape : Shape := .table "ExecAction" [] [(.list .text, ["command"])]

def httpActionShape : Shape :=
  .table "HTTPGetAction"
    [(.intOrText, ["port"])]
    [(.text, ["host", "path", "scheme"]),
     (.list (.table "HTTPHeader" [(.text, ["name", "value"])] []), ["httpHeaders"])]

def socketActionShape : Shape :=
  .table "TCPSocketAction" [(.intOrText, ["port"])] [(.text, ["host"])]

def callActionShape : Shape := .table "GRPCAction" [(.int32, ["port"])] [(.text, ["service"])]

def probeShape : Shape :=
  .table "Probe" []
    [(commandShape, ["exec"]),
     (callActionShape, ["grpc"]),
     (httpActionShape, ["httpGet"]),
     (socketActionShape, ["tcpSocket"]),
     (.int32, ["failureThreshold", "initialDelaySeconds", "periodSeconds", "successThreshold",
       "timeoutSeconds"]),
     (.int64, ["terminationGracePeriodSeconds"])]

/-- What is done when a container has started or is about to stop. -/
def hookShape : Shape :=
  .table "LifecycleHandler" []
    [(commandShape, ["exec"]), (httpActionShape, ["httpGet"]), (socketActionShape, ["tcpSocket"])]

def hooksShape : Shape := .table "Lifecycle" [] [(hookShape, ["postStart", "preStop"])]

/-! ## Privileges -/

def kernelLabelsShape : Shape :=
  .table "SELinuxOptions" [] [(.text, ["level", "role", "type", "user"])]

def kernelProfileShape : Shape :=
  .table "SeccompProfile" [(.text, ["type"])] [(.text, ["localhostProfile"])]

def windowsOptionsShape : Shape :=
  .table "WindowsSecurityContextOptions" []
    [(.text, ["gmsaCredentialSpec", "gmsaCredentialSpecName", "runAsUserName"]),
     (.bool, ["hostProcess"])]

def securityShape : Shape :=
  .table "SecurityContext" []
    [(.bool, ["allowPrivilegeEscalation", "privileged", "readOnlyRootFilesystem", "runAsNonRoot"]),
     (.table "Capabilities" [] [(.list .text, ["add", "drop"])], ["capabilities"]),
     (.text, ["procMount"]),
     (.int64, ["runAsGroup", "runAsUser"]),
     (kernelLabelsShape, ["seLinuxOptions"]),
     (kernelProfileShape, ["seccompProfile"]),
     (windowsOptionsShape, ["windowsOptions"])]

/-! ## Containers -/

def portShape : Shape :=
  .table "ContainerPort"
    [(.int32, ["containerPort"])]
    [(.int32, ["hostPort"]), (.text, ["hostIP", "name", "protocol"])]

def resourcesShape : Shape :=
  .table "ResourceRequirements" [] [(.map .text, ["limits", "requests"])]

def mountShape : Shape :=
  .table "VolumeMount"
    [(.text, ["mountPath", "name"])]
    [(.text, ["mountPropagation", "subPath", "subPathExpr"]), (.bool, ["readOnly"])]

def deviceShape : Shape := .table "VolumeDevice" [(.text, ["devicePath", "name"])] []

def containerFields : List (Shape × List String) :=
  [(.list .text, ["args", "command"]),
   (.list variableShape, ["env"]),
   (.list variablesSourceShape, ["envFrom"]),
   (.text, ["image", "imagePullPolicy", "terminationMessagePath", "terminationMessagePolicy",
     "workingDir"]),
   (hooksShape, ["lifecycle"]),
   (probeShape, ["livenessProbe", "readinessProbe", "startupProbe"]),
   (.list portShape, ["ports"]),
   (resourcesShape, ["resources"]),
   (securityShape, ["securityContext"]),
   (.bool, ["stdin", "stdinOnce", "tty"]),
   (.list deviceShape, ["volumeDevices"]),
   (.list mountShape, ["volumeMounts"])]

def containerShape : Shape := .table "Container" [(.text, ["name"])] containerFields

/-- A container that is put into a running pod, beside another one. -/
def lateContainerShape : Shape :=
  .table "EphemeralContainer" [(.text, ["name"])]
    ((.text, ["targetContainerName"]) :: containerFields)

end Cordon.Kube
