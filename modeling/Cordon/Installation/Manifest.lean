import Cordon.Controller.Locate
import Cordon.Installation.Schema

/-! # Manifests

The objects that make the controller run: its namespace, the definition of the quarantine resource,
an account with a role that lets it do its work, and the deployment. Exactly one pod of the
controller may run at a time, so that a new one is started only after the old one has stopped.
-/

namespace Cordon.Installation

/-- The kinds of objects that are installed. -/
inductive Kind where
  | namespaceObject
  | definition
  | serviceAccount
  | clusterRole
  | clusterRoleBinding
  | deployment
deriving DecidableEq

def Kind.text : Kind → String
  | .namespaceObject => "Namespace"
  | .definition => "CustomResourceDefinition"
  | .serviceAccount => "ServiceAccount"
  | .clusterRole => "ClusterRole"
  | .clusterRoleBinding => "ClusterRoleBinding"
  | .deployment => "Deployment"

def Kind.objectName : Kind → String
  | .namespaceObject => Convention.controllerNamespace
  | .definition => definitionName
  | _ => Convention.controllerName

/-- An object to install. -/
structure Manifest where
  kind : Kind
  object : Json
deriving DecidableEq

def labelsJson (labels : List (String × String)) : Json := (Dict.ofList labels).toJson

def partOf : String × String := ("app.kubernetes.io/part-of", Convention.system)

def managedBy : String × String := ("app.kubernetes.io/managed-by", Convention.system)

/-- The name and namespace of the controller's own objects. -/
def placedName : List (String × Json) :=
  [("name", .str Convention.controllerName), ("namespace", .str Convention.controllerNamespace)]

def namespaceManifest : Json :=
  Json.object
    [("apiVersion", .str "v1"), ("kind", .str "Namespace"),
     ("metadata", Json.object
        [("labels", labelsJson [("name", Convention.controllerNamespace), managedBy, partOf]),
         ("name", .str Convention.controllerNamespace)])]

def serviceAccountManifest : Json :=
  Json.object
    [("apiVersion", .str "v1"), ("kind", .str "ServiceAccount"),
     ("metadata", Json.object placedName)]

def rule (group : String) (resources verbs : List String) : Json :=
  Json.object
    [("apiGroups", Json.texts [group]), ("resources", Json.texts resources),
     ("verbs", Json.texts verbs)]

def readWrite : List String := ["get", "list", "watch", "patch", "update"]

/-- The role of the controller. Quarantines touch nodes, pods and workloads of all namespaces. -/
def clusterRoleManifest : Json :=
  Json.object
    [("apiVersion", .str "rbac.authorization.k8s.io/v1"), ("kind", .str "ClusterRole"),
     ("metadata", Json.object [("name", .str Convention.controllerName)]),
     ("rules", .arr
        [rule Convention.group [Convention.plural, Convention.plural ++ "/status"] readWrite,
         rule "" ["nodes"] readWrite,
         rule "" ["pods"] ["get", "list", "watch", "create", "delete", "patch"],
         rule "" ["pods/eviction"] ["create"],
         rule "apps" ["daemonsets", "deployments"] readWrite])]

def clusterRoleBindingManifest : Json :=
  Json.object
    [("apiVersion", .str "rbac.authorization.k8s.io/v1"), ("kind", .str "ClusterRoleBinding"),
     ("metadata", Json.object [("name", .str Convention.controllerName)]),
     ("roleRef", Json.object
        [("apiGroup", .str "rbac.authorization.k8s.io"), ("kind", .str "ClusterRole"),
         ("name", .str Convention.controllerName)]),
     ("subjects", .arr [Json.object (("kind", .str "ServiceAccount") :: placedName)])]

def containerManifest (image : String) : Json :=
  Json.object
    [("image", .str image), ("name", .str Convention.componentValue),
     ("command", Json.texts ["./controller"]),
     ("env", .arr [Json.object
        [("name", .str "POD_NAMESPACE"),
         ("valueFrom", Json.object [("fieldRef", Json.object
            [("fieldPath", .str "metadata.namespace")])])]]),
     ("ports", .arr [Json.object
        [("containerPort", .nat Convention.metricsPort), ("name", .str "metrics")]])]

def templateManifest (image : String) (pullSecret : Option String) : Json :=
  Json.object
    [("metadata", Json.object
        [("labels", Controller.selector.toJson),
         ("namespace", .str Convention.controllerNamespace)]),
     ("spec", Json.objectOf
        [("containers", some (.arr [containerManifest image])),
         ("imagePullSecrets", pullSecret.map fun name =>
            .arr [Json.object [("name", .str name)]]),
         ("serviceAccountName", some (.str Convention.controllerName))])]

def deploymentManifest (image : String) (pullSecret : Option String) : Json :=
  Json.object
    [("apiVersion", .str "apps/v1"), ("kind", .str "Deployment"),
     ("metadata", Json.object
        (("labels", labelsJson
            [("app.kubernetes.io/component", Convention.componentValue), managedBy, partOf,
             (Convention.componentLabel, Convention.componentValue)]) :: placedName)),
     ("spec", Json.object
        [("replicas", .nat 1),
         ("selector", Json.object [("matchLabels", Controller.selector.toJson)]),
         ("strategy", Json.object [("type", .str "Recreate")]),
         ("template", templateManifest image pullSecret)])]

/-- All manifests, in the order in which they are installed. -/
def manifests (image : String) (pullSecret : Option String) : List Manifest :=
  [⟨.namespaceObject, namespaceManifest⟩,
   ⟨.definition, definition⟩,
   ⟨.serviceAccount, serviceAccountManifest⟩,
   ⟨.clusterRole, clusterRoleManifest⟩,
   ⟨.clusterRoleBinding, clusterRoleBindingManifest⟩,
   ⟨.deployment, deploymentManifest image pullSecret⟩]

end Cordon.Installation
