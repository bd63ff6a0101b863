import Cordon.Kube.Shapes.Workload

/-! # Shapes of installed objects

The tables of those objects that are installed but play no further part: namespaces, accounts and
roles.
-/

namespace Cordon.Installation

open Json (Shape)
open Json.Shape
open Kube (conditionShape objectShape)

def namespaceShape : Shape :=
  objectShape "v1" "Namespace" []
    [(.table "NamespaceSpec" [] [(.list .text, ["finalizers"])], ["spec"]),
     (.table "NamespaceStatus" []
        [(.list (conditionShape "NamespaceCondition" ["lastTransitionTime"]), ["conditions"]),
         (.text, ["phase"])], ["status"])]

def serviceAccountShape : Shape :=
  objectShape "v1" "ServiceAccount" []
    [(.bool, ["automountServiceAccountToken"]),
     (.list Kube.localReferenceShape, ["imagePullSecrets"]),
     (.list Kube.objectReferenceShape, ["secrets"])]

def ruleShape : Shape :=
  .table "PolicyRule"
    [(.list .text, ["verbs"])]
    [(.list .text, ["apiGroups", "nonResourceURLs", "resourceNames", "resources"])]

def clusterRoleShape : Shape :=
  objectShape "rbac.authorization.k8s.io/v1" "ClusterRole" []
    [(.table "AggregationRule" [] [(.list Kube.selectorShape, ["clusterRoleSelectors"])],
       ["aggregationRule"]),
     (.list ruleShape, ["rules"])]

def subjectShape : Shape :=
  .table "Subject" [(.text, ["kind", "name"])] [(.text, ["apiGroup", "namespace"])]

def clusterRoleBindingShape : Shape :=
  objectShape "rbac.authorization.k8s.io/v1" "ClusterRoleBinding"
    [(.table "RoleRef" [(.text, ["apiGroup", "kind", "name"])] [], ["roleRef"])]
    [(.list subjectShape, ["subjects"])]

end Cordon.Installation
