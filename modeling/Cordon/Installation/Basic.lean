import Cordon.Http.Exchange
import Cordon.Installation.DefinitionShape
import Cordon.Installation.Manifest
import Cordon.Installation.Shapes

/-! # Installing the controller

`install` brings every manifest into the cluster, in order, and takes the fields that it sets from
whoever else had set them. `uninstall` takes the objects away in the opposite order; one that is
gone already counts as taken away. Both stop at the first failure.
-/

namespace Cordon.Installation

open Http (exchange)
open Kube (Failure)

/-- A failed step of an installation. -/
inductive InstallError where
  | apply (kind : Kind) (name : String) (source : Failure)
  | delete (kind : Kind) (name : String) (source : Failure)
deriving DecidableEq

def InstallError.message : InstallError → String
  | .apply kind name e => "Failed to apply " ++ kind.text ++ " '" ++ name ++ "': " ++ e.text
  | .delete kind name e => "Failed to delete " ++ kind.text ++ " '" ++ name ++ "': " ++ e.text

/-- An installation over the cluster's API. -/
abbrev Task (α : Type) := ExceptT InstallError (Program Http.Api) α

/-- The name by which an installation owns the fields that it sets. -/
def fieldManager : String := "quarantinectl"

def Kind.shape : Kind → Json.Shape
  | .namespaceObject => namespaceShape
  | .definition => definitionShape
  | .serviceAccount => serviceAccountShape
  | .clusterRole => clusterRoleShape
  | .clusterRoleBinding => clusterRoleBindingShape
  | .deployment => Kube.deploymentShape

def Kind.path (k : Kind) : String :=
  (match k with
    | .namespaceObject => "/api/v1/namespaces/"
    | .definition => "/apis/apiextensions.k8s.io/v1/customresourcedefinitions/"
    | .serviceAccount =>
      "/api/v1/namespaces/" ++ Convention.controllerNamespace ++ "/serviceaccounts/"
    | .clusterRole => "/apis/rbac.authorization.k8s.io/v1/clusterroles/"
    | .clusterRoleBinding => "/apis/rbac.authorization.k8s.io/v1/clusterrolebindings/"
    | .deployment =>
      "/apis/apps/v1/namespaces/" ++ Convention.controllerNamespace ++ "/deployments/") ++
    k.objectName

def apply (m : Manifest) : Task Unit :=
  ExceptT.mk do
    match ← exchange m.kind.shape.normalise (.apply m.kind.path fieldManager m.object) with
    | .ok _ => pure (.ok ())
    | .error e => pure (.error (.apply m.kind m.kind.objectName e))

def isGone : Failure → Bool
  | .reply e => e.code = 404
  | _ => false

def delete (k : Kind) : Task Unit :=
  ExceptT.mk do
    match ← exchange (Http.deletionReply k.shape.normalise) (.delete k.path) with
    | .ok _ => pure (.ok ())
    | .error e => if isGone e then pure (.ok ()) else pure (.error (.delete k k.objectName e))

def install (image : String) (pullSecret : Option String) : Task Unit :=
  (manifests image pullSecret).forM apply

/-- The kinds of objects in the order in which they are taken away. -/
def removalOrder : List Kind := ((manifests "" none).map (·.kind)).reverse

def uninstall : Task Unit := removalOrder.forM delete

end Cordon.Installation
