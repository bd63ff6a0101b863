import Cordon.Json.Shape

/-! # Shapes of what objects have in common

Every object of the cluster has metadata. Many refer to other objects, select some by their labels,
or list conditions they are in.
-/

namespace Cordon.Kube

open Json (Shape)
open Json.Shape

def emptyObject : Json := .obj []

def ownerReferenceShape : Shape :=
  .table "OwnerReference"
    [(.text, ["apiVersion", "kind", "name", "uid"])]
    [(.bool, ["blockOwnerDeletion", "controller"])]

def managedFieldsShape : Shape :=
  .table "ManagedFieldsEntry" []
    [(.text, ["apiVersion", "fieldsType", "manager", "operation", "subresource"]),
     (.any, ["fieldsV1"]),
     (.time, ["time"])]

def metaShape : Shape :=
  .table "ObjectMeta" []
    [(.text, ["clusterName", "generateName", "name", "namespace", "resourceVersion", "selfLink",
       "uid"]),
     (.int64, ["deletionGracePeriodSeconds", "generation"]),
     (.time, ["creationTimestamp", "deletionTimestamp"]),
     (.map .text, ["annotations", "labels"]),
     (.list .text, ["finalizers"]),
     (.list managedFieldsShape, ["managedFields"]),
     (.list ownerReferenceShape, ["ownerReferences"])]

/-- An object of the cluster: it has a fixed version and kind, metadata, and other fields that, by
shape, are always written or may be missing. -/
def objectShape (apiVersion kind : String) (always optional : List (Shape × List String)) : Shape :=
  .record kind (.fixed "apiVersion" apiVersion (.fixed "kind" kind
    (.group .always ((metaShape, ["metadata"]) :: always) (.group .optional optional .none))))

/-- A reference to an object of the same namespace by its name. -/
def localReferenceShape : Shape := .table "LocalObjectReference" [] [(.text, ["name"])]

/-- A reference to an object of the same namespace and of any kind. -/
def typedReferenceShape : Shape :=
  .table "TypedLocalObjectReference" [(.text, ["kind", "name"])] [(.text, ["apiGroup"])]

def objectReferenceShape : Shape :=
  .table "ObjectReference" []
    [(.text, ["apiVersion", "fieldPath", "kind", "name", "namespace", "resourceVersion", "uid"])]

def selectorShape : Shape :=
  .table "LabelSelector" []
    [(.list (.table "LabelSelectorRequirement"
        [(.text, ["key", "operator"])]
        [(.list .text, ["values"])]), ["matchExpressions"]),
     (.map .text, ["matchLabels"])]

/-- A condition of an object, by the name of its shape, with the times that it notes. -/
def conditionShape (name : String) (times : List String) : Shape :=
  .table name [(.text, ["status", "type"])] [(.text, ["message", "reason"]), (.time, times)]

end Cordon.Kube
