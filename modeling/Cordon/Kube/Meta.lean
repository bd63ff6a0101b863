import Cordon.Dict
import Cordon.Kube.Shapes.Meta

/-! # Object metadata

The identity, labels, finalizers and owners of an object of the cluster. `ObjectMeta.entries` is the
written form; `ObjectMeta.ofNormal` reads a value that has the form of `metaShape`.
-/

namespace Cordon.Kube

/-! ## Labels as JSON -/

def labelsOfJson (j : Json) : Labels :=
  match j with
  | .obj es => .ofList (es.filterMap fun e => e.2.asText?.map (e.1, ·))
  | _ => .empty

end Cordon.Kube

namespace Cordon

def Dict.toJson (d : Labels) : Json := .obj (d.entries.map fun e => (e.1, .str e.2))

end Cordon

namespace Cordon.Kube

/-- A reference to the object that owns another one. -/
structure OwnerReference where
  apiVersion : String
  blockOwnerDeletion : Option Bool
  controller : Option Bool
  kind : String
  name : String
  uid : String
deriving DecidableEq

/-- The metadata of an object. -/
structure ObjectMeta where
  name : Option String
  namespaceName : Option String
  generateName : Option String
  labels : Option Labels
  annotations : Option Labels
  finalizers : Option (List String)
  ownerReferences : Option (List OwnerReference)
  resourceVersion : Option String
  deletionTimestamp : Option String
  /-- The fields that are kept and written but play no part. -/
  others : List (String × Json)
deriving DecidableEq

namespace ObjectMeta

def blank : ObjectMeta :=
  ⟨none, none, none, none, none, none, none, none, none, []⟩

instance : Inhabited ObjectMeta := ⟨blank⟩

/-- The name of an object: its own, else the one its name is generated from, else none. -/
def anyName (m : ObjectMeta) : String := (m.name.orElse fun _ => m.generateName).getD ""

def anyNamespace (m : ObjectMeta) : String := m.namespaceName.getD ""

def allLabels (m : ObjectMeta) : Labels := m.labels.getD .empty

end ObjectMeta

/-! ## JSON form -/

def textAt (key : String) (j : Json) : Option String := (j.get? key).bind Json.asText?

def boolAt (key : String) (j : Json) : Option Bool := (j.get? key).bind Json.asBool?

def labelsAt (key : String) (j : Json) : Option Labels := (j.get? key).map labelsOfJson

def listAt (key : String) (j : Json) : Option (List Json) := (j.get? key).bind Json.asList?

def textsAt (key : String) (j : Json) : Option (List String) :=
  (listAt key j).map (·.filterMap Json.asText?)

def OwnerReference.ofNormal (j : Json) : OwnerReference where
  apiVersion := (textAt "apiVersion" j).getD ""
  blockOwnerDeletion := boolAt "blockOwnerDeletion" j
  controller := boolAt "controller" j
  kind := (textAt "kind" j).getD ""
  name := (textAt "name" j).getD ""
  uid := (textAt "uid" j).getD ""

def OwnerReference.toJson (o : OwnerReference) : Json :=
  Json.objectOf
    [("apiVersion", some (.str o.apiVersion)),
     ("blockOwnerDeletion", o.blockOwnerDeletion.map .bool),
     ("controller", o.controller.map .bool),
     ("kind", some (.str o.kind)),
     ("name", some (.str o.name)),
     ("uid", some (.str o.uid))]

namespace ObjectMeta

/-- The fields that have a place of their own in `ObjectMeta`. -/
def ownFields : List String :=
  ["name", "namespace", "generateName", "labels", "annotations", "finalizers", "ownerReferences",
   "resourceVersion", "deletionTimestamp"]

def ofNormal (j : Json) : ObjectMeta where
  name := textAt "name" j
  namespaceName := textAt "namespace" j
  generateName := textAt "generateName" j
  labels := labelsAt "labels" j
  annotations := labelsAt "annotations" j
  finalizers := textsAt "finalizers" j
  ownerReferences := (listAt "ownerReferences" j).map (·.map OwnerReference.ofNormal)
  resourceVersion := textAt "resourceVersion" j
  deletionTimestamp := textAt "deletionTimestamp" j
  others := (j.asEntries?.getD []).filter fun e => !ownFields.contains e.1

def decode : Json.Decoder ObjectMeta := fun r => (metaShape.normalise r).map ofNormal

def toJson (m : ObjectMeta) : Json :=
  Json.objectOf
    ([("name", m.name.map .str),
      ("namespace", m.namespaceName.map .str),
      ("generateName", m.generateName.map .str),
      ("labels", m.labels.map Dict.toJson),
      ("annotations", m.annotations.map Dict.toJson),
      ("finalizers", m.finalizers.map Json.texts),
      ("ownerReferences", m.ownerReferences.map fun l => .arr (l.map OwnerReference.toJson)),
      ("resourceVersion", m.resourceVersion.map .str),
      ("deletionTimestamp", m.deletionTimestamp.map .str)] ++
      m.others.map fun e => (e.1, some e.2))

end ObjectMeta

end Cordon.Kube
