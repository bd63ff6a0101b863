import Cordon.Kube.Meta
import Cordon.Kube.Shapes.Scheduling

/-! # Taints and tolerations

A node repels the pods that do not tolerate its taints.
-/

namespace Cordon.Kube

/-- A taint of a node. -/
structure Taint where
  key : String
  value : Option String
  effect : String
  timeAdded : Option String
deriving DecidableEq

/-- A toleration of a pod or of the pods of a workload. -/
structure Toleration where
  key : Option String
  operator : Option String
  value : Option String
  effect : Option String
  tolerationSeconds : Option Int
deriving DecidableEq

def Taint.ofNormal (j : Json) : Taint where
  key := (textAt "key" j).getD ""
  value := textAt "value" j
  effect := (textAt "effect" j).getD ""
  timeAdded := textAt "timeAdded" j

def Taint.decode : Json.Decoder Taint := fun r => (taintShape.normalise r).map ofNormal

def Taint.toJson (t : Taint) : Json :=
  Json.objectOf
    [("key", some (.str t.key)),
     ("value", t.value.map .str),
     ("effect", some (.str t.effect)),
     ("timeAdded", t.timeAdded.map .str)]

def Toleration.ofNormal (j : Json) : Toleration where
  key := textAt "key" j
  operator := textAt "operator" j
  value := textAt "value" j
  effect := textAt "effect" j
  tolerationSeconds := (j.get? "tolerationSeconds").bind Json.asInt?

def Toleration.decode : Json.Decoder Toleration := fun r =>
  (tolerationShape.normalise r).map ofNormal

def Toleration.toJson (t : Toleration) : Json :=
  Json.objectOf
    [("key", t.key.map .str),
     ("operator", t.operator.map .str),
     ("value", t.value.map .str),
     ("effect", t.effect.map .str),
     ("tolerationSeconds", t.tolerationSeconds.map Json.int)]

def taintsToJson (l : List Taint) : Json := .arr (l.map Taint.toJson)

def tolerationsToJson (l : List Toleration) : Json := .arr (l.map Toleration.toJson)

end Cordon.Kube
