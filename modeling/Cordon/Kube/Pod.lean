import Cordon.Kube.Shapes.Pod
import Cordon.Kube.Taint

/-! # Pods

The parts of a pod that isolation looks at are fields of `Pod` and `PodSpec`; what else a pod says
is kept as it was read and written back.
-/

namespace Cordon.Kube

/-- A container: its name and image, and what else it says. -/
structure Container where
  name : String
  image : Option String
  others : List (String × Json)
deriving DecidableEq

/-- A volume: its name and the sources it names, by kind. -/
structure Volume where
  name : String
  sources : List (String × Json)
deriving DecidableEq

/-- What a pod asks for. -/
structure PodSpec where
  nodeName : Option String
  containers : List Container
  volumes : Option (List Volume)
  tolerations : Option (List Toleration)
  /-- The fields that are kept and written but play no part. -/
  others : List (String × Json)
deriving DecidableEq

/-- What is known of a pod: its phase, and what else is said. -/
structure PodStatus where
  phase : Option String
  others : List (String × Json)
deriving DecidableEq

/-- A pod. -/
structure Pod where
  metadata : ObjectMeta
  spec : Option PodSpec
  status : Option PodStatus
deriving DecidableEq

def Pod.nodeName (p : Pod) : Option String := p.spec.bind (·.nodeName)

def Pod.name (p : Pod) : String := p.metadata.anyName

def Pod.labels (p : Pod) : Labels := p.metadata.allLabels

def Pod.phase (p : Pod) : Option String := p.status.bind (·.phase)

/-! ## JSON form -/

def entriesBeside (names : List String) (j : Json) : List (String × Json) :=
  (j.asEntries?.getD []).filter fun e => !names.contains e.1

def present (entries : List (String × Json)) : List (String × Option Json) :=
  entries.map fun e => (e.1, some e.2)

def Container.ofNormal (j : Json) : Container where
  name := (textAt "name" j).getD ""
  image := textAt "image" j
  others := entriesBeside ["name", "image"] j

def Container.toJson (c : Container) : Json :=
  Json.objectOf ([("name", some (.str c.name)), ("image", c.image.map .str)] ++ present c.others)

def Volume.ofNormal (j : Json) : Volume where
  name := (textAt "name" j).getD ""
  sources := entriesBeside ["name"] j

def Volume.toJson (v : Volume) : Json :=
  Json.objectOf (("name", some (.str v.name)) :: present v.sources)

def PodSpec.ofNormal (j : Json) : PodSpec where
  nodeName := textAt "nodeName" j
  containers := ((listAt "containers" j).getD []).map Container.ofNormal
  volumes := (listAt "volumes" j).map (·.map Volume.ofNormal)
  tolerations := (listAt "tolerations" j).map (·.map Toleration.ofNormal)
  others := entriesBeside ["nodeName", "containers", "volumes", "tolerations"] j

def PodSpec.toJson (s : PodSpec) : Json :=
  Json.objectOf
    ([("nodeName", s.nodeName.map .str),
      ("containers", some (.arr (s.containers.map Container.toJson))),
      ("volumes", s.volumes.map fun l => .arr (l.map Volume.toJson)),
      ("tolerations", s.tolerations.map tolerationsToJson)] ++ present s.others)

def PodStatus.ofNormal (j : Json) : PodStatus where
  phase := textAt "phase" j
  others := entriesBeside ["phase"] j

def PodStatus.toJson (s : PodStatus) : Json :=
  Json.objectOf (("phase", s.phase.map .str) :: present s.others)

def Pod.ofNormal (j : Json) : Pod where
  metadata := .ofNormal ((j.get? "metadata").getD emptyObject)
  spec := (j.get? "spec").map PodSpec.ofNormal
  status := (j.get? "status").map PodStatus.ofNormal

def Pod.decode : Json.Decoder Pod := fun r => (podShape.normalise r).map ofNormal

def Pod.toJson (p : Pod) : Json :=
  Json.objectOf
    [("apiVersion", some (.str "v1")),
     ("kind", some (.str "Pod")),
     ("metadata", some p.metadata.toJson),
     ("spec", p.spec.map PodSpec.toJson),
     ("status", p.status.map PodStatus.toJson)]

end Cordon.Kube
