import Cordon.Kube.Shapes.Node
import Cordon.Kube.Taint

/-! # Nodes -/

namespace Cordon.Kube

/-- What a node says of itself: whether pods are kept from being scheduled to it, and its taints. -/
structure NodeSpec where
  unschedulable : Option Bool
  taints : Option (List Taint)
deriving DecidableEq

/-- A node of the cluster. -/
structure Node where
  metadata : ObjectMeta
  spec : Option NodeSpec
deriving DecidableEq

namespace Node

def name (n : Node) : String := n.metadata.anyName

def labels (n : Node) : Labels := n.metadata.allLabels

def taints (n : Node) : List Taint := (n.spec.bind (·.taints)).getD []

/-- Whether pods are kept from being scheduled to a node. -/
def isUnschedulable (n : Node) : Bool := (n.spec.bind (·.unschedulable)).getD false

/-- What a node says of itself, nothing where the field is missing. -/
def specOrBlank (n : Node) : NodeSpec := n.spec.getD ⟨none, none⟩

def withUnschedulable (n : Node) (b : Bool) : Node :=
  { n with spec := some { n.specOrBlank with unschedulable := some b } }

def withTaints (n : Node) (taints : List Taint) : Node :=
  { n with spec := some { n.specOrBlank with taints := some taints } }

def withLabel (n : Node) (key : String) (value : Option String) : Node :=
  let labels := match value with
    | some v => n.labels.insert key v
    | none => n.labels.erase key
  { n with metadata := { n.metadata with labels := some labels } }

def ofNormal (j : Json) : Node where
  metadata := .ofNormal ((j.get? "metadata").getD emptyObject)
  spec := (j.get? "spec").map fun s =>
    ⟨boolAt "unschedulable" s, (listAt "taints" s).map (·.map Taint.ofNormal)⟩

def decode : Json.Decoder Node := fun r => (nodeShape.normalise r).map ofNormal

end Node

end Cordon.Kube
