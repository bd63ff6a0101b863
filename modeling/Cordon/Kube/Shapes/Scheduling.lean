import Cordon.Kube.Shapes.Meta

/-! # Shapes of what decides where pods run

Taints keep pods off a node and tolerations let them on it again. Affinities draw pods to nodes and
to one another, or keep them apart, and spread constraints even them out.
-/

namespace Cordon.Kube

open Json (Shape)
open Json.Shape

def taintShape : Shape :=
  .table "Taint" [(.text, ["effect", "key"])] [(.text, ["value"]), (.time, ["timeAdded"])]

def tolerationShape : Shape :=
  .table "Toleration" []
    [(.text, ["effect", "key", "operator", "value"]), (.int64, ["tolerationSeconds"])]

/-! ## Affinities to nodes -/

def nodeRequirementShape : Shape :=
  .table "NodeSelectorRequirement" [(.text, ["key", "operator"])] [(.list .text, ["values"])]

def nodeTermShape : Shape :=
  .table "NodeSelectorTerm" [] [(.list nodeRequirementShape, ["matchExpressions", "matchFields"])]

def preferredNodeShape : Shape :=
  .table "PreferredSchedulingTerm" [(nodeTermShape, ["preference"]), (.int32, ["weight"])] []

def nodeSelectorShape : Shape :=
  .table "NodeSelector" [(.list nodeTermShape, ["nodeSelectorTerms"])] []

def nodeAffinityShape : Shape :=
  .table "NodeAffinity" []
    [(.list preferredNodeShape, ["preferredDuringSchedulingIgnoredDuringExecution"]),
     (nodeSelectorShape, ["requiredDuringSchedulingIgnoredDuringExecution"])]

/-! ## Affinities to pods -/

/-- Pods, and the label of nodes that says which nodes are near one another. -/
def podTermShape : Shape :=
  .table "PodAffinityTerm"
    [(.text, ["topologyKey"])]
    [(selectorShape, ["labelSelector", "namespaceSelector"]), (.list .text, ["namespaces"])]

def weightedPodShape : Shape :=
  .table "WeightedPodAffinityTerm" [(podTermShape, ["podAffinityTerm"]), (.int32, ["weight"])] []

/-- Which pods a pod is drawn to or kept away from, by the name of the shape. -/
def podAffinityShape (name : String) : Shape :=
  .table name []
    [(.list weightedPodShape, ["preferredDuringSchedulingIgnoredDuringExecution"]),
     (.list podTermShape, ["requiredDuringSchedulingIgnoredDuringExecution"])]

def affinityShape : Shape :=
  .table "Affinity" []
    [(nodeAffinityShape, ["nodeAffinity"]),
     (podAffinityShape "PodAffinity", ["podAffinity"]),
     (podAffinityShape "PodAntiAffinity", ["podAntiAffinity"])]

def spreadShape : Shape :=
  .table "TopologySpreadConstraint"
    [(.int32, ["maxSkew"]), (.text, ["topologyKey", "whenUnsatisfiable"])]
    [(selectorShape, ["labelSelector"]), (.int32, ["minDomains"])]

end Cordon.Kube
