import Cordon.Json.Decode

/-! # Tracked workloads

A quarantine names the daemon sets and deployments whose pods it tracks on a node. A `ResourceKey`
is the identity of such a workload; a `ResourceRef` also says whether the workload's pods stay on
the node.

`merge` joins two lists so that every workload appears once and the first mention of it counts.
-/

namespace Cordon

/-- The kinds of tracked workloads. -/
inductive ResourceKind where
  | daemonset
  | deployment
deriving DecidableEq

def ResourceKind.text : ResourceKind → String
  | .daemonset => "daemonset"
  | .deployment => "deployment"

/-- The identity of a workload. -/
structure ResourceKey where
  kind : ResourceKind
  name : String
  namespaceName : String
deriving DecidableEq

/-- A workload's kind, namespace and name. -/
def ResourceKey.text (k : ResourceKey) : String :=
  k.kind.text ++ "/" ++ k.namespaceName ++ "/" ++ k.name

/-- A mention of a workload, and whether its pods stay on the node. -/
structure ResourceRef where
  kind : ResourceKind
  name : String
  namespaceName : String
  keep : Bool
deriving DecidableEq

namespace ResourceRef

/-- The identity of the workload that is mentioned. -/
def key (r : ResourceRef) : ResourceKey := ⟨r.kind, r.name, r.namespaceName⟩

/-! ## Order -/

/-- Daemon sets stand before deployments, then names, namespaces and the keep flag decide. -/
def le (a b : ResourceRef) : Bool :=
  if a.kind ≠ b.kind then a.kind = .daemonset
  else if a.name ≠ b.name then a.name < b.name
  else if a.namespaceName ≠ b.namespaceName then a.namespaceName < b.namespaceName
  else !a.keep || b.keep

/-- Puts a mention before the first one that it does not follow. -/
def orderedInsert (a : ResourceRef) : List ResourceRef → List ResourceRef
  | [] => [a]
  | b :: rest => if a.le b then a :: b :: rest else b :: orderedInsert a rest

/-- The mentions in order. -/
def sort (l : List ResourceRef) : List ResourceRef := l.foldr orderedInsert []

/-! ## Merging -/

/-- The mentions whose workloads are not among those seen, each workload's first mention only. -/
def firsts : List ResourceKey → List ResourceRef → List ResourceRef
  | _, [] => []
  | seen, r :: rest =>
    if r.key ∈ seen then firsts seen rest else r :: firsts (r.key :: seen) rest

/-- Both lists, each workload once: its first mention counts. -/
def merge (existing incoming : List ResourceRef) : List ResourceRef :=
  firsts [] (existing ++ incoming)

/-- Whether two lists mention the same things, whatever their order and however often. -/
def sameSet (a b : List ResourceRef) : Bool := a.all (· ∈ b) && b.all (· ∈ a)

/-! ## JSON form -/

def decode : Json.Decoder ResourceRef :=
  (((((Json.Record.of ResourceRef.mk).field
    (.required "type" (.variant [("daemonset", .daemonset), ("deployment", .deployment)]))).field
    (.required "name" .text)).field
    (.required "namespace" .text)).field
    (.default "keep" .bool false)).decode "ResourceRef"

def toJson (r : ResourceRef) : Json :=
  Json.object
    [("type", .str r.kind.text), ("name", .str r.name), ("namespace", .str r.namespaceName),
     ("keep", .bool r.keep)]

def listToJson (l : List ResourceRef) : Json := .arr (l.map toJson)

end ResourceRef

end Cordon
