import Cordon.Convention
import Cordon.Quarantine.Flags
import Cordon.Quarantine.Resource

/-! # What a quarantine asks for

A quarantine names nodes. For each it says whether the node is tainted, which workloads are tracked
on it, and how pods leave it; some of that may be said once for all nodes.

`checkNames` refuses empty and repeated node names and reports the first one it meets.
-/

namespace Cordon

/-- A node of a quarantine. -/
structure NodeSpec where
  name : String
  /-- Whether the node is tainted once its pods have left. -/
  isolate : Bool
  /-- Kept for clients; marked pods are always taken from their controllers. -/
  rescale : Bool
  flags : Option DrainFlags
  resources : List ResourceRef
deriving DecidableEq

/-- Whether nodes get a debug pod, from which image and in which namespace. -/
structure DebugSpec where
  enabled : Bool
  image : String
  namespaceName : String
deriving DecidableEq

/-- No debug pods; the defaults for image and namespace. -/
def DebugSpec.default : DebugSpec :=
  ⟨false, Convention.defaultDebugImage, Convention.defaultDebugNamespace⟩

/-- What a quarantine asks for. -/
structure QuarantineSpec where
  nodes : List NodeSpec
  debug : DebugSpec
  flags : DrainFlags
  resources : List ResourceRef
deriving DecidableEq

namespace QuarantineSpec

def blank : QuarantineSpec := ⟨[], .default, .unset, []⟩

instance : Inhabited QuarantineSpec := ⟨blank⟩

end QuarantineSpec

/-! ## Validation -/

/-- Why the node names of a request are refused. -/
inductive NameFault where
  | empty
  | duplicate (name : String)
deriving DecidableEq

def NameFault.code : NameFault → String
  | .empty => "empty_node_name"
  | .duplicate _ => "duplicate_node_name"

/-- The first name that is empty or has been seen before. -/
def checkNamesFrom : List String → List NodeSpec → Option NameFault
  | _, [] => none
  | seen, n :: rest =>
    if n.name = "" then some .empty
    else if n.name ∈ seen then some (.duplicate n.name)
    else checkNamesFrom (n.name :: seen) rest

/-- The first node whose name is empty or that of an earlier node. -/
def checkNames (nodes : List NodeSpec) : Option NameFault := checkNamesFrom [] nodes

/-! ## JSON form -/

namespace NodeSpec

def decode : Json.Decoder NodeSpec :=
  ((((((Json.Record.of NodeSpec.mk).field
    (.required "name" .text)).field
    (.default "isolate" .bool false)).field
    (.default "rescale" .bool false)).field
    (.optional "flags" DrainFlags.decode)).field
    (.default "resources" (.list ResourceRef.decode) [])).decode "NodeSpec"

/-- The written form of a node; open flags are left out as a whole. -/
def toJson (n : NodeSpec) : Json :=
  Json.objectOf
    [("name", some (.str n.name)),
     ("isolate", some (.bool n.isolate)),
     ("rescale", some (.bool n.rescale)),
     ("flags", n.flags.map DrainFlags.toJson),
     ("resources", some (ResourceRef.listToJson n.resources))]

end NodeSpec

namespace DebugSpec

def decode : Json.Decoder DebugSpec :=
  ((((Json.Record.of DebugSpec.mk).field
    (.default "enabled" .bool false)).field
    (.default "image" .text Convention.defaultDebugImage)).field
    (.default "namespace" .text Convention.defaultDebugNamespace)).decode "DebugSpec"

def toJson (d : DebugSpec) : Json :=
  Json.object
    [("enabled", .bool d.enabled), ("image", .str d.image), ("namespace", .str d.namespaceName)]

end DebugSpec

namespace QuarantineSpec

def decode : Json.Decoder QuarantineSpec :=
  (((((Json.Record.of QuarantineSpec.mk).field
    (.default "nodes" (.list NodeSpec.decode) [])).field
    (.default "debug" DebugSpec.decode .default)).field
    (.default "flags" DrainFlags.decode .unset)).field
    (.default "resources" (.list ResourceRef.decode) [])).decode "QuarantineSpec"

def toJson (s : QuarantineSpec) : Json :=
  Json.object
    [("nodes", .arr (s.nodes.map NodeSpec.toJson)),
     ("debug", s.debug.toJson),
     ("flags", s.flags.toJson),
     ("resources", ResourceRef.listToJson s.resources)]

end QuarantineSpec

end Cordon
