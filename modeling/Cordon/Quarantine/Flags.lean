import Cordon.Json.Decode

/-! # Drain flags

Flags steer how pods leave a node. A request sets some of them for all of its nodes and each node
may override them; `DrainFlags.resolve` settles each flag by the node's word, else the request's,
else the default.
-/

namespace Cordon

/-- Flags that are set or left open. -/
structure DrainFlags where
  ignoreAllDaemonSets : Option Bool
  disableEviction : Option Bool
  deleteEmptyDirData : Option Bool
  force : Option Bool
  ignoreErrors : Option Bool
deriving DecidableEq

/-- Flags that are all settled. -/
structure ResolvedFlags where
  /-- Pods of daemon sets are passed over instead of refused. -/
  ignoreAllDaemonSets : Bool
  /-- Pods are deleted instead of evicted. -/
  disableEviction : Bool
  /-- Pods with local storage may be removed. -/
  deleteEmptyDirData : Bool
  /-- Pods without a controller may be removed. -/
  force : Bool
  /-- What goes wrong with single pods does not fail the whole. -/
  ignoreErrors : Bool
deriving DecidableEq

/-- Only pods of daemon sets are passed over by default. -/
def ResolvedFlags.default : ResolvedFlags := ⟨true, false, false, false, false⟩

namespace DrainFlags

/-- Flags that are all open. -/
def unset : DrainFlags := ⟨none, none, none, none, none⟩

/-- The first of two settings that is not open, else the default. -/
def settle (node cluster : Option Bool) (default : Bool) : Bool :=
  (node.orElse fun _ => cluster).getD default

/-- Each flag by the node's word, else the request's, else the default. -/
def resolve (cluster : DrainFlags) (node : Option DrainFlags) : ResolvedFlags :=
  let n := node.getD unset
  let d := ResolvedFlags.default
  { ignoreAllDaemonSets :=
      settle n.ignoreAllDaemonSets cluster.ignoreAllDaemonSets d.ignoreAllDaemonSets
    disableEviction := settle n.disableEviction cluster.disableEviction d.disableEviction
    deleteEmptyDirData :=
      settle n.deleteEmptyDirData cluster.deleteEmptyDirData d.deleteEmptyDirData
    force := settle n.force cluster.force d.force
    ignoreErrors := settle n.ignoreErrors cluster.ignoreErrors d.ignoreErrors }

/-! ## JSON form -/

def flag (name : String) : Json.Field (Option Bool) := .optional name .bool

def decode : Json.Decoder DrainFlags :=
  ((((((Json.Record.of DrainFlags.mk).field
    (flag "ignoreAllDaemonSets")).field
    (flag "disableEviction")).field
    (flag "deleteEmptyDirData")).field
    (flag "force")).field
    (flag "ignoreErrors")).decode "DrainFlags"

def toJson (f : DrainFlags) : Json :=
  Json.objectOf
    [("ignoreAllDaemonSets", f.ignoreAllDaemonSets.map .bool),
     ("disableEviction", f.disableEviction.map .bool),
     ("deleteEmptyDirData", f.deleteEmptyDirData.map .bool),
     ("force", f.force.map .bool),
     ("ignoreErrors", f.ignoreErrors.map .bool)]

end DrainFlags

/-- Settled flags as JSON. -/
def ResolvedFlags.toJson (f : ResolvedFlags) : Json :=
  Json.object
    [("ignoreAllDaemonSets", .bool f.ignoreAllDaemonSets),
     ("disableEviction", .bool f.disableEviction),
     ("deleteEmptyDirData", .bool f.deleteEmptyDirData),
     ("force", .bool f.force),
     ("ignoreErrors", .bool f.ignoreErrors)]

end Cordon
