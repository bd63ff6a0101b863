import Cordon.Convention
import Cordon.Json.Value

/-! # The quarantine resource as the cluster knows it

The cluster is told of the quarantine resource by a definition: its names, the columns in which it
is listed, and a schema of what a quarantine may say.
-/

namespace Cordon.Installation

/-! ## Schemas -/

namespace Schema

def ofType (type : String) : Json := .obj [("type", .str type)]

def text : Json := ofType "string"

def bool : Json := ofType "boolean"

def oneOf (values : List String) : Json := text.set "enum" (Json.texts values)

def listOf (items : Json) : Json := (ofType "array").set "items" items

def record (properties : List (String × Json)) (required : List String) : Json :=
  let schema := (ofType "object").set "properties" (Json.object properties)
  if required.isEmpty then schema else schema.set "required" (Json.texts required)

def described (description : String) (schema : Json) : Json :=
  schema.set "description" (.str description)

def withDefault (value : Json) (schema : Json) : Json := schema.set "default" value

def nullable (schema : Json) : Json := schema.set "nullable" (.bool true)

def flag : Json := withDefault (.bool false) bool

def listOrEmpty (items : Json) : Json := withDefault (.arr []) (listOf items)

end Schema

open Schema

/-! ## What a quarantine says -/

def ticked (name : String) : String := "`" ++ name ++ "`"

def resourceSchema : Json :=
  described ("A workload tracked during isolation. " ++ ticked "keep" ++
      " marks workloads whose pods stay on the node.")
    (record
      [("keep", flag), ("name", text), ("namespace", text),
       ("type", oneOf ["daemonset", "deployment"])]
      ["name", "namespace", "type"])

def flagsSchema : Json :=
  record
    (["deleteEmptyDirData", "disableEviction", "force", "ignoreAllDaemonSets", "ignoreErrors"].map
      fun name => (name, nullable bool)) []

def nodeSchema : Json :=
  record
    [("flags", nullable (described
        "Overridable drain flags. Unset flags fall through to the next layer." flagsSchema)),
     ("isolate", described
        "Whether the node is tainted once its pods have been descheduled." flag),
     ("name", text),
     ("rescale", described
        "Accepted and stored for clients. Marked pods are always orphaned from their controller."
        flag),
     ("resources", described
        "Per-node workload list. Entries here take precedence over the cluster-wide list."
        (listOrEmpty resourceSchema))]
    ["name"]

def debugSchema : Json :=
  let image := Convention.defaultDebugImage
  let namespaceName := Convention.defaultDebugNamespace
  described "Debug pod configuration applied to every node in the request."
    (withDefault
      (Json.object
        [("enabled", .bool false), ("image", .str image), ("namespace", .str namespaceName)])
      (record
        [("enabled", flag), ("image", withDefault (.str image) text),
         ("namespace", withDefault (.str namespaceName) text)] []))

def specSchema : Json :=
  described ("The " ++ ticked "QuarantineSpec" ++
      " describes which nodes should be isolated and how their workloads are treated.")
    (record
      [("debug", debugSchema),
       ("flags", described "Cluster-wide drain flags. Individual nodes may override them."
          (withDefault (.obj []) flagsSchema)),
       ("nodes", described "The nodes to quarantine. Node names must be unique."
          (listOrEmpty nodeSchema)),
       ("resources", described
          "Workloads tracked on every node unless a node lists the same workload itself."
          (listOrEmpty resourceSchema))] [])

def conditionSchema : Json :=
  record
    [("lastTransitionTime", nullable (described
        "JsonSchema cannot appropriately handle DateTime objects, so the RFC3339 form is stored."
        text)),
     ("message", withDefault (.str "") text), ("reason", withDefault (.str "") text),
     ("status", oneOf ["True", "False", "Unknown"]), ("type", text)]
    ["status", "type"]

def observedSchema : Json :=
  described
    "A node as it was last converged, used to detect changes and nodes dropped from the request."
    (record
      [("isolate", flag), ("name", text), ("resources", listOrEmpty resourceSchema)] ["name"])

def statusSchema : Json :=
  nullable (record
    [("conditions", listOrEmpty conditionSchema), ("observedNodes", listOrEmpty observedSchema)]
    [])

def quarantineSchema : Json :=
  described ("Auto-generated derived type for QuarantineSpec via " ++ ticked "CustomResource")
    ((record [("spec", specSchema), ("status", statusSchema)] ["spec"]).set "title"
      (.str Convention.kind))

/-! ## The definition -/

def definitionName : String := Convention.plural ++ "." ++ Convention.group

def column (name path : String) : Json :=
  Json.object [("jsonPath", .str path), ("name", .str name), ("type", .str "string")]

def activePath (field : String) : String :=
  ".status.conditions[?(@.type==\"" ++ Convention.activeCondition ++ "\")]." ++ field

/-- The version in which quarantines are served and stored. -/
def servedVersion : Json :=
  Json.object
    [("name", .str "v1alpha1"), ("served", .bool true), ("storage", .bool true),
     ("additionalPrinterColumns", .arr
        [column "Nodes" ".spec.nodes[*].name", column "Active" (activePath "status"),
         column "Reason" (activePath "reason")]),
     ("schema", Json.object [("openAPIV3Schema", quarantineSchema)]),
     ("subresources", Json.object [("status", .obj [])])]

def definition : Json :=
  Json.object
    [("apiVersion", .str "apiextensions.k8s.io/v1"),
     ("kind", .str "CustomResourceDefinition"),
     ("metadata", Json.object [("name", .str definitionName)]),
     ("spec", Json.object
        [("group", .str Convention.group),
         ("names", Json.object
            [("categories", .arr []), ("kind", .str Convention.kind),
             ("plural", .str Convention.plural), ("shortNames", Json.texts ["qr"]),
             ("singular", .str "quarantine")]),
         ("scope", .str "Namespaced"),
         ("versions", .arr [servedVersion])])]

end Cordon.Installation
