import Cordon.Dict
import Cordon.Text.Quoted

/-! # Pod queries

A `PodFilter` asks for the pods of a namespace, on a node, with some labels; what it does not name
it does not ask for. The selector strings of the cluster's API are written from it.
-/

namespace Cordon

/-- A query for pods. -/
structure PodFilter where
  namespaceName : Option String
  nodeName : Option String
  labels : Labels
deriving DecidableEq

namespace PodFilter

/-- All pods. -/
def everything : PodFilter := ⟨none, none, .empty⟩

/-- The pods on a node. -/
def onNode (name : String) : PodFilter := { everything with nodeName := some name }

/-- The pods of a namespace. -/
def inNamespace (name : String) : PodFilter := { everything with namespaceName := some name }

/-- Only those of a namespace. -/
def withNamespace (f : PodFilter) (name : String) : PodFilter :=
  { f with namespaceName := some name }

/-- Only those with a label. -/
def withLabel (f : PodFilter) (key value : String) : PodFilter :=
  { f with labels := f.labels.insert key value }

/-- Only those with all of some labels. -/
def withLabels (f : PodFilter) (labels : Labels) : PodFilter :=
  { f with labels := f.labels.union labels }

/-- The requirement on the node, if there is one. -/
def fieldSelector (f : PodFilter) : Option String := f.nodeName.map ("spec.nodeName=" ++ ·)

/-- The requirements on labels, if there are any. -/
def labelSelector (f : PodFilter) : Option String :=
  if f.labels.isEmpty then none
  else some (",".intercalate (f.labels.entries.map fun e => e.1 ++ "=" ++ e.2))

/-- A name that may be there, in messages. -/
def optionText : Option String → String
  | none => "None"
  | some s => "Some(" ++ Text.quoted s ++ ")"

/-- A query in messages. -/
def text (f : PodFilter) : String :=
  "PodFilter \x7b namespace: " ++ optionText f.namespaceName ++ ", node_name: " ++
    optionText f.nodeName ++ ", labels: \x7b" ++
    ", ".intercalate (f.labels.entries.map fun e => Text.quoted e.1 ++ ": " ++ Text.quoted e.2) ++
    "\x7d \x7d"

end PodFilter

/-- Whether labels hold every pair of a selector. A selector without pairs holds for nothing, so
that a workload without match labels claims no pods. -/
def labelsMatch (labels selector : Labels) : Bool :=
  !selector.isEmpty && selector.entries.all fun e => labels.get? e.1 == some e.2

end Cordon
