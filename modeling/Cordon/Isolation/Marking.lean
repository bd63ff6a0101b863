import Cordon.Convention
import Cordon.Dict
import Cordon.Kube.Pod

/-! # Marked pods

A pod that stays on a quarantined node gets the sentinel label, and each of its other labels moves
to a key that no selector of its controller names: the controller no longer counts the pod as its
own and makes another one elsewhere.

`orphanKey` is where a label moves. `markPatch` is the change of labels that marks a pod, if it is
not marked yet; `applyPatch` carries such a change out.
-/

namespace Cordon.Marking

/-! ## Keys -/

/-- A label key in two parts: up to and with its last slash, and the name behind. -/
def splitKey : List Char → List Char × List Char
  | [] => ([], [])
  | c :: rest =>
    let (head, name) := splitKey rest
    -- With no slash from here on, the character belongs to the name.
    if head.isEmpty && c != '/' then ([], c :: name) else (c :: head, name)

/-- The mark in front of an orphaned label's name. -/
def mark : List Char := Convention.orphanMark.toList

/-- Where a label moves: the mark comes before its name, behind the last slash. -/
def orphanKey (key : String) : String :=
  let (head, name) := splitKey key.toList
  String.ofList (head ++ mark ++ name)

/-- Whether a label key has the mark before its name. -/
def isOrphanKey (key : String) : Bool := mark.isPrefixOf (splitKey key.toList).2

/-! ## Label changes -/

/-- A change of labels: values to set, and keys to take away. -/
abbrev LabelPatch := Dict (Option String)

/-- One change of a label. -/
def applyChange (labels : Labels) (change : String × Option String) : Labels :=
  match change.2 with
  | some value => labels.insert change.1 value
  | none => labels.erase change.1

/-- Labels after a change. -/
def applyPatch (labels : Labels) (patch : LabelPatch) : Labels :=
  patch.entries.foldl applyChange labels

/-- Moves one label out of its controller's sight. The sentinel and labels that have moved stay. -/
def orphan (patch : LabelPatch) (label : String × String) : LabelPatch :=
  if label.1 = Convention.sentinelKey || isOrphanKey label.1 then patch
  else (patch.insert label.1 none).insert (orphanKey label.1) (some label.2)

/-- The sentinel, unless it is there. -/
def sentinelPatch (labels : Labels) : LabelPatch :=
  if labels.get? Convention.sentinelKey = some Convention.sentinelValue then .empty
  else .singleton Convention.sentinelKey (some Convention.sentinelValue)

/-- The change that marks a pod with these labels; nothing if it is marked. -/
def markPatch (labels : Labels) : Option LabelPatch :=
  let patch := labels.entries.foldl orphan (sentinelPatch labels)
  if patch.isEmpty then none else some patch

/-- The written form of a change: null takes a label away. -/
def patchToJson (patch : LabelPatch) : Json :=
  .obj (patch.entries.map fun e => (e.1, Json.textOrNull e.2))

/-! ## Pods -/

/-- Whether a pod has the sentinel label. -/
def isQuarantined (p : Kube.Pod) : Bool :=
  p.labels.get? Convention.sentinelKey = some Convention.sentinelValue

/-- Whether a pod is a debug pod, whatever the value of the label. -/
def isDebug (p : Kube.Pod) : Bool := p.labels.contains Convention.debugLabel

end Cordon.Marking
