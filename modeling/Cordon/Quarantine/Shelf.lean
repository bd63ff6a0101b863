import Cordon.Cluster.State
import Cordon.Quarantine.Store

/-! # Stored quarantines

`Shelf` holds quarantines in the order in which they came. `Shelf.perform` is what each call to the
store does when nothing goes wrong but that a quarantine is absent. Deleted quarantines without
finalizers leave at the next change.
-/

namespace Cordon

/-- Quarantines in the order in which they came. -/
abbrev Shelf := List Quarantine

namespace Shelf

def lookup (s : Shelf) (name : String) : Option Quarantine := s.find? (·.requestName == name)

/-- Puts a quarantine in place of the one with its namespace and name, behind all others. -/
def put (s : Shelf) (q : Quarantine) : Shelf := s.filter (·.requestName != q.requestName) ++ [q]

/-- Whether a quarantine may leave: it is deleted and nothing holds it. -/
def mayLeave (q : Quarantine) : Bool := q.isDeleting && q.finalizers.isEmpty

/-- The quarantines that stay. -/
def staying (s : Shelf) : Shelf := s.filter (!mayLeave ·)

/-- The quarantine with other finalizers. -/
def withFinalizers (f : List String → List String) (q : Quarantine) : Quarantine :=
  { q with metadata := { q.metadata with finalizers := some (f q.finalizers) } }

/-- Asks for the deletion of every quarantine of a namespace and name. -/
def delete (s : Shelf) (name time : String) : Shelf :=
  staying (s.map fun q =>
    if q.requestName == name then
      { q with metadata := { q.metadata with deletionTimestamp := some time } }
    else q)

/-- Asks for something else in every quarantine of a namespace and name. -/
def respecify (s : Shelf) (name : String) (spec : QuarantineSpec) : Shelf :=
  s.map fun q => if q.requestName == name then { q with spec } else q

/-! ## Calls -/

/-- A change of the first quarantine of its namespace and name, which has to be there. Those leave
that may leave after the change. -/
def changeStored (s : Shelf) (c : StoreCall) (name : String) (f : Quarantine → Quarantine) :
    Except StoreError Unit × Shelf :=
  match s.lookup name with
  | some _ => (.ok (), staying (ClusterState.changeFirst (·.requestName == name) f s))
  | none =>
    (.error (c.error (ClusterState.notFound (Convention.plural ++ "." ++ Convention.group) name)),
      s)

/-- What a call answers and does. -/
def perform (s : Shelf) : (c : StoreCall) → Except StoreError c.Reply × Shelf
  | .getQuarantine ns name => (.ok (s.lookup (ns ++ "/" ++ name)), s)
  | .addFinalizer q => s.changeStored (.addFinalizer q) q.requestName (withFinalizers withFinalizer)
  | .removeFinalizer q =>
    s.changeStored (.removeFinalizer q) q.requestName (withFinalizers withoutFinalizer)
  | .updateStatus q status =>
    s.changeStored (.updateStatus q status) q.requestName fun stored =>
      { stored with status := some status }

end Shelf

end Cordon
