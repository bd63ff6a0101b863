import Cordon.Kube.Meta
import Cordon.Quarantine.Spec
import Cordon.Quarantine.Status

/-! # The quarantine resource

A `Quarantine` is a stored request: metadata, what is asked for, and what is known of it.
-/

namespace Cordon

/-- A quarantine as it is stored. -/
structure Quarantine where
  metadata : Kube.ObjectMeta
  spec : QuarantineSpec
  status : Option QuarantineStatus
deriving DecidableEq

namespace Quarantine

def namespaceName (q : Quarantine) : Option String := q.metadata.namespaceName

def name (q : Quarantine) : String := q.metadata.anyName

def requestName (q : Quarantine) : String := q.metadata.anyNamespace ++ "/" ++ q.name

/-- Whether the quarantine is in place. -/
def isActive (q : Quarantine) : Bool := (q.status.map (·.isActive)).getD false

/-- Whether deletion has been asked for. -/
def isDeleting (q : Quarantine) : Bool := q.metadata.deletionTimestamp.isSome

def finalizers (q : Quarantine) : List String := q.metadata.finalizers.getD []

/-- Whether the finalizer of quarantines is there. -/
def hasFinalizer (q : Quarantine) : Bool := Convention.finalizer ∈ q.finalizers

def observedNodes (q : Quarantine) : List ObservedNode := (q.status.map (·.observedNodes)).getD []

def decode : Json.Decoder Quarantine :=
  ((((Json.Record.of Quarantine.mk).field
    (.required "metadata" Kube.ObjectMeta.decode)).field
    (.required "spec" QuarantineSpec.decode)).field
    (.nullable "status" QuarantineStatus.decode)).decode "Quarantine"

end Quarantine

end Cordon
