import Cordon.Convention
import Cordon.Quarantine.Resource

/-! # What is known of a quarantine

The status of a quarantine holds its conditions and a record of each node as it was last brought
into shape. The condition of type `active` says whether the quarantine is in place; it moves to a
new transition time only when its status changes.
-/

namespace Cordon

/-- Whether a condition holds. -/
inductive ConditionStatus where
  | isTrue
  | isFalse
  | isUnknown
deriving DecidableEq

def ConditionStatus.text : ConditionStatus → String
  | .isTrue => "True"
  | .isFalse => "False"
  | .isUnknown => "Unknown"

/-- A condition of a quarantine. -/
structure Condition where
  type : String
  status : ConditionStatus
  reason : String
  message : String
  lastTransitionTime : Option String
deriving DecidableEq

/-- A node as it was last brought into shape. -/
structure ObservedNode where
  name : String
  isolate : Bool
  resources : List ResourceRef
deriving DecidableEq

/-- What is known of a quarantine. -/
structure QuarantineStatus where
  conditions : List Condition
  observedNodes : List ObservedNode
deriving DecidableEq

namespace QuarantineStatus

def blank : QuarantineStatus := ⟨[], []⟩

instance : Inhabited QuarantineStatus := ⟨blank⟩

/-- Whether a condition is the active condition. -/
def isActiveCondition (c : Condition) : Bool := c.type = Convention.activeCondition

/-- The active condition: the first one of its type. -/
def activeCondition (s : QuarantineStatus) : Option Condition :=
  s.conditions.find? isActiveCondition

/-- A quarantine is in place once its active condition holds with the reason that says so. -/
def isActive (s : QuarantineStatus) : Bool :=
  match s.activeCondition with
  | some c => c.status = .isTrue && c.reason = Convention.runningReason
  | none => false

/-- Whether the active condition's status or message or the records are not these. -/
def differsFrom (s : QuarantineStatus) (status : ConditionStatus) (message : String)
    (observed : List ObservedNode) : Bool :=
  (match s.activeCondition with
    | some c => c.status != status || c.message != message
    | none => true) || s.observedNodes != observed

/-- Puts a condition in place of the first active one, or behind all others. -/
def putActive (c : Condition) : List Condition → List Condition
  | [] => [c]
  | d :: rest => if isActiveCondition d then c :: rest else d :: putActive c rest

/-- Gives the active condition a status, reason and message. The time of the change is `now`, but an
active condition with the same status keeps its time. -/
def setActive (s : QuarantineStatus) (status : ConditionStatus) (reason message now : String) :
    QuarantineStatus :=
  let time := match s.activeCondition with
    | some c => if c.status = status then c.lastTransitionTime else some now
    | none => some now
  { s with
    conditions :=
      putActive ⟨Convention.activeCondition, status, reason, message, time⟩ s.conditions }

end QuarantineStatus

/-! ## JSON form -/

def ConditionStatus.decode : Json.Decoder ConditionStatus :=
  .variant [("True", .isTrue), ("False", .isFalse), ("Unknown", .isUnknown)]

namespace Condition

def decode : Json.Decoder Condition :=
  ((((((Json.Record.of Condition.mk).field
    (.required "type" .text)).field
    (.required "status" ConditionStatus.decode)).field
    (.default "reason" .text "")).field
    (.default "message" .text "")).field
    (.optional "lastTransitionTime" .text)).decode "QuarantineCondition"

def toJson (c : Condition) : Json :=
  Json.objectOf
    [("type", some (.str c.type)),
     ("status", some (.str c.status.text)),
     ("reason", some (.str c.reason)),
     ("message", some (.str c.message)),
     ("lastTransitionTime", c.lastTransitionTime.map .str)]

end Condition

namespace ObservedNode

def decode : Json.Decoder ObservedNode :=
  ((((Json.Record.of ObservedNode.mk).field
    (.required "name" .text)).field
    (.default "isolate" .bool false)).field
    (.default "resources" (.list ResourceRef.decode) [])).decode "ObservedNode"

def toJson (o : ObservedNode) : Json :=
  Json.object
    [("name", .str o.name), ("isolate", .bool o.isolate),
     ("resources", ResourceRef.listToJson o.resources)]

end ObservedNode

namespace QuarantineStatus

def decode : Json.Decoder QuarantineStatus :=
  (((Json.Record.of QuarantineStatus.mk).field
    (.default "conditions" (.list Condition.decode) [])).field
    (.default "observedNodes" (.list ObservedNode.decode) [])).decode "QuarantineStatus"

def toJson (s : QuarantineStatus) : Json :=
  Json.object
    [("conditions", .arr (s.conditions.map Condition.toJson)),
     ("observedNodes", .arr (s.observedNodes.map ObservedNode.toJson))]

end QuarantineStatus

end Cordon
