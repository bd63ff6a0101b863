/-! # Phases of a quarantine

A quarantine is prepared, becomes active, is updated while it is active, and is stopped from any
phase. No other move is allowed, and nothing follows a stop.
-/

namespace Cordon

/-- The phases. -/
inductive Phase where
  | idle
  | preparing
  | active
  | updating
  | stopped
deriving DecidableEq

namespace Phase

def text : Phase → String
  | idle => "Idle"
  | preparing => "Preparing"
  | active => "Active"
  | updating => "Updating"
  | stopped => "Stopped"

/-- The phase that a loaded quarantine starts in. -/
def ofActive (isActive : Bool) : Phase := if isActive then active else idle

/-- The moves that are allowed. -/
def allows : Phase → Phase → Bool
  | idle, preparing | preparing, active | active, updating | updating, active => true
  | stopped, stopped => false
  | _, stopped => true
  | _, _ => false

/-- The next phase, if the move to it is allowed. -/
def move (current next : Phase) : Option Phase := if current.allows next then some next else none

end Phase

end Cordon
