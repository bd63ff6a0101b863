import Cordon.Binary64
import Cordon.Isolation.Error
import Cordon.Lifecycle.Phase
import Cordon.Quarantine.Store
import Cordon.Text.Numeral

/-! # What can go wrong in the controller -/

namespace Cordon

open Kube (ErrorClass)

/-- A failure of the controller. -/
inductive ControllerError where
  | invalidTransition (source target : Phase)
  | nodeStep (step node : String) (source : IsolationError)
  /-- A step on a node took longer than it may, in milliseconds. -/
  | nodeStepTimeout (step node : String) (timeout : Nat)
  | loadQuarantine (source : StoreError)
  | finalizer (source : StoreError)
  | updateStatus (source : StoreError)
  | missingNamespace (name : String)
  | locateController (source : IsolationError)
  | listEligibleNodes (source : IsolationError)
  | labelEligibleNode (node : String) (source : IsolationError)
  | controllerNodeSelector (source : IsolationError)
  | evictController (pod : String) (source : IsolationError)
  | controllerEvictionRefused (pod : String)
  | metricsRegistration
  | invalidSetting (name value : String) (source : Text.NumeralError)
  | missingSetting (name : String)
deriving DecidableEq

namespace ControllerError

/-- A duration in whole seconds. The seconds are a binary floating point number before they are
rounded, a half going to the even neighbour. -/
def wholeSeconds (milliseconds : Nat) : Nat :=
  let nanos := milliseconds % 1000 * 1000000
  let seconds := (Binary64.nearest false ⟨milliseconds / 1000, 1⟩).getD .zero
  let fraction := (Binary64.nearest false ⟨nanos, 1000000000⟩).getD .zero
  let s := seconds.magnitude
  let f := fraction.magnitude
  ((Binary64.nearest false ⟨s.num * f.den + f.num * s.den, s.den * f.den⟩).getD .zero).roundEven

def message : ControllerError → String
  | invalidTransition a b => "Invalid lifecycle transition from " ++ a.text ++ " to " ++ b.text
  | nodeStep step node e => "Failed to " ++ step ++ " node '" ++ node ++ "': '" ++ e.message ++ "'"
  | nodeStepTimeout step node timeout =>
    "Timed out after " ++ toString (wholeSeconds timeout) ++ "s trying to " ++ step ++ " node '" ++
      node ++ "'"
  | loadQuarantine e => "Unable to load Quarantine: '" ++ e.message ++ "'"
  | finalizer e => "Unable to update Quarantine finalizer: '" ++ e.message ++ "'"
  | updateStatus e => "Unable to update Quarantine status: '" ++ e.message ++ "'"
  | missingNamespace name => "Quarantine '" ++ name ++ "' has no namespace"
  | locateController e => "Unable to locate the controller Pod: '" ++ e.message ++ "'"
  | listEligibleNodes e =>
    "Unable to list Nodes eligible for the controller: '" ++ e.message ++ "'"
  | labelEligibleNode node e =>
    "Unable to update eligibility label of Node '" ++ node ++ "': '" ++ e.message ++ "'"
  | controllerNodeSelector e =>
    "Unable to update the controller's node selector: '" ++ e.message ++ "'"
  | evictController pod e =>
    "Unable to evict controller Pod '" ++ pod ++ "': '" ++ e.message ++ "'"
  | controllerEvictionRefused pod => "Eviction of controller Pod '" ++ pod ++ "' did not succeed"
  | metricsRegistration =>
    "Unable to register metrics: 'Duplicate metrics collector registration attempted'"
  | invalidSetting name value e =>
    "Invalid value '" ++ value ++ "' for environment variable '" ++ name ++ "': '" ++ e.message ++
      "'"
  | missingSetting name => "Environment variable '" ++ name ++ "' must be set"

def errorClass : ControllerError → ErrorClass
  | nodeStep _ _ e | locateController e | listEligibleNodes e | labelEligibleNode _ e
  | controllerNodeSelector e | evictController _ e => e.errorClass
  | loadQuarantine e | finalizer e | updateStatus e => e.errorClass
  | nodeStepTimeout _ _ _ | controllerEvictionRefused _ => .transient
  | invalidTransition _ _ | missingNamespace _ | metricsRegistration | invalidSetting _ _ _
  | missingSetting _ => .invariantViolation

end ControllerError

def Phase.transition (current next : Phase) : Except ControllerError Phase :=
  match current.move next with
  | some phase => .ok phase
  | none => .error (.invalidTransition current next)

end Cordon
