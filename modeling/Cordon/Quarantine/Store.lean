import Cordon.Kube.Failure
import Cordon.Quarantine.Object

/-! # The store of quarantines

What the controller asks of the place where quarantines are kept: to load one, to put its finalizer
on or take it off, and to replace its status.
-/

namespace Cordon

open Kube (Failure ErrorClass)

/-- A failed call to the store. -/
inductive StoreError where
  | getQuarantine (name : String) (source : Failure)
  | updateFinalizers (name : String) (source : Failure)
  | updateStatus (name : String) (source : Failure)
  | missingNamespace
deriving DecidableEq

namespace StoreError

def message : StoreError → String
  | getQuarantine n e => "Unable to get Quarantine '" ++ n ++ "': '" ++ e.text ++ "'"
  | updateFinalizers n e =>
    "Unable to update finalizers of Quarantine '" ++ n ++ "': '" ++ e.text ++ "'"
  | updateStatus n e => "Unable to update status of Quarantine '" ++ n ++ "': '" ++ e.text ++ "'"
  | missingNamespace => "Quarantine object is missing a namespace."

def errorClass : StoreError → ErrorClass
  | getQuarantine _ e | updateFinalizers _ e | updateStatus _ e => e.errorClass
  | missingNamespace => .invariantViolation

end StoreError

/-- A call to the store. -/
inductive StoreCall where
  | getQuarantine (namespaceName name : String)
  | addFinalizer (quarantine : Quarantine)
  | removeFinalizer (quarantine : Quarantine)
  | updateStatus (quarantine : Quarantine) (status : QuarantineStatus)
deriving DecidableEq

/-- What a call answers when it succeeds. -/
abbrev StoreCall.Reply : StoreCall → Type
  | getQuarantine _ _ => Option Quarantine
  | addFinalizer _ => Unit
  | removeFinalizer _ => Unit
  | updateStatus _ _ => Unit

def StoreCall.error (f : Failure) : StoreCall → StoreError
  | getQuarantine ns n => .getQuarantine (ns ++ "/" ++ n) f
  | addFinalizer q => .updateFinalizers q.requestName f
  | removeFinalizer q => .updateFinalizers q.requestName f
  | updateStatus q _ => .updateStatus q.requestName f

/-- The finalizers with the quarantine finalizer among them. -/
def withFinalizer (l : List String) : List String :=
  if Convention.finalizer ∈ l then l else l ++ [Convention.finalizer]

def withoutFinalizer (l : List String) : List String := l.filter (· ≠ Convention.finalizer)

end Cordon
