import Cordon.Controller.Locate
import Cordon.Quarantine.Object

/-! # Which quarantines are let in

A new quarantine is refused if its node names are no good or if it names the node that the
controller runs on, which would strand the controller there. A quarantine is refused as well when it
cannot be told where the controller runs.
-/

namespace Cordon.Admission

open Kube (ErrorClass)

/-- Why a quarantine is refused. -/
inductive AdmissionError where
  | invalidQuarantine (fault : NameFault)
  | locateController (source : IsolationError)
  | controllerNodeQuarantined (node pod : String)
  | missingObject (operation : String)
deriving DecidableEq

namespace AdmissionError

def message : AdmissionError → String
  | invalidQuarantine fault => "Quarantine is invalid: nodes: Validation error: " ++ fault.code
  | locateController e => "Unable to determine where the controller runs: " ++ e.message
  | controllerNodeQuarantined node pod =>
    "Node '" ++ node ++ "' runs the controller Pod '" ++ pod ++
      "' and cannot be quarantined; reschedule the controller first"
  | missingObject operation => "Admission request for " ++ operation ++ " carries no object"

def errorClass : AdmissionError → ErrorClass
  | locateController e => e.errorClass
  | _ => .invariantViolation

end AdmissionError

/-- A check that calls the cluster and may refuse. -/
abbrev Check (α : Type) := ExceptT AdmissionError (Program ClusterApi) α

def locateController (namespaceName : String) : Check (Kube.Pod × String) :=
  ExceptT.mk do
    match ← (Controller.locate namespaceName).run with
    | .ok found => pure (.ok found)
    | .error e => pure (.error (.locateController e))

def checkNew (controllerNamespace : String) (q : Quarantine) : Check Unit :=
  match checkNames q.spec.nodes with
  | some fault => throw (.invalidQuarantine fault)
  | none => do
    let (pod, node) ← locateController controllerNamespace
    if q.spec.nodes.any (·.name == node) then
      throw (.controllerNodeQuarantined node pod.name)
    else pure ()

end Cordon.Admission
