import Cordon.Kube.Failure
import Cordon.Quarantine.Resource

/-! # What can go wrong with the cluster

An `IsolationError` says which call or lookup failed, on what, and why.
-/

namespace Cordon

open Kube (Failure ErrorClass)

/-- A failed call to the cluster, or an answer that cannot be worked with. -/
inductive IsolationError where
  | getNode (node : String) (source : Failure)
  | listNodes (source : Failure)
  | cordonNode (node : String) (source : Failure)
  | uncordonNode (node : String) (source : Failure)
  | updateNodeTaints (node : String) (source : Failure)
  | labelNode (node : String) (source : Failure)
  | listPods (filter : String) (source : Failure)
  | getPod (namespaceName name : String) (source : Failure)
  | createPod (namespaceName name : String) (source : Failure)
  | deletePod (namespaceName name : String) (source : Failure)
  | labelPod (namespaceName name : String) (source : Failure)
  | getWorkload (key : ResourceKey) (source : Failure)
  | updateWorkload (key : ResourceKey) (source : Failure)
  | missingPodTemplate (key : ResourceKey)
  /-- An eviction failed and may be tried again. -/
  | retriableEviction (pod : String) (source : Failure)
  /-- An eviction failed for good. -/
  | nonRetriableEviction (pod : String) (source : Failure)
  | evictionRefused (pod : String)
  | undrainablePod (pod reason : String)
  | deschedulePod (node pod : String) (source : IsolationError)
  | controllerPodNotFound (selector namespaceName : String)
  | ambiguousControllerPod (count : Nat) (selector namespaceName : String)
  | controllerPodUnscheduled (pod : String)
deriving DecidableEq

namespace IsolationError

/-- A text between single quotes. -/
def inQuotes (s : String) : String := "'" ++ s ++ "'"

def message : IsolationError → String
  | getNode n e => "Unable to get Node " ++ inQuotes n ++ ": " ++ inQuotes e.text
  | listNodes e => "Unable to list Nodes: " ++ inQuotes e.text
  | cordonNode n e => "Unable to cordon Node " ++ inQuotes n ++ ": " ++ inQuotes e.text
  | uncordonNode n e => "Unable to uncordon Node " ++ inQuotes n ++ ": " ++ inQuotes e.text
  | updateNodeTaints n e =>
    "Unable to update taints of Node " ++ inQuotes n ++ ": " ++ inQuotes e.text
  | labelNode n e => "Unable to update labels of Node " ++ inQuotes n ++ ": " ++ inQuotes e.text
  | listPods f e => "Unable to list Pods matching " ++ inQuotes f ++ ": " ++ inQuotes e.text
  | getPod ns n e => "Unable to get Pod " ++ inQuotes (ns ++ "/" ++ n) ++ ": " ++ inQuotes e.text
  | createPod ns n e =>
    "Unable to create Pod " ++ inQuotes (ns ++ "/" ++ n) ++ ": " ++ inQuotes e.text
  | deletePod ns n e =>
    "Unable to delete Pod " ++ inQuotes (ns ++ "/" ++ n) ++ ": " ++ inQuotes e.text
  | labelPod ns n e =>
    "Unable to update labels of Pod " ++ inQuotes (ns ++ "/" ++ n) ++ ": " ++ inQuotes e.text
  | getWorkload k e => "Unable to get workload " ++ inQuotes k.text ++ ": " ++ inQuotes e.text
  | updateWorkload k e =>
    "Unable to update pod template of workload " ++ inQuotes k.text ++ ": " ++ inQuotes e.text
  | missingPodTemplate k => "Workload " ++ inQuotes k.text ++ " has no pod template"
  | retriableEviction p e =>
    "Unable to create eviction for Pod " ++ inQuotes p ++ ": " ++ inQuotes e.text
  | nonRetriableEviction p e =>
    "Unable to create eviction for Pod " ++ inQuotes p ++ ": " ++ inQuotes e.text
  | evictionRefused p => "Eviction of Pod " ++ inQuotes p ++ " was refused"
  | undrainablePod p reason => "Refusing to remove Pod " ++ inQuotes p ++ ": " ++ reason
  | deschedulePod n p e =>
    "Unable to deschedule Pod " ++ inQuotes p ++ " from Node " ++ inQuotes n ++ ": " ++
      inQuotes e.message
  | controllerPodNotFound s ns =>
    "No controller Pod matching " ++ inQuotes s ++ " in namespace " ++ inQuotes ns
  | ambiguousControllerPod n s ns =>
    "Found " ++ toString n ++ " controller Pods matching " ++ inQuotes s ++ " in namespace " ++
      inQuotes ns ++ ", expected exactly one"
  | controllerPodUnscheduled p => "Controller Pod " ++ inQuotes p ++ " is not scheduled to a Node"

def errorClass : IsolationError → ErrorClass
  | getNode _ e | listNodes e | cordonNode _ e | uncordonNode _ e | updateNodeTaints _ e
  | labelNode _ e | listPods _ e | getPod _ _ e | createPod _ _ e | deletePod _ _ e
  | labelPod _ _ e | getWorkload _ e | updateWorkload _ e | nonRetriableEviction _ e =>
    e.errorClass
  | retriableEviction _ _ | evictionRefused _ | controllerPodUnscheduled _ => .transient
  | missingPodTemplate _ | undrainablePod _ _ => .invariantViolation
  | deschedulePod _ _ e => e.errorClass
  | controllerPodNotFound _ _ => .notFound
  | ambiguousControllerPod _ _ _ => .ambiguous

/-- Whether the object in question is absent. -/
def isNotFound (e : IsolationError) : Bool := e.errorClass = .notFound

/-- Whether an eviction should be tried again at once. -/
def shouldRetry : IsolationError → Bool
  | retriableEviction _ _ => true
  | _ => false

end IsolationError

end Cordon
