import Cordon.Text.Quoted

/-! # Failed requests

A request to the cluster fails because the cluster answers with an error, because no answer comes,
because the answer cannot be understood, or because the request cannot be written. The class of a
failure says how it should be handled.
-/

namespace Cordon.Kube

/-- An error that the cluster answers with. -/
structure ErrorReply where
  status : String
  message : String
  reason : String
  code : Nat
deriving DecidableEq

/-- Why a request cannot be written. -/
inductive BuildFault where
  | invalid (message : String)
  | invalidPath
deriving DecidableEq

/-- Why a request failed. -/
inductive Failure where
  | reply (error : ErrorReply)
  | transport (message : String)
  | undecodable
  | build (fault : BuildFault)
deriving DecidableEq

/-- How a failure should be handled. -/
inductive ErrorClass where
  /-- The object is absent: success for removals, a failure for look-ups that need it. -/
  | notFound
  /-- More than one object is there where exactly one must be. -/
  | ambiguous
  /-- A conflict, a timeout or the network: a later pass may succeed. -/
  | transient
  /-- The request itself is wrong, so that another try will not help. -/
  | invariantViolation
  /-- An operation on several nodes stopped partway. -/
  | partialFailure
deriving DecidableEq

def ErrorClass.text : ErrorClass → String
  | .notFound => "NotFound"
  | .ambiguous => "Ambiguous"
  | .transient => "Transient"
  | .invariantViolation => "InvariantViolation"
  | .partialFailure => "PartialFailure"

def ErrorClass.isRetryable : ErrorClass → Bool
  | .transient | .partialFailure => true
  | _ => false

/-- The text of an error reply: its message and reason, then all of it. -/
def ErrorReply.text (e : ErrorReply) : String :=
  "ApiError: " ++ e.message ++ ": " ++ e.reason ++ " (ErrorResponse \x7b status: " ++
    Text.quoted e.status ++ ", message: " ++ Text.quoted e.message ++ ", reason: " ++
    Text.quoted e.reason ++ ", code: " ++ toString e.code ++ " \x7d)"

def BuildFault.text : BuildFault → String
  | .invalid message => "failed to validate request: " ++ message
  | .invalidPath => "failed to build request: invalid uri character"

namespace Failure

def text : Failure → String
  | reply e => e.text
  | transport message => "ServiceError: " ++ message
  | undecodable => "Error deserializing response"
  | build fault => "Failed to build request: " ++ fault.text

/-- An absent object is told from a wrong request, and a wrong request from a passing trouble, by
the code of the reply; a request that cannot be written and a reply that cannot be read stay wrong.
-/
def errorClass : Failure → ErrorClass
  | reply e =>
    if e.code = 404 then .notFound
    else if e.code = 400 ∨ e.code = 403 ∨ e.code = 422 then .invariantViolation
    else .transient
  | transport _ => .transient
  | undecodable => .invariantViolation
  | build _ => .invariantViolation

end Failure

end Cordon.Kube
