import Cordon.Admission.Guard
import Cordon.Kube.Status

/-! # Reviews

Before a quarantine is stored, changed or deleted the cluster sends a review that carries a request,
and is sent back a review that carries the response. A new quarantine is checked by `checkNew`; a
changed one only has to be there, beside the one before the change. A request to change a quarantine
on its way in is always allowed, and nothing is changed.
-/

namespace Cordon.Admission

open Kube (Status)

/-- What is about to be done with a quarantine. -/
inductive Operation where
  | create
  | update
  | delete
  | connect
deriving DecidableEq

/-- A request for admission. -/
structure Request where
  uid : String
  operation : Operation
  object : Option Quarantine
  oldObject : Option Quarantine
deriving DecidableEq

/-- The version and kind that a review names. -/
structure ReviewType where
  apiVersion : String
  kind : String
deriving DecidableEq

/-- What is said of a request. -/
structure Response where
  uid : String
  allowed : Bool
  status : Status
deriving DecidableEq

/-! ## Decisions -/

def Request.allow (r : Request) : Response := ⟨r.uid, true, .blank⟩

def Request.deny (r : Request) (e : AdmissionError) : Response :=
  ⟨r.uid, false, { Status.blank with message := e.message }⟩

def check (controllerNamespace : String) (r : Request) : Check Unit :=
  match r.operation with
  | .create =>
    match r.object with
    | some q => checkNew controllerNamespace q
    | none => throw (.missingObject "CREATE")
  | .update =>
    match r.oldObject, r.object with
    | some _, some _ => pure ()
    | _, _ => throw (.missingObject "UPDATE")
  | .delete | .connect => pure ()

def review (controllerNamespace : String) (r : Request) : Program ClusterApi Response := do
  match ← (check controllerNamespace r).run with
  | .ok _ => pure r.allow
  | .error e => pure (r.deny e)

/-- Decides on a request that may be changed on its way in. -/
def mutate (r : Request) : Response := r.allow

/-! ## JSON form -/

def Operation.decode : Json.Decoder Operation :=
  .variant [("CREATE", .create), ("UPDATE", .update), ("DELETE", .delete), ("CONNECT", .connect)]

def kindName : Json.Decoder Unit :=
  ((((Json.Record.of fun (_ _ _ : String) => ()).field
    (.required "group" .text)).field
    (.required "version" .text)).field
    (.required "kind" .text)).decode "GroupVersionKind"

def resourceName : Json.Decoder Unit :=
  (((((Json.Record.of fun (_ _ _ _ : String) => ()).field
    (.required "group" .text)).field
    (.required "version" .text)).field
    (.required "resource" .text)).field
    (.default "api_version" .text "")).decode "GroupVersionResource"

def userInfo : Json.Decoder Json :=
  Json.Shape.normalise (.table "UserInfo" []
    [(.map (.list .text), ["extra"]), (.list .text, ["groups"]), (.text, ["uid", "username"])])

def Request.decode : Json.Decoder Request :=
  ((((((((((((((((Json.Record.of fun uid (_ _ : Unit) (_ : Option String) (_ _ : Option Unit)
      (_ : Option String) (_ : String) (_ : Option String) operation (_ : Json) object oldObject
      (_ : Bool) (_ : Option Json) => Request.mk uid operation object oldObject).field
    (.required "uid" .text)).field
    (.required "kind" kindName)).field
    (.required "resource" resourceName)).field
    (.optional "subResource" .text)).field
    (.optional "requestKind" kindName)).field
    (.optional "requestResource" resourceName)).field
    (.optional "requestSubResource" .text)).field
    (.default "name" .text "")).field
    (.optional "namespace" .text)).field
    (.required "operation" Operation.decode)).field
    (.required "userInfo" userInfo)).field
    (.nullable "object" Quarantine.decode)).field
    (.nullable "oldObject" Quarantine.decode)).field
    (.default "dryRun" .bool false)).field
    (.optional "options" .any)).decode "AdmissionRequest"

def sentResponse : Json.Decoder Unit :=
  ((((((((Json.Record.of fun (_ : String) (_ : Bool) (_ : Status) (_ : Option (List Int))
      (_ : Option Unit) (_ : List (String × String)) (_ : Option (List String)) => ()).field
    (.required "uid" .text)).field
    (.required "allowed" .bool)).field
    (.required "status" Status.decode)).field
    (.nullable "patch" (.list (.integer 0 255 "u8")))).field
    (.nullable "patchType" (.variant [("JSONPatch", ())]))).field
    (.default "auditAnnotations" (.map .text) [])).field
    (.nullable "warnings" (.list .text))).decode "AdmissionResponse"

/-- What a review carries. The version and kind are read after the request and the response. -/
def readReview : Json.Decoder (ReviewType × Option Request)
  | .obj entries => do
    let request ← (((Json.Record.of fun r (_ : Option Unit) => r).field
      (.optional "request" Request.decode)).field
      (.optional "response" sentResponse)).ofObject entries
    let type ← (((Json.Record.of ReviewType.mk).field
      (.required "apiVersion" .text)).field
      (.required "kind" .text)).ofObject entries
    pure (type, request)
  | r => Json.Decoder.mistaken r "struct AdmissionReview"

def requestOf (j : Json) : Except String (ReviewType × Request) :=
  match readReview (.of j) with
  | .error e => .error e.message
  | .ok (_, none) => .error "failed to convert AdmissionReview into AdmissionRequest"
  | .ok (type, some r) => .ok (type, r)

def Response.toJson (r : Response) : Json :=
  Json.object
    [("uid", .str r.uid), ("allowed", .bool r.allowed), ("status", r.status.toJson)]

def Response.inReview (r : Response) (type : ReviewType) : Json :=
  Json.object
    [("apiVersion", .str type.apiVersion), ("kind", .str type.kind), ("response", r.toJson)]

def invalidReview (reason : String) : Json :=
  Response.inReview ⟨"", false, .failure reason "InvalidRequest"⟩
    ⟨"admission.k8s.io/v1beta1", "AdmissionReview"⟩

end Cordon.Admission
