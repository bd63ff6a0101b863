import Cordon.Http.Message
import Cordon.Json.Reader
import Cordon.Json.Shape
import Cordon.Kube.Status
import Cordon.Program

/-! # Asking the cluster's API

A `Draft` is a request whose target is still a text. `exchange` sends it and reads the reply: a
reply whose status says so is an error, and any other has to be what is expected. A draft without a
proper target is not sent at all.
-/

namespace Cordon.Http

open Kube (Failure ErrorReply)

/-- The other side: every request gets a reply, or none and a text that says why. -/
abbrev Api : Interface where
  Request := Request
  Answer _ := Except String Reply

/-- A request to be sent. -/
structure Draft where
  method : Method
  target : String
  contentType : Option String
  body : Option Json
deriving DecidableEq

def Draft.request (d : Draft) : Except Kube.BuildFault Request := do
  let target ← Target.parse d.target
  pure ⟨d.method, target, d.contentType, d.body⟩

/-! ## Reading replies -/

def errorReply : Json.Decoder ErrorReply :=
  (((((Json.Record.of fun status message reason (code : Int) =>
      ErrorReply.mk status message reason code.toNat).field
    (.required "status" .text)).field
    (.default "message" .text "")).field
    (.default "reason" .text "")).field
    (.required "code" .word16)).decode "ErrorResponse"

def readText {α : Type} (d : Json.Decoder α) (text : String) : Option α :=
  (Json.readRaw text).bind fun r => (d r).toOption

/-- The error of a failed reply: the one its body states, or else one made of its status and body.
-/
def Reply.error (r : Reply) : ErrorReply :=
  match readText errorReply r.body with
  | some e => e
  | none =>
    ⟨statusText r.status, Text.quoted r.body, "Failed to parse error data", r.status⟩

def Reply.outcome {α : Type} (d : Json.Decoder α) (r : Reply) : Except Failure α :=
  if isFailure r.status then .error (.reply r.error)
  else
    match readText d r.body with
    | some a => .ok a
    | none => .error .undecodable

def exchange {α : Type} (d : Json.Decoder α) (draft : Draft) : Program Api (Except Failure α) :=
  match draft.request with
  | .error fault => .done (.error (.build fault))
  | .ok request => .ask request fun answer =>
    .done (match answer with
      | .error text => .error (.transport text)
      | .ok reply => reply.outcome d)

/-! ## Kinds of requests -/

def Draft.get (path : String) : Draft := ⟨.get, path, none, none⟩

def Draft.list (path : String) (pairs : List (String × String)) : Draft :=
  ⟨.get, path ++ "?" ++ Form.encodePairs pairs, none, none⟩

def Draft.create (path : String) (pairs : List (String × String)) (body : Json) : Draft :=
  ⟨.post, path ++ "?" ++ Form.encodePairs pairs, some "application/json", some body⟩

def Draft.delete (path : String) : Draft :=
  ⟨.delete, path ++ "?", some "application/json", some (.obj [])⟩

/-- Sends changes of an object that are to be merged into it. -/
def Draft.merge (path : String) (patch : Json) : Draft :=
  ⟨.patch, path ++ "?", some "application/merge-patch+json", some patch⟩

/-- Sends changes of an object, where lists are merged by the keys of their items. -/
def Draft.strategicMerge (path : String) (patch : Json) : Draft :=
  ⟨.patch, path ++ "?", some "application/strategic-merge-patch+json", some patch⟩

/-- Sends an object as it should be, in the name of a manager that takes the fields it sets. -/
def Draft.apply (path manager : String) (object : Json) : Draft :=
  ⟨.patch, path ++ "?" ++ Form.encodePairs [("fieldManager", manager), ("force", "true")],
    some "application/apply-patch+yaml", some object⟩

/-! ## Replies of the API -/

def listMeta : Json.Decoder Json :=
  Json.Shape.normalise (.table "ListMeta" []
    [(.text, ["continue", "resourceVersion", "selfLink"]), (.int64, ["remainingItemCount"])])

/-- Reads a list of objects; null stands for no objects. What else the list holds has to have a
value. -/
def listReply {α : Type} (d : Json.Decoder α) : Json.Decoder (List α)
  | .obj es => do
    let _ ← Json.Decoder.entries .any (es.filter fun e => e.1 ≠ "metadata" ∧ e.1 ≠ "items")
    (((Json.Record.of fun (_ : Json) (items : Option (List α)) => items.getD []).field
      (.required "metadata" listMeta)).field
      (.required "items" (Json.Decoder.list d).optional)).ofObject es
  | r => Json.Decoder.mistaken r "struct ObjectList"

/-- Reads the reply to a deletion: a status or the object. The reply as a whole has to have a value.
-/
def deletionReply {α : Type} (d : Json.Decoder α) : Json.Decoder Unit := fun r => do
  let j ← Json.Decoder.any r
  if j.get? "kind" = some (.str "Status") then (Kube.Status.decode r).map fun _ => ()
  else (d r).map fun _ => ()

end Cordon.Http
