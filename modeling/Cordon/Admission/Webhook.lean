import Cordon.Admission.Review
import Cordon.Json.Reader
import Cordon.Settings

/-! # The admission server

The server answers reviews that are posted to `/validate` and `/mutate`, and `/ping` to show that it
is there. A review that cannot be read is answered by a review that says so; only if no JSON can be
taken from a request, because its body is too long or is no JSON, does the request itself fail.

How JSON is taken from requests is a parameter of `serveBy`; `serve` takes it by
`ServerRequest.json`.
-/

namespace Cordon.Admission

/-- A request to the server: its target is a path, behind which a query may stand. -/
structure ServerRequest where
  method : String
  target : String
  body : Option String
deriving DecidableEq

/-- What is sent back as the body of an answer. -/
inductive ServerBody where
  | text (s : String)
  | json (j : Json)
deriving DecidableEq

/-- An answer of the server. -/
structure ServerAnswer where
  status : Nat
  body : ServerBody
deriving DecidableEq

/-- What the server does. -/
inductive Route where
  | validate
  | mutate
  | ping
deriving DecidableEq

/-! ## Routes -/

/-- Whether an escape of this byte stays as it is. Bytes beyond ASCII stand in no route, so that it
does not matter what becomes of them. -/
def isProtected (byte : Nat) : Bool :=
  byte = '%'.toNat || byte = '/'.toNat || byte = '+'.toNat || 128 ≤ byte

def unescapePath : List Char → List Char
  | '%' :: h :: l :: rest =>
    match Json.hexDigit h, Json.hexDigit l with
    | some a, some b =>
      if isProtected (a * 16 + b) then '%' :: unescapePath (h :: l :: rest)
      else Char.ofNat (a * 16 + b) :: unescapePath rest
    | _, _ => '%' :: unescapePath (h :: l :: rest)
  | c :: rest => c :: unescapePath rest
  | [] => []

def pathOf (target : String) : String :=
  .ofList (unescapePath (target.toList.takeWhile fun c => c ≠ '?' && c ≠ '#'))

def Route.of (method path : String) : Option Route :=
  if method = "POST" ∧ path = "/validate" then some .validate
  else if method = "POST" ∧ path = "/mutate" then some .mutate
  else if method = "GET" ∧ path = "/ping" then some .ping
  else none

/-! ## Bodies -/

/-- The largest number of bytes that a body may have. -/
def bodyLimit : Nat := 2097152

/-- Why no JSON is taken from a request. -/
inductive BodyFault where
  | contentType
  /-- The body is too long; its length is told if the request has announced it. -/
  | tooLong (announced : Option Nat)
  | malformed (reason : String)
deriving DecidableEq

namespace BodyFault

def status : BodyFault → Nat
  | tooLong _ => 413
  | contentType | malformed _ => 400

def message : BodyFault → String
  | contentType => "Content type error"
  | tooLong (some length) =>
    "JSON payload (" ++ toString length ++ " bytes) is larger than allowed (limit: " ++
      toString bodyLimit ++ " bytes)."
  | tooLong none => "JSON payload has exceeded limit (" ++ toString bodyLimit ++ " bytes)."
  | malformed reason => "Json deserialize error: " ++ reason

def answer (fault : BodyFault) : ServerAnswer := ⟨fault.status, .text fault.message⟩

end BodyFault

/-- A way to take JSON from requests. -/
abbrev Extraction : Type := ServerRequest → Except BodyFault Json

/-- Takes the body of a request for JSON, unless it is too long; a request may have announced how
long it is. -/
def ServerRequest.json (announced : Bool) : Extraction := fun r =>
  match r.body with
  | none => .error .contentType
  | some text =>
    if bodyLimit < text.utf8ByteSize then
      .error (.tooLong (if announced then some text.utf8ByteSize else none))
    else (Json.read text).mapError .malformed

/-! ## Answers -/

def answerReview (decide : Request → Program ClusterApi Response) (body : Except BodyFault Json) :
    Program ClusterApi ServerAnswer :=
  match body with
  | .error fault => pure fault.answer
  | .ok j =>
    match requestOf j with
    | .error reason => pure ⟨200, .json (invalidReview reason)⟩
    | .ok (type, r) => do
      let response ← decide r
      pure ⟨200, .json (response.inReview type)⟩

/-- Answers a request from which JSON is taken in this way. -/
def serveBy (extract : Extraction) (settings : AdmissionSettings) (r : ServerRequest) :
    Program ClusterApi ServerAnswer :=
  match Route.of r.method (pathOf r.target) with
  | none => pure ⟨404, .text ""⟩
  | some .ping => pure ⟨200, .text "pong"⟩
  | some .validate => answerReview (review settings.controllerNamespace) (extract r)
  | some .mutate => answerReview (fun r => pure (mutate r)) (extract r)

/-- Answers a request whose length has not been announced. -/
def serve : AdmissionSettings → ServerRequest → Program ClusterApi ServerAnswer :=
  serveBy (ServerRequest.json false)

end Cordon.Admission
