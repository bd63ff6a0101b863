import Cordon.Json.Decode

/-! # Status replies

The cluster answers a request that has no object to show with a `Status`: whether the request
succeeded, and a code, a message and a reason. The same value says why a request was not admitted.
-/

namespace Cordon.Kube

/-- Whether a request succeeded. -/
inductive Summary where
  | success
  | failure
deriving DecidableEq

def Summary.text : Summary → String
  | .success => "Success"
  | .failure => "Failure"

/-- What is said of a request. -/
structure Status where
  summary : Option Summary
  code : Nat
  message : String
  reason : String
deriving DecidableEq

namespace Status

def blank : Status := ⟨none, 0, "", ""⟩

def failure (message reason : String) : Status := ⟨some .failure, 0, message, reason⟩

end Status

/-! ## JSON form -/

def Summary.decode : Json.Decoder Summary :=
  .variant [("Success", .success), ("Failure", .failure)]

def statusCause : Json.Decoder Unit :=
  ((((Json.Record.of fun (_ _ _ : String) => ()).field
    (.default "reason" .text "")).field
    (.default "message" .text "")).field
    (.default "field" .text "")).decode "StatusCause"

def statusDetails : Json.Decoder Unit :=
  (((((((Json.Record.of fun (_ _ _ _ : String) (_ : List Unit) (_ : Int) => ()).field
    (.default "name" .text "")).field
    (.default "group" .text "")).field
    (.default "kind" .text "")).field
    (.default "uid" .text "")).field
    (.default "causes" (.list statusCause) [])).field
    (.default "retryAfterSeconds" (.integer 0 4294967295 "u32") 0)).decode "StatusDetails"

namespace Status

def decode : Json.Decoder Status :=
  ((((((Json.Record.of fun summary (code : Int) message reason (_ : Option Unit) =>
      Status.mk summary code.toNat message reason).field
    (.optional "status" Summary.decode)).field
    (.default "code" .word16 0)).field
    (.default "message" .text "")).field
    (.default "reason" .text "")).field
    (.optional "details" statusDetails)).decode "Status"

def unlessEmpty (s : String) : Option Json := if s.isEmpty then none else some (.str s)

/-- The written form of a status: what is not said is left out. -/
def toJson (s : Status) : Json :=
  Json.objectOf
    [("status", s.summary.map fun v => .str v.text),
     ("code", if s.code = 0 then none else some (.nat s.code)),
     ("message", unlessEmpty s.message),
     ("reason", unlessEmpty s.reason)]

end Status

end Cordon.Kube
