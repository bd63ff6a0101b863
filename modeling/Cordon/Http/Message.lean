import Cordon.Http.Form
import Cordon.Kube.Failure

/-! # Requests and replies

A request names a method, a target and what it sends. A target is a path and a query; not every text
is one. A reply is a status and a text.
-/

namespace Cordon.Http

open Kube (BuildFault)

/-- What is asked for. -/
inductive Method where
  | get
  | post
  | patch
  | delete
deriving DecidableEq

def Method.text : Method → String
  | .get => "GET"
  | .post => "POST"
  | .patch => "PATCH"
  | .delete => "DELETE"

/-- What a request is about. -/
structure Target where
  path : String
  query : Option String
deriving DecidableEq

/-- A request. -/
structure Request where
  method : Method
  target : Target
  contentType : Option String
  body : Option Json
deriving DecidableEq

/-- A reply. -/
structure Reply where
  status : Nat
  body : String
deriving DecidableEq

/-! ## Targets -/

def isPathChar (c : Char) : Bool :=
  let n := c.toNat
  n = 0x21 || n = 0x22 || (0x24 ≤ n && n ≤ 0x3B) || n = 0x3D || (0x40 ≤ n && n ≤ 0x5F) ||
    (0x61 ≤ n && n ≤ 0x7E)

def isQueryChar (c : Char) : Bool :=
  let n := c.toNat
  n = 0x21 || (0x24 ≤ n && n ≤ 0x3B) || n = 0x3D || (0x3F ≤ n && n ≤ 0x7E)

/-- Reads a target: the first question mark begins the query, and a number sign ends the target. -/
def Target.parse (text : String) : Except BuildFault Target :=
  let text := text.toList
  let path := text.takeWhile fun c => c ≠ '?' && c ≠ '#'
  if path.all isPathChar then
    match text.drop path.length with
    | '?' :: rest =>
      let query := rest.takeWhile (· ≠ '#')
      if query.all isQueryChar then .ok ⟨.ofList path, some (.ofList query)⟩
      else .error .invalidPath
    | _ => .ok ⟨.ofList path, none⟩
  else .error .invalidPath

def Target.parameters (t : Target) : Labels :=
  match t.query with
  | some q => Form.parameters q
  | none => .empty

/-! ## Replies -/

/-- The phrases of the statuses that say that a request failed. -/
def phrases : List (Nat × String) :=
  [(400, "Bad Request"), (401, "Unauthorized"), (402, "Payment Required"), (403, "Forbidden"),
   (404, "Not Found"), (405, "Method Not Allowed"), (406, "Not Acceptable"),
   (407, "Proxy Authentication Required"), (408, "Request Timeout"), (409, "Conflict"),
   (410, "Gone"), (411, "Length Required"), (412, "Precondition Failed"),
   (413, "Payload Too Large"), (414, "URI Too Long"), (415, "Unsupported Media Type"),
   (416, "Range Not Satisfiable"), (417, "Expectation Failed"), (418, "I'm a teapot"),
   (421, "Misdirected Request"), (422, "Unprocessable Entity"), (423, "Locked"),
   (424, "Failed Dependency"), (426, "Upgrade Required"), (428, "Precondition Required"),
   (429, "Too Many Requests"), (431, "Request Header Fields Too Large"),
   (451, "Unavailable For Legal Reasons"), (500, "Internal Server Error"),
   (501, "Not Implemented"), (502, "Bad Gateway"), (503, "Service Unavailable"),
   (504, "Gateway Timeout"), (505, "HTTP Version Not Supported"),
   (506, "Variant Also Negotiates"), (507, "Insufficient Storage"), (508, "Loop Detected"),
   (510, "Not Extended"), (511, "Network Authentication Required")]

def statusText (status : Nat) : String :=
  toString status ++ " " ++ (phrases.lookup status).getD "<unknown status code>"

def isFailure (status : Nat) : Bool := 400 ≤ status && status < 600

end Cordon.Http
